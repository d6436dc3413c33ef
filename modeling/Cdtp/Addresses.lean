/-
  The address that `cdtp_server_start` binds to and `cdtp_client_connect` connects to (POSIX branch).

  Both fill a `struct sockaddr_in` that `malloc` left uninitialised, with three writes: `inet_pton` puts
  the four bytes of the host at the pointer it is given, then `sin_family` and `sin_port` are assigned.
  The pointer is that of the STRUCTURE, not of its `sin_addr`; so the host lands in the first four bytes,
  where the two assignments overwrite it, and `sin_addr` keeps what it held before.

  The structure is its sixteen bytes.  What a write leaves of a field is decided by the two rules of
  `CMem` about slices: it reads back, or it is not touched.
-/
import Cdtp.Client
import Cdtp.Lib.BigEndian

namespace Cdtp

open CMem

/-! ## Hosts -/

/-- The value of a string of decimal digits. -/
def decimal (digits : List Char) : Nat :=
  digits.foldl (fun n c => 10 * n + (c.toNat - '0'.toNat)) 0

/-- One to three digits for a number up to 255; `inet_pton` takes no zero before another digit. -/
def octet (digits : List Char) : Option UInt8 :=
  if digits ≠ [] ∧ digits.length ≤ 3 ∧ digits.all Char.isDigit ∧ decimal digits ≤ 255 ∧
      (digits.head? = some '0' → digits.length = 1) then
    some (UInt8.ofNat (decimal digits))
  else none

/-- The four bytes of a dotted quad, in network order. -/
def dottedQuad (host : List Char) : Option Bytes :=
  ((host.splitOn '.').mapM octet).filter fun quad => quad.length == 4

theorem dottedQuad_length {host : List Char} {quad : Bytes} (h : dottedQuad host = some quad) :
    quad.length = 4 := by
  rw [dottedQuad, Option.filter_eq_some_iff] at h
  simpa using h.2

/-- `"localhost"`. -/
def LOCALHOST : List Char := ['l', 'o', 'c', 'a', 'l', 'h', 'o', 's', 't']

/-- `"127.0.0.1"`. -/
def LOOPBACK : List Char := ['1', '2', '7', '.', '0', '.', '0', '.', '1']

/-- "Change 'localhost' to '127.0.0.1'". -/
def numericHost (host : List Char) : List Char := if host = LOCALHOST then LOOPBACK else host

/-- The address that a host given by the user stands for. -/
def hostQuad (host : List Char) : Option Bytes := dottedQuad (numericHost host)

example : hostQuad LOCALHOST = some [127, 0, 0, 1] := by decide
example : hostQuad ['1', '.', '2', '.', '3', '.', '2', '5', '6'] = none := by decide
example : hostQuad ['1', '.', '2', '.', '3', '.', '0', '4'] = none := by decide

/-! ## `struct sockaddr_in` -/

/-- `AF_INET`. -/
def AF_INET : Nat := 2

/-- `CDTP_ADDRESS_FAMILY`. -/
def CDTP_ADDRESS_FAMILY : Nat := AF_INET

/-- How the machine lays out an integer in memory. -/
inductive ByteOrder where
  | little
  | big
  deriving DecidableEq, Repr

/-- A 16-bit integer as it lies in memory. -/
def ByteOrder.bytes : ByteOrder → Nat → Bytes
  | .little, n => (BigEndian.toBytes 2 n).reverse
  | .big, n => BigEndian.toBytes 2 n

/-- `htons`. -/
def ByteOrder.htons : ByteOrder → Nat → Nat
  | .little, n => BigEndian.ofBytes (BigEndian.toBytes 2 n).reverse
  | .big, n => n

/-- `sizeof(struct sockaddr_in)`. -/
def SOCKADDR_LENGTH : Nat := 16

/-- A `struct sockaddr_in`: family, port, address, padding, of 2, 2, 4 and 8 bytes. -/
structure SockaddrIn where
  bytes : Bytes
  length : bytes.length = SOCKADDR_LENGTH

namespace SockaddrIn

/-- `chunk` written at offset `off` of the structure. -/
def write (a : SockaddrIn) (off : Nat) (chunk : Bytes) : SockaddrIn where
  bytes := splice a.bytes off chunk
  length := by rw [splice_length, a.length]

/-- The `n` bytes at offset `off`. -/
def field (a : SockaddrIn) (off n : Nat) : Bytes := (a.bytes.drop off).take n

def sinFamily (a : SockaddrIn) : Bytes := a.field 0 2
def sinPort (a : SockaddrIn) : Bytes := a.field 2 2
def sinAddr (a : SockaddrIn) : Bytes := a.field 4 4
def sinZero (a : SockaddrIn) : Bytes := a.field 8 8

variable {a : SockaddrIn} {off : Nat} {chunk : Bytes}

theorem field_write {n : Nat} (hn : chunk.length = n) (h : off + n ≤ SOCKADDR_LENGTH) :
    (a.write off chunk).field off n = chunk := by
  subst hn
  show ((splice a.bytes off chunk).drop off).take chunk.length = chunk
  exact slice_splice (by rw [a.length]; exact h)

theorem field_write_disjoint {pos n : Nat} (h : off + chunk.length ≤ SOCKADDR_LENGTH)
    (hdisjoint : pos + n ≤ off ∨ off + chunk.length ≤ pos) :
    (a.write off chunk).field pos n = a.field pos n := by
  show ((splice a.bytes off chunk).drop pos).take n = (a.bytes.drop pos).take n
  exact slice_splice_disjoint (by rw [a.length]; exact h) hdisjoint

end SockaddrIn

@[simp] theorem ByteOrder.bytes_length (order : ByteOrder) (n : Nat) :
    (order.bytes n).length = 2 := by
  cases order with
  | little => rw [ByteOrder.bytes, List.length_reverse, BigEndian.toBytes_length]
  | big => rw [ByteOrder.bytes, BigEndian.toBytes_length]

/-- **`htons`** puts the high byte first, on both kinds of machine. -/
theorem ByteOrder.bytes_htons (order : ByteOrder) (n : Nat) :
    order.bytes (order.htons n) = BigEndian.toBytes 2 n := by
  cases order with
  | little =>
    have hback := BigEndian.toBytes_ofBytes (BigEndian.toBytes 2 n).reverse
    rw [List.length_reverse, BigEndian.toBytes_length] at hback
    rw [ByteOrder.htons, ByteOrder.bytes, hback, List.reverse_reverse]
  | big => rfl

/-! ## Setting the address -/

/-- `inet_pton(CDTP_ADDRESS_FAMILY, host, dst)` with `dst` at offset `off` of the structure: what it
    returns, and the structure after it. -/
def inetPton (host : List Char) (a : SockaddrIn) (off : Nat) : Int × SockaddrIn :=
  match dottedQuad host with
  | some quad => (1, a.write off quad)
  | none => (0, a)

/-- `a.sin_family = CDTP_ADDRESS_FAMILY; a.sin_port = htons(port);` -/
def assignFamilyPort (order : ByteOrder) (port : UInt16) (a : SockaddrIn) : SockaddrIn :=
  (a.write 0 (order.bytes CDTP_ADDRESS_FAMILY)).write 2 (order.bytes (order.htons port.toNat))

/-- From the host to the structure, as both functions do it. -/
def setAddress (order : ByteOrder) (addressFailed : CDTPError) (address : SockaddrIn)
    (host : List Char) (port : UInt16) : Except CDTPError SockaddrIn :=
  -- the destination is the structure itself, at offset 0
  let result := inetPton (numericHost host) address 0
  if result.1 ≠ 1 then .error addressFailed
  else .ok (assignFamilyPort order port result.2)

/-- Up to the call of `bind` or `connect`, as both functions do it: two guards, then the address. -/
def addressUnless (done up : Bool) (cannotRedo already addressFailed : CDTPError)
    (order : ByteOrder) (address : SockaddrIn) (host : List Char) (port : UInt16) :
    Except CDTPError SockaddrIn :=
  if done then .error cannotRedo
  else if up then .error already
  else setAddress order addressFailed address host port

/-- `cdtp_server_start` up to the call of `bind`: the structure that is passed to it. -/
def serverStartAddress (order : ByteOrder) (server : CDTPServer) (address : SockaddrIn)
    (host : List Char) (port : UInt16) : Except CDTPError SockaddrIn :=
  addressUnless server.done server.serving .CDTP_SERVER_CANNOT_RESTART .CDTP_SERVER_ALREADY_SERVING
    .CDTP_SERVER_ADDRESS_FAILED order address host port

/-- `cdtp_client_connect` up to the call of `connect`: the structure that is passed to it. -/
def clientConnectAddress (order : ByteOrder) (client : CDTPClient) (address : SockaddrIn)
    (host : List Char) (port : UInt16) : Except CDTPError SockaddrIn :=
  addressUnless client.done client.connected .CDTP_CLIENT_CANNOT_RECONNECT
    .CDTP_CLIENT_ALREADY_CONNECTED .CDTP_CLIENT_ADDRESS_FAILED order address host port

/-- The structure says what the user said: IPv4, this port in network order, these four bytes. -/
structure SockaddrIn.Names (order : ByteOrder) (quad : Bytes) (port : UInt16) (a : SockaddrIn) :
    Prop where
  family : a.sinFamily = order.bytes AF_INET
  port : a.sinPort = BigEndian.toBytes 2 port.toNat
  addr : a.sinAddr = quad

section Setting

variable {order : ByteOrder} {e : CDTPError} {address a : SockaddrIn} {host : List Char}
  {port : UInt16} {quad : Bytes}

theorem inetPton_of_quad (h : dottedQuad host = some quad) (off : Nat) :
    inetPton host address off = (1, address.write off quad) := by
  simp only [inetPton, h]

/-- The two assignments set their fields, and leave the rest of the structure. -/
theorem assignFamilyPort_fields :
    (assignFamilyPort order port a).sinFamily = order.bytes AF_INET ∧
      (assignFamilyPort order port a).sinPort = BigEndian.toBytes 2 port.toNat ∧
      (assignFamilyPort order port a).sinAddr = a.sinAddr ∧
      (assignFamilyPort order port a).sinZero = a.sinZero := by
  have hfamily := order.bytes_length CDTP_ADDRESS_FAMILY
  have hport := order.bytes_length (order.htons port.toNat)
  have h16 : SOCKADDR_LENGTH = 16 := rfl
  refine ⟨?_, ?_, ?_, ?_⟩
  · rw [assignFamilyPort, SockaddrIn.sinFamily,
      SockaddrIn.field_write_disjoint (by omega) (by omega), SockaddrIn.field_write hfamily (by omega)]
    rfl
  · rw [assignFamilyPort, SockaddrIn.sinPort, SockaddrIn.field_write hport (by omega),
      order.bytes_htons]
  · rw [assignFamilyPort, SockaddrIn.sinAddr,
      SockaddrIn.field_write_disjoint (by omega) (by omega),
      SockaddrIn.field_write_disjoint (by omega) (by omega)]
    rfl
  · rw [assignFamilyPort, SockaddrIn.sinZero,
      SockaddrIn.field_write_disjoint (by omega) (by omega),
      SockaddrIn.field_write_disjoint (by omega) (by omega)]
    rfl

/-- **The structure that is set**: family and port are right, and behind them is what `malloc` left. -/
theorem setAddress_ok (h : hostQuad host = some quad) :
    ∃ a, setAddress order e address host port = .ok a ∧ a.sinFamily = order.bytes AF_INET ∧
      a.sinPort = BigEndian.toBytes 2 port.toNat ∧ a.sinAddr = address.sinAddr ∧
      a.sinZero = address.sinZero := by
  have hlen := dottedQuad_length h
  have h16 : SOCKADDR_LENGTH = 16 := rfl
  obtain ⟨hfamily, hport, haddr, hzero⟩ :=
    @assignFamilyPort_fields order (address.write 0 quad) port
  refine ⟨assignFamilyPort order port (address.write 0 quad), ?_, hfamily, hport, ?_, ?_⟩
  · rw [setAddress, inetPton_of_quad h]
    rfl
  -- the four bytes of the host end where `sin_addr` begins
  · rw [haddr, SockaddrIn.sinAddr, SockaddrIn.field_write_disjoint (by omega) (by omega)]
    rfl
  · rw [hzero, SockaddrIn.sinZero, SockaddrIn.field_write_disjoint (by omega) (by omega)]
    rfl

/-- What is set names the host iff the uninitialised bytes already did. -/
theorem setAddress_names_iff (h : hostQuad host = some quad) :
    ∃ a, setAddress order e address host port = .ok a ∧ a.sinAddr = address.sinAddr ∧
      (a.Names order quad port ↔ address.sinAddr = quad) := by
  obtain ⟨a, hset, hfamily, hport, haddr, -⟩ := @setAddress_ok order e address host port quad h
  refine ⟨a, hset, haddr, ?_⟩
  constructor
  · intro hnames
    rw [← haddr]
    exact hnames.addr
  · intro hquad
    exact ⟨hfamily, hport, haddr.trans hquad⟩

end Setting

/-! ## The calls -/

/-- **The address that is used** is the one that `malloc` left in the structure.  For every valid host it
    is the host's iff the uninitialised bytes happen to be. -/
theorem usedAddress_names_iff {host : List Char} {quad : Bytes} (hhost : hostQuad host = some quad)
    (order : ByteOrder) (port : UInt16) (address : SockaddrIn) :
    (∀ server : CDTPServer, server.done = false → server.serving = false →
      ∃ a, serverStartAddress order server address host port = .ok a ∧
        a.sinAddr = address.sinAddr ∧ (a.Names order quad port ↔ address.sinAddr = quad)) ∧
    ∀ client : CDTPClient, client.done = false → client.connected = false →
      ∃ a, clientConnectAddress order client address host port = .ok a ∧
        a.sinAddr = address.sinAddr ∧ (a.Names order quad port ↔ address.sinAddr = quad) := by
  constructor
  · intro server hdone hserving
    rw [serverStartAddress, addressUnless, hdone, hserving]
    show ∃ a, setAddress order .CDTP_SERVER_ADDRESS_FAILED address host port = .ok a ∧ _
    exact setAddress_names_iff hhost
  · intro client hdone hconnected
    rw [clientConnectAddress, addressUnless, hdone, hconnected]
    show ∃ a, setAddress order .CDTP_CLIENT_ADDRESS_FAILED address host port = .ok a ∧ _
    exact setAddress_names_iff hhost

/-- A server and a client that nobody has used yet, and memory that happens to be zero. -/
def idleServer : CDTPServer :=
  { serving := false, done := false, clients := Clients.empty, nextClientId := 0, onRecv := false,
    onConnect := false, onDisconnect := false }
def idleClient : CDTPClient :=
  { connected := false, done := false, sock := { sock := 3, key := { key := [], keySize := 0 } },
    onRecv := false, onDisconnected := false }
def zeroAddress : SockaddrIn where
  bytes := List.replicate 16 0
  length := rfl

/-- `localhost` on port 80, over zeroed memory. -/
theorem usedAddress_localhost :
    hostQuad LOCALHOST = some [127, 0, 0, 1] ∧
    (∃ a, serverStartAddress .little idleServer zeroAddress LOCALHOST 80 = .ok a ∧
      a.sinAddr = zeroAddress.sinAddr ∧
      (a.Names .little [127, 0, 0, 1] 80 ↔ zeroAddress.sinAddr = [127, 0, 0, 1])) ∧
    ∃ a, clientConnectAddress .little idleClient zeroAddress LOCALHOST 80 = .ok a ∧
      a.sinAddr = zeroAddress.sinAddr ∧
      (a.Names .little [127, 0, 0, 1] 80 ↔ zeroAddress.sinAddr = [127, 0, 0, 1]) := by
  have hhost : hostQuad LOCALHOST = some [127, 0, 0, 1] := by decide
  exact ⟨hhost, (usedAddress_names_iff hhost .little 80 zeroAddress).1 idleServer rfl rfl,
    (usedAddress_names_iff hhost .little 80 zeroAddress).2 idleClient rfl rfl⟩

/-- Over zeroed memory `127.0.0.1` is not the address that is used: `0.0.0.0` is, and for `10.0.0.1`
    the very same structure. -/
theorem usedAddress_zero :
    (∃ a, serverStartAddress .little idleServer zeroAddress LOOPBACK 80 = .ok a ∧
      a.sinAddr = [0, 0, 0, 0] ∧ ¬ a.Names .little [127, 0, 0, 1] 80) ∧
    (∃ a, clientConnectAddress .little idleClient zeroAddress LOOPBACK 80 = .ok a ∧
      a.sinAddr = [0, 0, 0, 0] ∧ ¬ a.Names .little [127, 0, 0, 1] 80) ∧
    serverStartAddress .little idleServer zeroAddress LOOPBACK 80
      = serverStartAddress .little idleServer zeroAddress
          ['1', '0', '.', '0', '.', '0', '.', '1'] 80 := by
  refine ⟨?_, ?_, rfl⟩
  · exact ⟨_, rfl, by decide, fun h => absurd h.addr (by decide)⟩
  · exact ⟨_, rfl, by decide, fun h => absurd h.addr (by decide)⟩

end Cdtp
