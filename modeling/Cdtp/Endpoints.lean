/-
  The addresses that a server and a client tell their user: `cdtp_server_get_host`,
  `cdtp_server_get_client_host`, `cdtp_client_get_host`, `cdtp_client_get_server_host` and the four
  functions for the ports.

  All eight ask the operating system for a `struct sockaddr_in` (`getsockname` for the own end,
  `getpeername` for the other one) and turn it into text or into a number.  The text is made by `inet_ntop`
  in a buffer of `CDTP_ADDRSTRLEN` bytes on POSIX; on Windows by `WSAAddressToStringW`, which appends the
  port, and a loop that cuts the port off again.

  1. **Text** — a dotted quad is read back as the same four bytes, so both buffers are always long enough
     and both platforms show the same text.
  2. **Ports** — `ntohs` undoes `htons` on both kinds of machine.
  3. **The way round** — from the host and port given to `cdtp_server_start` through the structure that is
     bound, the getters, and `cdtp_client_connect` with what they returned; and of a client that is
     connected the server shows what the client shows of itself.
-/
import Cdtp.Addresses
import Cdtp.PlainCipher
import Cdtp.ServerStop

namespace Cdtp

open CMem

/-! ## C strings -/

/-- `'\0'`. -/
def NUL : Char := Char.ofNat 0

/-- `CDTP_ADDRSTRLEN`, which is `CDTP_INET_ADDRSTRLEN` for IPv4. -/
def CDTP_ADDRSTRLEN : Nat := 22

/-- A buffer of `CDTP_ADDRSTRLEN` characters; nothing is known of what it holds. -/
structure AddrBuffer where
  chars : List Char
  length : chars.length = CDTP_ADDRSTRLEN

/-- The string that a pointer to these characters stands for. -/
def cString (chars : List Char) : List Char := chars.takeWhile (· ≠ NUL)

theorem cString_append_nul {text : List Char} (h : NUL ∉ text) (rest : List Char) :
    cString (text ++ NUL :: rest) = text := by
  rw [cString, List.takeWhile_append_of_pos]
  · rw [List.takeWhile_cons_of_neg (by simp), List.append_nil]
  · intro c hc
    exact decide_eq_true (ne_of_mem_of_not_mem hc h)

/-! ## Dotted quads -/

/-- The decimal digits of a byte. -/
def octetText (b : UInt8) : List Char := Nat.toDigits 10 b.toNat

/-- Four bytes as `inet_ntop` writes them: `"127.0.0.1"`. -/
def quadText (quad : Bytes) : List Char := List.intercalate ['.'] (quad.map octetText)

example : quadText [127, 0, 0, 1] = LOOPBACK := by decide

theorem isDigit_of_mem_octetText {b : UInt8} {c : Char} (h : c ∈ octetText b) : c.isDigit = true :=
  Nat.isDigit_of_mem_toDigits (by omega) (by omega) h

theorem octetText_length_le (b : UInt8) : (octetText b).length ≤ 3 := by
  have hlt : b.toNat < 256 := b.toNat_lt
  exact (Nat.length_toDigits_le_iff (by omega) (by omega)).mpr (by omega)

/-- A number that is written in decimal begins with a zero only if it is zero. -/
theorem head?_toDigits_ten {n : Nat} (h : 0 < n) : (Nat.toDigits 10 n).head? ≠ some '0' := by
  induction n using Nat.strongRecOn with
  | ind n ih =>
    rw [Nat.toDigits_eq_if (by omega)]
    split
    · intro heq
      have hzero := Nat.digitChar_eq_zero.mp (Option.some.inj heq)
      omega
    -- the last digit comes off the end, and the others are those of `n / 10`
    · have hrest := ih (n / 10) (by omega) (by omega)
      rw [List.head?_append_of_ne_nil _ Nat.toDigits_ne_nil]
      exact hrest

theorem octetText_zero {b : UInt8} (h : (octetText b).head? = some '0') :
    (octetText b).length = 1 := by
  rcases Nat.eq_zero_or_pos b.toNat with hb | hb
  · rw [octetText, hb, Nat.toDigits_zero]
    rfl
  · exact absurd h (head?_toDigits_ten hb)

/-- `octet` reads what `octetText` writes. -/
theorem octet_octetText (b : UInt8) : octet (octetText b) = some b := by
  have hlt : b.toNat < 256 := b.toNat_lt
  have hvalue : decimal (octetText b) = b.toNat := Nat.ofDigitChars_ten_toDigits
  have hdigits : (octetText b).all Char.isDigit = true :=
    List.all_eq_true.mpr fun c hc => isDigit_of_mem_octetText hc
  rw [octet, if_pos ⟨Nat.toDigits_ne_nil, octetText_length_le b, hdigits, by omega, octetText_zero⟩,
    hvalue, UInt8.ofNat_toNat]

/-- A dotted quad has nothing but digits and dots. -/
theorem mem_quadText {quad : Bytes} {c : Char} (h : c ∈ quadText quad) :
    c = '.' ∨ c.isDigit = true := by
  induction quad with
  | nil => exact absurd h (by simp [quadText])
  | cons b rest ih =>
    rw [quadText, List.map_cons] at h
    rcases hrest : rest.map octetText with _ | ⟨next, more⟩
    · rw [hrest, List.intercalate_singleton] at h
      exact .inr (isDigit_of_mem_octetText h)
    · rw [hrest, List.intercalate_cons_cons, List.mem_append, List.mem_append] at h
      rcases h with (hb | hdot) | hmore
      · exact .inr (isDigit_of_mem_octetText hb)
      · exact .inl (List.mem_singleton.mp hdot)
      · rw [quadText, hrest] at ih
        exact ih hmore

theorem not_mem_quadText {quad : Bytes} {c : Char} (hdot : c ≠ '.') (hdigit : c.isDigit = false) :
    c ∉ quadText quad := by
  intro h
  rcases mem_quadText h with heq | hd
  · exact hdot heq
  · rw [hdigit] at hd
    exact absurd hd (by decide)

/-- **The round trip**: four bytes written as a dotted quad and read again. -/
theorem hostQuad_quadText {quad : Bytes} (h : quad.length = 4) :
    hostQuad (quadText quad) = some quad := by
  have hlocal : quadText quad ≠ LOCALHOST := by
    intro heq
    exact @not_mem_quadText quad 'l' (by decide) (by decide) (heq ▸ by decide)
  have hne : quad.map octetText ≠ [] := by
    intro hnil
    rw [List.map_eq_nil_iff.mp hnil] at h
    exact absurd h (by decide)
  have hdots : ∀ digits ∈ quad.map octetText, '.' ∉ digits := by
    intro digits hdigits hdot
    obtain ⟨b, -, rfl⟩ := List.mem_map.mp hdigits
    exact absurd (isDigit_of_mem_octetText hdot) (by decide)
  have hsplit : (quadText quad).splitOn '.' = quad.map octetText :=
    List.splitOn_intercalate '.' hdots hne
  have hread : (quad.map octetText).mapM octet = some quad := by
    clear h hlocal hne hdots hsplit
    induction quad with
    | nil => rfl
    | cons b rest ih =>
      rw [List.map_cons, List.mapM_cons, octet_octetText, ih]
      rfl
  rw [hostQuad, numericHost, if_neg hlocal, dottedQuad, hsplit, hread,
    Option.filter_some_pos (by rw [h]; rfl)]

theorem quadText_length_le {quad : Bytes} (h : quad.length = 4) : (quadText quad).length ≤ 15 := by
  rcases quad with _ | ⟨a, _ | ⟨b, _ | ⟨c, _ | ⟨d, _ | ⟨_, _⟩⟩⟩⟩⟩ <;>
    simp only [List.length_nil, List.length_cons] at h <;> try omega
  have ha := octetText_length_le a
  have hb := octetText_length_le b
  have hc := octetText_length_le c
  have hd := octetText_length_le d
  simp only [quadText, List.map_cons, List.map_nil, List.intercalate_cons_cons,
    List.intercalate_singleton, List.length_append, List.length_cons, List.length_nil]
  omega

theorem nul_not_mem_quadText (quad : Bytes) : NUL ∉ quadText quad :=
  not_mem_quadText (by decide) (by decide)

theorem colon_not_mem_quadText (quad : Bytes) : ':' ∉ quadText quad :=
  not_mem_quadText (by decide) (by decide)

/-! ## The text of an address -/

/-- `inet_ntop(CDTP_ADDRESS_FAMILY, &s->sin_addr, addr_str, CDTP_ADDRSTRLEN)`: the text and its NUL, at
    the beginning of the buffer, if there is room for both. -/
def inetNtop (quad : Bytes) (addrStr : AddrBuffer) : Option (List Char) :=
  let text := quadText quad ++ [NUL]
  if text.length ≤ CDTP_ADDRSTRLEN then some (text ++ addrStr.chars.drop text.length) else none

/-- An address as Windows writes it: the port follows, unless it is zero. -/
def wsaText (quad : Bytes) (port : Nat) : List Char :=
  quadText quad ++ if port = 0 then [] else ':' :: Nat.toDigits 10 port

/-- `WSAAddressToStringW` with a buffer of `CDTP_ADDRSTRLEN` wide characters. -/
def wsaAddressToString (quad : Bytes) (port : Nat) (addrWc : AddrBuffer) : Option (List Char) :=
  let text := wsaText quad port ++ [NUL]
  if text.length ≤ CDTP_ADDRSTRLEN then some (text ++ addrWc.chars.drop text.length) else none

/-- "Remove the port". -/
def removePort : List Char → List Char
  | [] => []
  | c :: rest => if c = NUL then c :: rest else if c = ':' then NUL :: rest else c :: removePort rest

/-- `_wchar_to_str`, for characters that are one byte each: a block of two bytes for every wide character
    and the NUL, of which the string and its NUL are written. -/
def wcharToStr (M : Machine) (wchar : List Char) : List Char :=
  let wcharsize := (cString wchar).length + 1
  let newsize := wcharsize * 2
  cString wchar ++ [NUL] ++ (malloc M (newsize - wcharsize)).map fun b => Char.ofNat b.toNat

theorem removePort_text {text : List Char} (hnul : NUL ∉ text) (hcolon : ':' ∉ text)
    (port rest : List Char) :
    removePort (text ++ ':' :: (port ++ NUL :: rest)) = text ++ NUL :: (port ++ NUL :: rest) ∧
      removePort (text ++ NUL :: rest) = text ++ NUL :: rest := by
  induction text with
  | nil =>
    constructor
    · show removePort (':' :: _) = _
      rw [removePort, if_neg (by decide), if_pos rfl]
      rfl
    · show removePort (NUL :: rest) = _
      rw [removePort, if_pos rfl]
      rfl
  | cons c text ih =>
    obtain ⟨ihport, ihnone⟩ := ih (fun h => hnul (List.mem_cons_of_mem c h))
      (fun h => hcolon (List.mem_cons_of_mem c h))
    have hc : c ≠ NUL := fun heq => hnul (heq ▸ List.mem_cons_self)
    have hc' : c ≠ ':' := fun heq => hcolon (heq ▸ List.mem_cons_self)
    constructor
    · rw [List.cons_append, List.cons_append, removePort, if_neg hc, if_neg hc', ihport]
    · rw [List.cons_append, removePort, if_neg hc, if_neg hc', ihnone]

/-! ## The getters -/

/-- How the machine reads a 16-bit integer. -/
def ByteOrder.value : ByteOrder → Bytes → Nat
  | .little, bs => BigEndian.ofBytes bs.reverse
  | .big, bs => BigEndian.ofBytes bs

/-- `ntohs`: the bytes change places, or stay, as for `htons`. -/
def ByteOrder.ntohs (order : ByteOrder) (n : Nat) : Nat := order.htons n

/-- A host, from what `getsockname` or `getpeername` put into `addr` (`none` where they fail). -/
def getHost (M : Machine) (platform : Platform) (order : ByteOrder) (addressFailed : CDTPError)
    (addr : Option SockaddrIn) (buffer : AddrBuffer) : Except CDTPError (List Char) :=
  match addr with
  | none => .error addressFailed
  | some s =>
    match platform with
    | .windows =>
      match wsaAddressToString s.sinAddr (order.ntohs (order.value s.sinPort)) buffer with
      | none => .error addressFailed
      | some addrWc => .ok (wcharToStr M (removePort addrWc))
    | .posix =>
      match inetNtop s.sinAddr buffer with
      | none => .error addressFailed
      | some addrStr => .ok addrStr

/-- A port, in the same way. -/
def getPort (order : ByteOrder) (addressFailed : CDTPError) (addr : Option SockaddrIn) :
    Except CDTPError Nat :=
  match addr with
  | none => .error addressFailed
  | some s => .ok (order.ntohs (order.value s.sinPort))

section Getters

variable (M : Machine) (platform : Platform) (order : ByteOrder) (addr : Option SockaddrIn)
  (peername : CDTPSocket → Option SockaddrIn) (buffer : AddrBuffer)

/-- `cdtp_server_get_host`; `addr` is what `getsockname` says of `server->sock`. -/
def cdtpServerGetHost (server : CDTPServer) : Except CDTPError (List Char) :=
  if server.serving = false then .error .CDTP_SERVER_NOT_SERVING
  else getHost M platform order .CDTP_SERVER_ADDRESS_FAILED addr buffer

/-- `cdtp_server_get_port`. -/
def cdtpServerGetPort (server : CDTPServer) : Except CDTPError Nat :=
  if server.serving = false then .error .CDTP_SERVER_NOT_SERVING
  else getPort order .CDTP_SERVER_ADDRESS_FAILED addr

/-- `cdtp_server_get_client_host`; `peername` is `getpeername`. -/
def cdtpServerGetClientHost (server : CDTPServer) (clientId : Nat) : Except CDTPError (List Char) :=
  if server.serving = false then .error .CDTP_SERVER_NOT_SERVING
  else
    match server.clients.get clientId with
    | none => .error .CDTP_CLIENT_DOES_NOT_EXIST
    | some client => getHost M platform order .CDTP_CLIENT_ADDRESS_FAILED (peername client) buffer

/-- `cdtp_server_get_client_port`. -/
def cdtpServerGetClientPort (server : CDTPServer) (clientId : Nat) : Except CDTPError Nat :=
  if server.serving = false then .error .CDTP_SERVER_NOT_SERVING
  else
    match server.clients.get clientId with
    | none => .error .CDTP_CLIENT_DOES_NOT_EXIST
    | some client => getPort order .CDTP_CLIENT_ADDRESS_FAILED (peername client)

/-- `cdtp_client_get_host`; `addr` is what `getsockname` says of `client->sock`. -/
def cdtpClientGetHost (client : CDTPClient) : Except CDTPError (List Char) :=
  if client.connected = false then .error .CDTP_CLIENT_NOT_CONNECTED
  else getHost M platform order .CDTP_CLIENT_ADDRESS_FAILED addr buffer

/-- `cdtp_client_get_port`. -/
def cdtpClientGetPort (client : CDTPClient) : Except CDTPError Nat :=
  if client.connected = false then .error .CDTP_CLIENT_NOT_CONNECTED
  else getPort order .CDTP_CLIENT_ADDRESS_FAILED addr

/-- `cdtp_client_get_server_host`: `getpeername`, and the error is about the server. -/
def cdtpClientGetServerHost (client : CDTPClient) : Except CDTPError (List Char) :=
  if client.connected = false then .error .CDTP_CLIENT_NOT_CONNECTED
  else getHost M platform order .CDTP_SERVER_ADDRESS_FAILED (peername client.sock) buffer

/-- `cdtp_client_get_server_port`. -/
def cdtpClientGetServerPort (client : CDTPClient) : Except CDTPError Nat :=
  if client.connected = false then .error .CDTP_CLIENT_NOT_CONNECTED
  else getPort order .CDTP_SERVER_ADDRESS_FAILED (peername client.sock)

end Getters

/-! ## What the getters show -/

section Shows

variable {M : Machine} {platform : Platform} {order : ByteOrder} {e : CDTPError}

theorem SockaddrIn.sinPort_length (s : SockaddrIn) : s.sinPort.length = 2 := by
  show ((s.bytes.drop 2).take 2).length = 2
  rw [List.length_take, List.length_drop, s.length]
  rfl

theorem SockaddrIn.sinAddr_length (s : SockaddrIn) : s.sinAddr.length = 4 := by
  show ((s.bytes.drop 4).take 4).length = 4
  rw [List.length_take, List.length_drop, s.length]
  rfl

/-- **`ntohs`** reads the high byte first, on both kinds of machine. -/
theorem ByteOrder.ntohs_value {bs : Bytes} (h : bs.length = 2) :
    order.ntohs (order.value bs) = BigEndian.ofBytes bs := by
  cases order with
  | little =>
    have hback := BigEndian.toBytes_ofBytes bs.reverse
    rw [List.length_reverse, h] at hback
    rw [ByteOrder.ntohs, ByteOrder.value, ByteOrder.htons, hback, List.reverse_reverse]
  | big => rfl

/-- The port of a structure, as a number. -/
def SockaddrIn.portNumber (s : SockaddrIn) : Nat := BigEndian.ofBytes s.sinPort

theorem SockaddrIn.portNumber_lt (s : SockaddrIn) : s.portNumber < 65536 := by
  have h := BigEndian.ofBytes_lt s.sinPort
  rw [s.sinPort_length] at h
  exact h

theorem getPort_ok (s : SockaddrIn) : getPort order e (some s) = .ok s.portNumber := by
  rw [getPort, ByteOrder.ntohs_value s.sinPort_length]
  rfl

theorem inetNtop_ok {quad : Bytes} (h : quad.length = 4) (buffer : AddrBuffer) :
    ∃ rest, inetNtop quad buffer = some (quadText quad ++ NUL :: rest) := by
  have hlen := quadText_length_le h
  refine ⟨buffer.chars.drop (quadText quad ++ [NUL]).length, ?_⟩
  rw [inetNtop, if_pos (by rw [List.length_append, List.length_singleton, CDTP_ADDRSTRLEN]; omega),
    List.append_assoc, List.singleton_append]

/-- Four octets of three digits, three dots, a colon, a port of five digits and the NUL: the 22 characters
    of the buffer. -/
theorem wsaAddressToString_ok {quad : Bytes} (h : quad.length = 4) {port : Nat} (hport : port < 65536)
    (buffer : AddrBuffer) :
    ∃ rest, wsaAddressToString quad port buffer = some (wsaText quad port ++ NUL :: rest) := by
  have hquad := quadText_length_le h
  have hdigits : (Nat.toDigits 10 port).length ≤ 5 :=
    (Nat.length_toDigits_le_iff (by omega) (by omega)).mpr (by omega)
  have hlen : (wsaText quad port ++ [NUL]).length ≤ CDTP_ADDRSTRLEN := by
    rw [wsaText, CDTP_ADDRSTRLEN]
    split
    · simp only [List.length_append, List.length_nil, List.length_singleton]
      omega
    · simp only [List.length_append, List.length_cons, List.length_nil]
      omega
  refine ⟨buffer.chars.drop (wsaText quad port ++ [NUL]).length, ?_⟩
  rw [wsaAddressToString, if_pos hlen, List.append_assoc, List.singleton_append]

theorem cString_removePort (quad : Bytes) (port : Nat) (rest : List Char) :
    cString (removePort (wsaText quad port ++ NUL :: rest)) = quadText quad := by
  have hnul := nul_not_mem_quadText quad
  obtain ⟨hcut, hnone⟩ :=
    removePort_text hnul (colon_not_mem_quadText quad) (Nat.toDigits 10 port) rest
  rw [wsaText]
  split
  · rw [List.append_nil, hnone]
    exact cString_append_nul hnul rest
  · rw [List.append_assoc, List.cons_append, hcut]
    exact cString_append_nul hnul _

theorem cString_wcharToStr (wchar : List Char) :
    cString (wcharToStr M wchar) = cString wchar := by
  have hnul : NUL ∉ cString wchar := by
    intro h
    exact absurd (List.all_eq_true.mp List.all_takeWhile NUL h) (by simp)
  rw [wcharToStr, List.append_assoc, List.singleton_append]
  exact cString_append_nul hnul _

/-- Both platforms show the dotted quad, whatever was in the buffer. -/
theorem getHost_ok (s : SockaddrIn) (buffer : AddrBuffer) :
    ∃ chars, getHost M platform order e (some s) buffer = .ok chars ∧
      cString chars = quadText s.sinAddr := by
  cases platform with
  | posix =>
    obtain ⟨rest, hwritten⟩ := inetNtop_ok s.sinAddr_length buffer
    refine ⟨quadText s.sinAddr ++ NUL :: rest, ?_, cString_append_nul (nul_not_mem_quadText _) rest⟩
    simp only [getHost, hwritten]
  | windows =>
    obtain ⟨rest, hwritten⟩ := wsaAddressToString_ok s.sinAddr_length s.portNumber_lt buffer
    refine ⟨wcharToStr M (removePort (wsaText s.sinAddr s.portNumber ++ NUL :: rest)), ?_, ?_⟩
    · have hport : order.ntohs (order.value s.sinPort) = s.portNumber :=
        ByteOrder.ntohs_value s.sinPort_length
      simp only [getHost, hport, hwritten]
    · rw [cString_wcharToStr]
      exact cString_removePort s.sinAddr s.portNumber rest

/-- A host and a port that a user got: they name the structure, and the text is a dotted quad. -/
def Shows (host : Except CDTPError (List Char)) (port : Except CDTPError Nat) (s : SockaddrIn) : Prop :=
  ∃ chars, host = .ok chars ∧ cString chars = quadText s.sinAddr ∧
    hostQuad (cString chars) = some s.sinAddr ∧ port = .ok s.portNumber

theorem shows_get (e : CDTPError) (s : SockaddrIn) (buffer : AddrBuffer) :
    Shows (getHost M platform order e (some s) buffer) (getPort order e (some s)) s := by
  obtain ⟨chars, hhost, htext⟩ := @getHost_ok M platform order e s buffer
  refine ⟨chars, hhost, htext, ?_, getPort_ok s⟩
  rw [htext]
  exact hostQuad_quadText s.sinAddr_length

/-- A structure with this address and port, whatever its other bytes are. -/
def SockaddrIn.At (s : SockaddrIn) (quad : Bytes) (port : Nat) : Prop :=
  s.sinAddr = quad ∧ s.portNumber = port

/-- The user sees nothing of a structure but the address and the port. -/
theorem Shows.of_at {host : Except CDTPError (List Char)} {port : Except CDTPError Nat}
    {s t : SockaddrIn} (h : Shows host port s) (hat : s.At t.sinAddr t.portNumber) :
    Shows host port t := by
  obtain ⟨chars, hhost, htext, hquad, hport⟩ := h
  rw [hat.1] at htext hquad
  rw [hat.2] at hport
  exact ⟨chars, hhost, htext, hquad, hport⟩

theorem Shows.at {host : Except CDTPError (List Char)} {port : Except CDTPError Nat} {s : SockaddrIn}
    (h : Shows host port s) {quad : Bytes} {n : Nat} (hat : s.At quad n) :
    ∃ chars, host = .ok chars ∧ port = .ok n ∧ hostQuad (cString chars) = some quad := by
  obtain ⟨chars, hhost, -, hquad, hport⟩ := h
  rw [hat.1] at hquad
  rw [hat.2] at hport
  exact ⟨chars, hhost, hport, hquad⟩

/-! The eight getters, two at a time: each pair shows the structure that the operating system filled. -/

variable {peername : CDTPSocket → Option SockaddrIn} {s : SockaddrIn}

theorem serverGet_shows {server : CDTPServer} (hserving : server.serving = true) (s : SockaddrIn)
    (buffer : AddrBuffer) :
    Shows (cdtpServerGetHost M platform order (some s) buffer server)
      (cdtpServerGetPort order (some s) server) s := by
  rw [cdtpServerGetHost, cdtpServerGetPort, hserving]
  exact shows_get _ s buffer

theorem serverGetClient_shows {server : CDTPServer} {id : Nat} {sock : CDTPSocket}
    (hserving : server.serving = true) (hget : server.clients.get id = some sock)
    (hsock : peername sock = some s) (buffer : AddrBuffer) :
    Shows (cdtpServerGetClientHost M platform order peername buffer server id)
      (cdtpServerGetClientPort order peername server id) s := by
  simp only [cdtpServerGetClientHost, cdtpServerGetClientPort, hserving, hget, hsock]
  exact shows_get _ s buffer

theorem clientGet_shows {client : CDTPClient} (hconnected : client.connected = true) (s : SockaddrIn)
    (buffer : AddrBuffer) :
    Shows (cdtpClientGetHost M platform order (some s) buffer client)
      (cdtpClientGetPort order (some s) client) s := by
  rw [cdtpClientGetHost, cdtpClientGetPort, hconnected]
  exact shows_get _ s buffer

theorem clientGetServer_shows {client : CDTPClient} (hconnected : client.connected = true)
    (hpeer : peername client.sock = some s) (buffer : AddrBuffer) :
    Shows (cdtpClientGetServerHost M platform order peername buffer client)
      (cdtpClientGetServerPort order peername client) s := by
  rw [cdtpClientGetServerHost, cdtpClientGetServerPort, hconnected, hpeer]
  exact shows_get _ s buffer

end Shows

/-! ## The address on Windows -/

/-- `WSAStringToAddressW(host_wc, CDTP_ADDRESS_FAMILY, NULL, …)`: the structure that it fills, or `none`. -/
abbrev StringToAddress := List Char → Option SockaddrIn

/-- It reads dotted quads, and puts them into `sin_addr`. -/
def ReadsQuads (stringToAddress : StringToAddress) : Prop :=
  ∀ host quad, dottedQuad host = some quad →
    ∃ a, stringToAddress host = some a ∧ a.sinAddr = quad

/-- From the host to the structure, as both functions do it on Windows. -/
def setAddressWindows (stringToAddress : StringToAddress) (order : ByteOrder)
    (addressFailed : CDTPError) (host : List Char) (port : UInt16) : Except CDTPError SockaddrIn :=
  match stringToAddress (numericHost host) with
  | none => .error addressFailed
  | some address => .ok (assignFamilyPort order port address)

/-- `cdtp_server_start` up to the call of `bind`, on either platform. -/
def serverStartAddressOn (stringToAddress : StringToAddress) (platform : Platform) (order : ByteOrder)
    (server : CDTPServer) (address : SockaddrIn) (host : List Char) (port : UInt16) :
    Except CDTPError SockaddrIn :=
  match platform with
  | .posix => serverStartAddress order server address host port
  | .windows =>
    if server.done then .error .CDTP_SERVER_CANNOT_RESTART
    else if server.serving then .error .CDTP_SERVER_ALREADY_SERVING
    else setAddressWindows stringToAddress order .CDTP_SERVER_ADDRESS_FAILED host port

/-- `cdtp_client_connect` up to the call of `connect`, on either platform. -/
def clientConnectAddressOn (stringToAddress : StringToAddress) (platform : Platform) (order : ByteOrder)
    (client : CDTPClient) (address : SockaddrIn) (host : List Char) (port : UInt16) :
    Except CDTPError SockaddrIn :=
  match platform with
  | .posix => clientConnectAddress order client address host port
  | .windows =>
    if client.done then .error .CDTP_CLIENT_CANNOT_RECONNECT
    else if client.connected then .error .CDTP_CLIENT_ALREADY_CONNECTED
    else setAddressWindows stringToAddress order .CDTP_CLIENT_ADDRESS_FAILED host port

/-- The four bytes that are used: the host's on Windows, those that `malloc` left on POSIX. -/
def usedQuad (platform : Platform) (address : SockaddrIn) (quad : Bytes) : Bytes :=
  match platform with
  | .posix => address.sinAddr
  | .windows => quad

section Used

variable {stringToAddress : StringToAddress} {platform : Platform} {order : ByteOrder} {e : CDTPError}
  {address : SockaddrIn} {host : List Char} {port : UInt16} {quad : Bytes}

theorem portNumber_of_sinPort {a : SockaddrIn} (h : a.sinPort = BigEndian.toBytes 2 port.toNat) :
    a.portNumber = port.toNat := by
  rw [SockaddrIn.portNumber, h]
  exact BigEndian.ofBytes_toBytes_of_lt port.toNat_lt

theorem setAddress_at (hhost : hostQuad host = some quad) :
    ∃ a, setAddress order e address host port = .ok a ∧ a.At address.sinAddr port.toNat := by
  obtain ⟨a, hset, -, hport, haddr, -⟩ := @setAddress_ok order e address host port quad hhost
  exact ⟨a, hset, haddr, portNumber_of_sinPort hport⟩

theorem setAddressWindows_at (hreads : ReadsQuads stringToAddress) (hhost : hostQuad host = some quad) :
    ∃ a, setAddressWindows stringToAddress order e host port = .ok a ∧ a.At quad port.toNat := by
  obtain ⟨filled, hfilled, hquad⟩ := hreads (numericHost host) quad hhost
  obtain ⟨-, hport, haddr, -⟩ := @assignFamilyPort_fields order filled port
  refine ⟨assignFamilyPort order port filled, ?_, haddr.trans hquad, portNumber_of_sinPort hport⟩
  rw [setAddressWindows, hfilled]

/-- The structure that a first `cdtp_server_start` binds. -/
theorem serverStartAddressOn_at (hreads : ReadsQuads stringToAddress)
    (hhost : hostQuad host = some quad) {server : CDTPServer} (hdone : server.done = false)
    (hserving : server.serving = false) :
    ∃ a, serverStartAddressOn stringToAddress platform order server address host port = .ok a ∧
      a.At (usedQuad platform address quad) port.toNat := by
  cases platform with
  | posix =>
    rw [serverStartAddressOn, serverStartAddress, addressUnless, hdone, hserving]
    exact setAddress_at hhost
  | windows =>
    rw [serverStartAddressOn, hdone, hserving]
    exact setAddressWindows_at hreads hhost

/-- The structure that a first `cdtp_client_connect` connects to. -/
theorem clientConnectAddressOn_at (hreads : ReadsQuads stringToAddress)
    (hhost : hostQuad host = some quad) {client : CDTPClient} (hdone : client.done = false)
    (hconnected : client.connected = false) :
    ∃ a, clientConnectAddressOn stringToAddress platform order client address host port = .ok a ∧
      a.At (usedQuad platform address quad) port.toNat := by
  cases platform with
  | posix =>
    rw [clientConnectAddressOn, clientConnectAddress, addressUnless, hdone, hconnected]
    exact setAddress_at hhost
  | windows =>
    rw [clientConnectAddressOn, hdone, hconnected]
    exact setAddressWindows_at hreads hhost

end Used

/-! ## The way round -/

/-- **The way round.**  A server is started with a host and a port; its user asks where it is; a client is
    told to connect there; its user asks where the server is.  The port is the same all the way, every text
    on the way is a host that is accepted, and the address is kept by every step but two: on POSIX
    `cdtp_server_start` and `cdtp_client_connect` each put in what `malloc` left.

    When they are connected, what the client shows of itself is what the server shows of it: `getsockname`
    at one end of the connection and `getpeername` at the other tell the same address and port. -/
theorem endpoints_round_trip {stringToAddress : StringToAddress} (hreads : ReadsQuads stringToAddress)
    {host : List Char} {quad : Bytes} (hhost : hostQuad host = some quad) (M N : Machine)
    (p q : Platform) (order order' : ByteOrder) (port : UInt16) (address address' : SockaddrIn)
    {server : CDTPServer} (hserver : server.done = false ∧ server.serving = false)
    {client : CDTPClient} (hclient : client.done = false ∧ client.connected = false) :
    ∃ a, serverStartAddressOn stringToAddress p order server address host port = .ok a ∧
      a.At (usedQuad p address quad) port.toNat ∧
      ∀ up : CDTPServer, up.serving = true → ∀ s : SockaddrIn, s.At a.sinAddr a.portNumber →
        ∀ buffer, ∃ told, cdtpServerGetHost M p order (some s) buffer up = .ok told ∧
          cdtpServerGetPort order (some s) up = .ok port.toNat ∧
          hostQuad (cString told) = some (usedQuad p address quad) ∧
          ∃ c, clientConnectAddressOn stringToAddress q order' client address' (cString told) port
              = .ok c ∧
            (c.At a.sinAddr a.portNumber ↔ q = .windows ∨ address'.sinAddr = a.sinAddr) ∧
            ∀ on : CDTPClient, on.connected = true → ∀ buffer',
              (∀ peername t, peername on.sock = some t → t.At c.sinAddr c.portNumber →
                ∃ seen, cdtpClientGetServerHost N q order' peername buffer' on = .ok seen ∧
                  cdtpClientGetServerPort order' peername on = .ok port.toNat ∧
                  hostQuad (cString seen)
                    = some (usedQuad q address' (usedQuad p address quad)) ∧
                  (hostQuad (cString seen) = hostQuad (cString told) ↔
                    q = .windows ∨ address'.sinAddr = usedQuad p address quad)) ∧
              ∀ own : SockaddrIn,
                Shows (cdtpClientGetHost N q order' (some own) buffer' on)
                    (cdtpClientGetPort order' (some own) on) own ∧
                  ∀ id sock, up.clients.get id = some sock → ∀ peername t, peername sock = some t →
                    t.At own.sinAddr own.portNumber →
                      Shows (cdtpServerGetClientHost M p order peername buffer up id)
                        (cdtpServerGetClientPort order peername up id) own := by
  obtain ⟨a, hstart, haddr, hport⟩ :=
    @serverStartAddressOn_at stringToAddress p order address host port quad hreads hhost server
      hserver.1 hserver.2
  refine ⟨a, hstart, ⟨haddr, hport⟩, ?_⟩
  intro up hup s hs buffer
  rw [haddr, hport] at hs
  obtain ⟨told, hhostTold, hportTold, hquadTold⟩ :=
    (@serverGet_shows M p order up hup s buffer).at hs
  refine ⟨told, hhostTold, hportTold, hquadTold, ?_⟩
  obtain ⟨c, hconnect, hcaddr, hcport⟩ :=
    @clientConnectAddressOn_at stringToAddress q order' address' (cString told) port _ hreads
      hquadTold client hclient.1 hclient.2
  have hkept : usedQuad q address' (usedQuad p address quad) = usedQuad p address quad ↔
      q = .windows ∨ address'.sinAddr = usedQuad p address quad := by
    cases q with
    | posix =>
      show address'.sinAddr = _ ↔ _
      constructor
      · intro h
        exact .inr h
      · rintro (h | h)
        · exact absurd h (by decide)
        · exact h
    | windows => exact ⟨fun _ => .inl rfl, fun _ => rfl⟩
  refine ⟨c, hconnect, ?_, ?_⟩
  · rw [haddr, hport, SockaddrIn.At, hcaddr, hcport, hkept]
    exact and_iff_left rfl
  intro on hon buffer'
  refine ⟨?_, ?_⟩
  -- the client's user asks where the server is
  · intro peername t hpeer ht
    rw [hcaddr, hcport] at ht
    obtain ⟨seen, hhostSeen, hportSeen, hquadSeen⟩ :=
      (@clientGetServer_shows N q order' peername t on hon hpeer buffer').at ht
    refine ⟨seen, hhostSeen, hportSeen, hquadSeen, ?_⟩
    rw [hquadSeen, hquadTold, Option.some.injEq, hkept]
  -- both users ask where the client is
  · intro own
    refine ⟨clientGet_shows hon own buffer', ?_⟩
    intro id sock hget peername t hsock ht
    exact (serverGetClient_shows hup hget hsock buffer).of_at ht

/-- A `WSAStringToAddressW` that reads dotted quads and nothing else. -/
def readQuad : StringToAddress := fun host => (dottedQuad host).map (zeroAddress.write 4)

theorem readQuad_reads : ReadsQuads readQuad := by
  intro host quad h
  refine ⟨zeroAddress.write 4 quad, ?_, ?_⟩
  · rw [readQuad, h]
    rfl
  · exact SockaddrIn.field_write (dottedQuad_length h) (by decide)

/-- A buffer of blanks. -/
def blankBuffer : AddrBuffer where
  chars := List.replicate 22 ' '
  length := rfl

/-- A server with one client that is connected, at `10.0.0.7` and port 5000. -/
def oneClientServer : CDTPServer :=
  { idleServer with
    serving := true, clients := (Clients.empty.set 0 idleClient.sock).2, nextClientId := 1 }
def clientEnd : SockaddrIn :=
  assignFamilyPort .big 5000 (zeroAddress.write 4 [10, 0, 0, 7])

/-- A Windows server on `localhost`, port 80, and a POSIX client that is told to connect where the server
    says it is: over zeroed memory it connects to another address, and shows that one.  Of the client both
    show the same. -/
theorem endpoints_round_trip_localhost :
    (∃ a told c seen,
      serverStartAddressOn readQuad .windows .little idleServer zeroAddress LOCALHOST 80 = .ok a ∧
      cdtpServerGetHost plainMachine .windows .little (some a) blankBuffer oneClientServer = .ok told ∧
      hostQuad (cString told) = some [127, 0, 0, 1] ∧
      clientConnectAddressOn readQuad .posix .big idleClient zeroAddress (cString told) 80 = .ok c ∧
      cdtpClientGetServerHost plainMachine .posix .big (fun _ => some c) blankBuffer
        { idleClient with connected := true } = .ok seen ∧
      hostQuad (cString seen) ≠ some [127, 0, 0, 1]) ∧
    clientEnd.At [10, 0, 0, 7] 5000 ∧
    Shows (cdtpClientGetHost plainMachine .posix .big (some clientEnd) blankBuffer
        { idleClient with connected := true })
      (cdtpClientGetPort .big (some clientEnd) { idleClient with connected := true }) clientEnd ∧
    Shows (cdtpServerGetClientHost plainMachine .windows .little (fun _ => some clientEnd) blankBuffer
        oneClientServer 0)
      (cdtpServerGetClientPort .little (fun _ => some clientEnd) oneClientServer 0) clientEnd := by
  have hhost : hostQuad LOCALHOST = some [127, 0, 0, 1] := by decide
  obtain ⟨a, hstart, -, hup⟩ := @endpoints_round_trip readQuad readQuad_reads LOCALHOST [127, 0, 0, 1]
    hhost plainMachine plainMachine .windows .posix .little .big 80 zeroAddress zeroAddress idleServer
    ⟨rfl, rfl⟩ idleClient ⟨rfl, rfl⟩
  obtain ⟨told, htold, -, hquad, c, hconnect, -, hon⟩ := hup oneClientServer rfl a ⟨rfl, rfl⟩ blankBuffer
  obtain ⟨hserver, hclient⟩ := hon { idleClient with connected := true } rfl blankBuffer
  obtain ⟨seen, hseen, -, -, hiff⟩ := hserver (fun _ => some c) c rfl ⟨rfl, rfl⟩
  obtain ⟨hown, hfar⟩ := hclient clientEnd
  have hquad' : hostQuad (cString told) = some [127, 0, 0, 1] := hquad
  refine ⟨⟨a, told, c, seen, hstart, htold, hquad', hconnect, hseen, ?_⟩, ⟨by decide, by decide⟩,
    hown, ?_⟩
  · intro hsame
    rcases hiff.mp (hsame.trans hquad'.symm) with hwindows | hzero
    · exact absurd hwindows (by decide)
    · exact absurd hzero (by decide)
  · exact hfar 0 idleClient.sock (by decide) (fun _ => some clientEnd) clientEnd rfl ⟨rfl, rfl⟩

end Cdtp
