import Cdtp.Lib.CyclicScan
import Cdtp.Lib.SlotTable
import Cdtp.Lib.Runs
import Cdtp.Lib.Fifo
import Cdtp.Lib.CMem
import Cdtp.Lib.BigEndian
import Cdtp.ClientMap
import Cdtp.ClientMapSpec
import Cdtp.ClientMapRefinement
import Cdtp.Wire
import Cdtp.Socket
import Cdtp.Crypto
import Cdtp.CryptoSpec
import Cdtp.EnvelopeSpec
import Cdtp.PlainCipher
import Cdtp.KeyExchange
import Cdtp.ExchangeReply
import Cdtp.Server
import Cdtp.ServerSpec
import Cdtp.ServerEvents
import Cdtp.Client
import Cdtp.FrameSafety
import Cdtp.PeerFaults
import Cdtp.Framing
import Cdtp.Delivery
import Cdtp.Interleaving
import Cdtp.ClientMapResizing
import Cdtp.ClientMapRehashing
import Cdtp.PadPrefix
import Cdtp.PadCopies
import Cdtp.WireCodec
import Cdtp.PayloadSize
import Cdtp.Sending
import Cdtp.Platforms
import Cdtp.ServerStop
import Cdtp.ClientMapDraining
import Cdtp.ClientSession
import Cdtp.Addresses
import Cdtp.SendAll
import Cdtp.ClientInterleaving
import Cdtp.Lib.Costs
import Cdtp.Lib.Ownership
import Cdtp.ClientMapNodes
import Cdtp.Network
import Cdtp.NetworkProgress
import Cdtp.NetworkFairness
import Cdtp.OpenWire
import Cdtp.Lib.Pool
import Cdtp.EventThreads
import Cdtp.Lib.Progress
import Cdtp.Lib.Mailbox
import Cdtp.ErrorState
import Cdtp.Endpoints
import Cdtp.CryptoBlocks
import Cdtp.ThreadBlocks
import Cdtp.ServerBlocks
import Cdtp.ServerBook
import Cdtp.SessionBlocks
import Cdtp.SessionBook
import Cdtp.Descriptors
