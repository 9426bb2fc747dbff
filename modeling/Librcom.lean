import Librcom.Effects.Program
import Librcom.Effects.Rules
import Librcom.Effects.Conduct
import Librcom.Effects.Parts
import Librcom.Effects.Passage
import Librcom.Effects.Ledger
import Librcom.Effects.History
import Librcom.Effects.Views
import Librcom.Bytes.Endian
import Librcom.Bytes.Letters
import Librcom.Bytes.Decimal
import Librcom.Bytes.Numerals
import Librcom.Bytes.Base64
import Librcom.Bytes.Base64Rounds
import Librcom.Bytes.Strings
import Librcom.WebSocket.Constants
import Librcom.System.Linux
import Librcom.WebSocket.Socket
import Librcom.WebSocket.Endpoint
import Librcom.WebSocket.Output
import Librcom.WebSocket.Input
import Librcom.WebSocket.Steps
import Librcom.WebSocket.Frame
import Librcom.WebSocket.FrameHead
import Librcom.WebSocket.SocketLaws
import Librcom.WebSocket.SendLaws
import Librcom.WebSocket.ReadLaws
import Librcom.WebSocket.ReadInversion
import Librcom.WebSocket.CloseLaws
import Librcom.WebSocket.ReceiveLaws
import Librcom.WebSocket.RecvLaws
import Librcom.WebSocket.Reassembly
import Librcom.WebSocket.RoundTrip
import Librcom.WebSocket.Sending
import Librcom.WebSocket.Schedules
import Librcom.WebSocket.Deadlines
import Librcom.WebSocket.LinkStatus
import Librcom.WebSocket.CloseOrder
import Librcom.WebSocket.SocketUse
import Librcom.WebSocket.Traffic
import Librcom.WebSocket.Faults
import Librcom.WebSocket.Conversation
import Librcom.WebSocket.ControlFrames
import Librcom.WebSocket.CloseCodes
import Librcom.WebSocket.Blocks
import Librcom.WebSocket.Sizes
import Librcom.WebSocket.Rejections
import Librcom.System.BaseSocket
import Librcom.System.Reception
import Librcom.System.ReceptionLaws
import Librcom.System.Transmission
import Librcom.Json.Value
import Librcom.Json.Utf8
import Librcom.Json.Codec
import Librcom.Json.Flat
import Librcom.Rpc.Message
import Librcom.Rpc.Server
import Librcom.Rpc.ServerLaws
import Librcom.Rpc.Monster
import Librcom.Rpc.Survival
import Librcom.Rpc.WellFormed
import Librcom.Rpc.Link
import Librcom.Rpc.Client
import Librcom.Rpc.ClientLaws
import Librcom.Rpc.Failures
import Librcom.Rpc.Transparency
import Librcom.Rpc.BinaryPath
import Librcom.Rpc.Pairing
import Librcom.Registry.Address
import Librcom.Registry.Sockaddr
import Librcom.Registry.Store
import Librcom.Registry.History
import Librcom.Registry.Server
import Librcom.Registry.ServerLaws
import Librcom.Registry.Atomicity
import Librcom.Registry.Proxy
import Librcom.Registry.Texts
import Librcom.Registry.ProxyLaws
import Librcom.Registry.Visibility
import Librcom.Registry.Polling
import Librcom.Registry.Lookup
import Librcom.Registry.Replies
import Librcom.Http.Parser
import Librcom.Http.Request
import Librcom.Http.Keys
import Librcom.Http.Response
import Librcom.Http.Scan
import Librcom.Http.Heads
import Librcom.Http.RequestLaws
import Librcom.Http.Soundness
import Librcom.Http.ResponseLaws
import Librcom.Http.Handshake
import Librcom.Http.HandshakeLaws
import Librcom.Http.Spelling
import Librcom.Server.WebSocketServer
import Librcom.Server.Turns
import Librcom.Server.Admission
import Librcom.Server.Hub
import Librcom.Server.Talks
import Librcom.Server.HubRuns
import Librcom.Server.Answering
import Librcom.Server.Table
import Librcom.Server.Broadcast
import Librcom.Server.Network
import Librcom.Server.Isolation
import Librcom.Server.Descriptors
import Librcom.Server.Ownership
import Librcom.Digest.Chain
import Librcom.Digest.Fips180
import Librcom.Digest.Sha1
import Librcom.Digest.Rounds
import Librcom.Digest.Stream
import Librcom.Http.AcceptString
import Librcom.WebSocket.Exchange
import Librcom.WebSocket.Dialogue
import Librcom.WebSocket.Delivery
import Librcom.Rpc.Objects
import Librcom.Rpc.Stub
import Librcom.Rpc.StubLaws
import Librcom.Rpc.Sessions
import Librcom.Rpc.Locally
import Librcom.Rpc.RcomServer
import Librcom.Registry.Hosting
import Librcom.Registry.Discovery
import Librcom.Registry.DiscoveryLaws
import Librcom.Registry.Finding
