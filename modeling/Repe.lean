import Repe.Lib.Exec
import Repe.Lib.Bytes
import Repe.Lib.Utf8
import Repe.Lib.Utf8Laws
import Repe.Lib.Percent
import Repe.Lib.ByteStream
import Repe.Lib.Transition
import Repe.Lib.Mutex
import Repe.Lib.Spans
import Repe.Lib.Channel
import Repe.Lib.Disk
import Repe.Lib.FileSystem
import Repe.Lib.BufWriter
import Repe.Lib.Digits
import Repe.Lib.Feed
import Repe.Lib.Ledger
import Repe.Lib.Semaphore
import Repe.Lib.Retry
import Repe.Lib.Linearize
import Repe.Wire.Error
import Repe.Wire.Header
import Repe.Wire.HeaderLaws
import Repe.Wire.Message
import Repe.Wire.MessageLaws
import Repe.Wire.ErrorLaws
import Repe.Io.Read
import Repe.Io.ReadLaws
import Repe.Client.ResponseLoop
import Repe.Io.Write
import Repe.Io.WriteLaws
import Repe.Server.Respond
import Repe.Server.RespondLaws
import Repe.Server.AsyncConnection
import Repe.Client.RequestWriter
import Repe.Client.Calls
import Repe.Client.CallsLaws
import Repe.Client.Batch
import Repe.Client.BatchLaws
import Repe.Client.Registry
import Repe.Client.Correlation
import Repe.Client.Shutdown
import Repe.Client.Forwarding
import Repe.Client.Dispatch
import Repe.Client.Subscription
import Repe.Client.SubscriptionLaws
import Repe.Client.NotifyStreams
import Repe.Server.Mount
import Repe.Server.Pointer
import Repe.Server.PointerLaws
import Repe.Server.Segments
import Repe.Server.Router
import Repe.Server.RouterLaws
import Repe.Server.Responses
import Repe.Server.Registry
import Repe.Server.RegistryLaws
import Repe.Server.PeerRegistry
import Repe.Server.PeerRegistryLaws
import Repe.Server.WebSocket
import Repe.Server.WebSocketLaws
import Repe.Server.WebSocketAnswers
import Repe.Server.Outbound
import Repe.Server.Typed
import Repe.Server.Hooks
import Repe.Server.HooksLaws
import Repe.Rest.Gateway
import Repe.Rest.GatewayLaws
import Repe.Plugin.Runtime
import Repe.Plugin.RuntimeLaws
import Repe.Plugin.Host
import Repe.Plugin.HostLaws
import Repe.Plugin.Load
import Repe.Server.CallInto
import Repe.Server.TcpConnection
import Repe.Server.TcpConnectionLaws
import Repe.Plugin.Build
import Repe.Plugin.BuildLaws
import Repe.Fleet.Node
import Repe.Fleet.NodeLaws
import Repe.Fleet.Retry
import Repe.Transfer.Control
import Repe.Transfer.ControlLaws
import Repe.Transfer.Credit
import Repe.Transfer.Ring
import Repe.Transfer.Resume
import Repe.Svs.Produce
import Repe.Svs.WriteTurns
import Repe.Svs.Session
import Repe.Svs.Table
import Repe.Svs.TableLaws
import Repe.Svs.Connections
import Repe.Svs.Consumer
import Repe.Svs.TrailerHold
import Repe.Svs.Pull
import Repe.Svs.AsyncPull
import Repe.Svs.Release
import Repe.Svs.CopyLaws
import Repe.Svs.Commit
import Repe.Svs.AsyncCommit
import Repe.Svs.PullToFile
import Repe.Svs.SharedPull
import Repe.Svs.SharedPullLaws
import Repe.Derive.Body
import Repe.Derive.Expand
import Repe.Derive.ExpandLaws
import Repe.Derive.Dispatch
import Repe.Derive.Served
import Repe.Derive.Listing
import Repe.Derive.DispatchLaws
import Repe.Derive.Obligations
import Repe.Derive.Registered
import Repe.Derive.ListingLaws
import Repe.Derive.Document
import Repe.Derive.Nesting
import Repe.Derive.MethodArgs
import Repe.Derive.MethodArgsLaws
import Repe.Derive.ErrorPaths
import Repe.Derive.Concurrent
import Repe.EndToEnd.Calls
