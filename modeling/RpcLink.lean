import RpcLink.Bench.InMemory
import RpcLink.Main
import RpcLink.Proofs.Exchange.Resolution
import RpcLink.Relay
import RpcLink.Text.Quoted
import RpcLink.Proofs.Exchange.Closing
import RpcLink.Proofs.Native.Moves
import RpcLink.Proofs.Native.Connections
import RpcLink.Proofs.Framing.LineBuffer
import RpcLink.Proofs.Wire.Request
import RpcLink.Proofs.Native.Traffic
import RpcLink.Proofs.Native.Accounts
import RpcLink.Proofs.Native.Routing
import RpcLink.Proofs.Framing.PacketSource
import RpcLink.Proofs.Exchange.Closed
import RpcLink.Proofs.Native.Attempts
import RpcLink.Proofs.Exchange.Awaiting
import RpcLink.Proofs.Native.Intake
import RpcLink.Proofs.Native.Stale
import RpcLink.Proofs.Native.Placement
import RpcLink.Proofs.Native.Draining
import RpcLink.Proofs.Native.Endings
import RpcLink.Proofs.Json.Strings
import RpcLink.Proofs.Json.Numbers
import RpcLink.Proofs.Json.ReadBack
import RpcLink.Proofs.Framing.RequestLines
import RpcLink.Proofs.Wire.Envelope
import RpcLink.Proofs.Wire.Response
import RpcLink.Proofs.Native.Rejections
import RpcLink.Proofs.Pipe.Noise
import RpcLink.Proofs.Exchange.Accounting
import RpcLink.Proofs.Native.Status
import RpcLink.Proofs.Pipe.Greeting
import RpcLink.Proofs.Wire.Records
import RpcLink.Proofs.Wire.Relay
import RpcLink.Proofs.Native.Unsent
import RpcLink.Proofs.Native.Carriage
import RpcLink.Proofs.Native.Changes
import RpcLink.Proofs.Config.Accepted
import RpcLink.Proofs.Config.Changes
import RpcLink.Proofs.Wire.Grammar
import RpcLink.Proofs.Exchange.Fares
import RpcLink.Proofs.Pipe.Closing
import RpcLink.Proofs.Native.Disconnect
import RpcLink.Proofs.Framing.Retention
import RpcLink.Proofs.Wire.Replies
import RpcLink.Proofs.Wire.Welcome
import RpcLink.Proofs.Pipe.Stages
import RpcLink.Proofs.Pipe.Unreached
