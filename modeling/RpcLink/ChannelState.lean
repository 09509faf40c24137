/-!
How a client's channel stands.
-/

namespace RpcLink

inductive ChannelState where
  /-- No channel has been opened yet. -/
  | unconnected
  | connecting
  /-- The channel is open. -/
  | ready
  /-- The channel closed; the next call opens another one. -/
  | closed
deriving DecidableEq

namespace ChannelState

def name : ChannelState → String
  | .unconnected => "unconnected"
  | .connecting => "connecting"
  | .ready => "ready"
  | .closed => "closed"

/-- The name with a capital letter. -/
def title : ChannelState → String
  | .unconnected => "Unconnected"
  | .connecting => "Connecting"
  | .ready => "Ready"
  | .closed => "Closed"

end ChannelState

end RpcLink
