import RpcLink.Json.Reader
import RpcLink.SystemError
import RpcLink.Text.Blank
import RpcLink.Text.Elapsed
import RpcLink.Wire.RpcError

/-!
The ways in which a call, a connection or a configuration fails, and what each says.
-/

namespace RpcLink

/-- What was wrong with JSON: its text, or a value read from it. -/
inductive JsonFault where
  | text (error : Json.ReadError)
  | value (error : Json.DecodeError)
deriving DecidableEq

def JsonFault.message : JsonFault → String
  | .text e => e.message
  | .value e => e.message

inductive Failure where
  /-- A configuration that cannot work. -/
  | invalidConfig (message : String)
  /-- The server's program does not exist. -/
  | programNotFound (searched : String)
  /-- The server's program did not start. -/
  | spawn (error : SystemError)
  /-- No native host is registered under this name. -/
  | hostNotFound (host : String)
  /-- The server started, and did not answer the handshake as it should. -/
  | handshake (message : String)
  /-- The channel closed before the call was answered or registered. -/
  | channelClosed (reason : String)
  | io (error : SystemError)
  | json (message : String) (fault : JsonFault)
  /-- A frame that holds no response. -/
  | malformed (message : String)
  /-- A length that no frame may have. -/
  | frameTooLarge (length limit : Nat)
  /-- No answer within the time allowed, in nanoseconds. -/
  | timeout (ns : Nat)
  /-- The server answered with an error. -/
  | rpc (error : RpcError)
deriving DecidableEq

namespace Failure

def message : Failure → String
  | .invalidConfig m => s!"invalid configuration: {m}"
  | .programNotFound searched => s!"codingbuddy CLI not found (searched: {searched})"
  | .spawn e => s!"failed to spawn codingbuddy process: {e.message}"
  | .hostNotFound host => s!"specified native messaging host not found: {host}"
  | .handshake m => s!"handshake failed: {m}"
  | .channelClosed reason => s!"channel closed: {reason}"
  | .io e => s!"IO error: {e.message}"
  | .json m _ => s!"failed to parse JSON: {m}"
  | .malformed m => s!"malformed frame: {m}"
  | .frameTooLarge length limit =>
    s!"native message length {length} is outside 1..={limit} bytes"
  | .timeout ns => s!"request timed out after {Text.elapsed ns}"
  | .rpc e => s!"rpc error {e.text}"

/-- The text of the error behind the failure, if there is one. -/
def source : Failure → Option String
  | .spawn e | .io e => some e.message
  | .json _ fault => some fault.message
  | _ => none

/-- Text that is no JSON: the column of the fault and the beginning of the text. -/
def unreadable (e : Json.ReadError) (text : String) : Failure :=
  .json s!"at position {e.column}: {Text.takeChars 100 text}" (.text e)

/-- A program that did not start. -/
def ofStart (program : String) (e : SystemError) : Failure :=
  if e.isNotFound then .programNotFound program else .spawn e

/-- JSON with a fault that speaks for itself. -/
def ofJsonFault (fault : JsonFault) : Failure :=
  .json fault.message fault

/-- The server could not be reached, so that no request was sent. -/
def isTransportUnavailable : Failure → Bool
  | .programNotFound _ | .spawn _ | .hostNotFound _ | .handshake _ => true
  | _ => false

/-- The channel closed under the call. -/
def isChannelClosed : Failure → Bool
  | .channelClosed _ => true
  | _ => false

/-- The same call may succeed when it is made again. -/
def isRetryable : Failure → Bool
  | .timeout _ | .io _ | .channelClosed _ => true
  | _ => false

end Failure

end RpcLink
