import MediaNode.Rpc.Frame

/-!
# Why a call fails

A client's call ends in a `CallError` when it has no result. `Failure` is what the
protocol as a whole can fail with; it words two causes in its own way.
-/
namespace MediaNode.Rpc

/-- Why a call has no result. -/
inductive CallError where
  | io (text : String)
  | codec (cause : CodecError)
  | json (cause : ReadError)
  /-- The node answered with an error. -/
  | rpc (error : ErrorObject)
  | connectionClosed
  | timeout
  /-- The node answered without a result. -/
  | unexpectedResponse
deriving Repr, Inhabited

/-- The name of each kind of cause. -/
def CallError.kind : CallError → String
  | .io _ => "Io"
  | .codec _ => "Codec"
  | .json _ => "Json"
  | .rpc _ => "Rpc"
  | .connectionClosed => "ConnectionClosed"
  | .timeout => "Timeout"
  | .unexpectedResponse => "UnexpectedResponse"

/-- The wording of each cause. -/
def CallError.message : CallError → String
  | .io text => "I/O error: " ++ text
  | .codec cause => "Codec error: " ++ cause.message
  | .json cause => "JSON error: " ++ cause.message
  | .rpc error => "RPC error: " ++ error.text
  | .connectionClosed => "Connection closed"
  | .timeout => "Request timeout"
  | .unexpectedResponse => "Unexpected response type"

/-- Why anything of the protocol fails. -/
inductive Failure where
  | io (text : String)
  | json (cause : ReadError)
  | rpc (error : ErrorObject)
  | disconnected
  | timeout
  | codec (cause : CodecError)
  | unexpectedResponse
deriving Repr, Inhabited

namespace Failure

/-- The wording of each cause. -/
def message : Failure → String
  | .io text => "IO error: " ++ text
  | .json cause => "JSON error: " ++ cause.message
  | .rpc error => error.text
  | .disconnected => "Connection closed"
  | .timeout => "Request timeout"
  | .codec cause => "Codec error: " ++ cause.message
  | .unexpectedResponse => "Unexpected response"

/-- The failure of a call. -/
def ofCallError : CallError → Failure
  | .io text => .io text
  | .codec cause => .codec cause
  | .json cause => .json cause
  | .rpc error => .rpc error
  | .connectionClosed => .disconnected
  | .timeout => .timeout
  | .unexpectedResponse => .unexpectedResponse

end Failure
end MediaNode.Rpc
