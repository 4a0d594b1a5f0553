import MediaNode.Json.Build
import MediaNode.Fault
import MediaNode.Rpc.Failure

/-!
# Reports of messages and failures

Messages, error objects, faults and failed calls as values, each together with what
the other layers of the protocol make of it.
-/
namespace MediaNode

namespace Rpc

/-- The name of each kind of message. -/
def Message.kind : Message → String
  | .request _ => "request"
  | .response _ => "response"
  | .notification _ => "notification"

/-- A message with what holds of it. -/
def Message.report (message : Message) : List (String × Json) :=
  [("kind", .str message.kind), ("method", .ofOption .str message.method),
   ("is_request", .bool message.isRequest), ("is_notification", .bool message.isNotification),
   ("is_response", .bool message.isResponse), ("json", .str message.toText)]

/-- The error number of an error object, as a member. -/
def ErrorObject.errnoMember (e : ErrorObject) : String × Json :=
  ("errno", .ofOption .int e.errno)

/-- An error object with the fault that it reports and what becomes of that. The
wording of the failure that it is stands under `outer`. -/
def ErrorObject.report (outer : String) (e : ErrorObject) : Json :=
  let fault := Fault.ofErrorObject e
  .ofMembers
    [("rpc", e.toJson), e.errnoMember, ("display", .str e.text), ("daemon_kind", .str fault.kind),
     ("daemon", .str fault.message), ("back", fault.toErrorObject.toJson),
     ("client", .str (CallError.rpc e).message), (outer, .str (Failure.rpc e).message)]

/-- The name of each kind of failure. -/
def Failure.kind : Failure → String
  | .io _ => "Io"
  | .json _ => "Json"
  | .rpc _ => "Rpc"
  | .disconnected => "Disconnected"
  | .timeout => "Timeout"
  | .codec _ => "Codec"
  | .unexpectedResponse => "UnexpectedResponse"

/-- A failed call and the failure that it is, whose kind and wording are named
after `outer`. -/
def CallError.report (outer : String) (error : CallError) : Json :=
  let failure := Failure.ofCallError error
  .ofMembers
    [("display", .str error.message), (outer ++ "_kind", .str failure.kind),
     (outer, .str failure.message)]

end Rpc

/-- A fault with its error object and the fault that this reports. -/
def Fault.report (fault : Fault) : Json :=
  let e := fault.toErrorObject
  let back := Fault.ofErrorObject e
  .ofMembers
    [("kind", .str fault.kind), ("display", .str fault.message), ("rpc", e.toJson),
     e.errnoMember, ("back_kind", .str back.kind), ("back", .str back.message)]

end MediaNode
