import MediaNode.Rpc.ErrorObject
import MediaNode.Json.Reader

/-!
# Messages

Every frame holds one object: a request has a method and an id, a notification
has a method alone, and anything else has to be a response to an id. Reading
treats a null id, null params, a null result, a null error and null data as
absent; `Message.normal` is the message with these differences removed, which is
what reading the written form of a message gives back.
-/
namespace MediaNode.Rpc

/-- The id of a request. -/
inductive Id where
  | number (n : Nat)
  | text (s : String)
deriving DecidableEq, Repr, Inhabited

namespace Id

/-- How an id reads. -/
def display : Id → String
  | .number n => Text.decimal n
  | .text s => s

/-- The id as a value. -/
def toJson : Id → Json
  | .number n => .int n
  | .text s => .str s

/-- Read an id: an integer that is not negative, or a string. -/
def ofJson : Json → Json.Shaped Id
  | .int n => if 0 ≤ n then .ok (.number n.toNat) else .error (.noVariant "RequestId")
  | .str s => .ok (.text s)
  | _ => .error (.noVariant "RequestId")

end Id

/-- The version every message made here carries. -/
def version : String := "2.0"

/-- A call, answered by a response with its id. -/
structure Request where
  version : String
  method : String
  params : Option Json
  id : Option Id
deriving BEq, Repr, Inhabited

/-- The answer to a request. -/
structure Response where
  version : String
  result : Option Json
  error : Option ErrorObject
  id : Id
deriving BEq, Repr, Inhabited

/-- A call without an answer. -/
structure Notification where
  version : String
  method : String
  params : Option Json
deriving BEq, Repr, Inhabited

/-- Any frame of a connection. -/
inductive Message where
  | request (body : Request)
  | response (body : Response)
  | notification (body : Notification)
deriving BEq, Repr, Inhabited

/-- A request of this version. -/
def Request.make (method : String) (params : Option Json) (id : Id) : Request :=
  { version := Rpc.version, method, params, id := some id }

/-- A request of this version that asks for no answer. -/
def Request.withoutId (method : String) (params : Option Json) : Request :=
  { version := Rpc.version, method, params, id := none }

/-- A notification of this version. -/
def Notification.make (method : String) (params : Option Json) : Notification :=
  { version := Rpc.version, method, params }

/-- A response with a result. -/
def Response.success (id : Id) (result : Json) : Response :=
  { version := Rpc.version, result := some result, error := none, id }

/-- A response with an error. -/
def Response.failure (id : Id) (error : ErrorObject) : Response :=
  { version := Rpc.version, result := none, error := some error, id }

/-- Whether a response has an error. -/
def Response.isError (r : Response) : Bool := r.error.isSome

namespace Message

/-- The method of a request or notification. -/
def method : Message → Option String
  | .request r => some r.method
  | .notification n => some n.method
  | .response _ => none

/-- Whether an answer is expected. -/
def isRequest : Message → Bool
  | .request r => r.id.isSome
  | _ => false

/-- Whether the message is a call without an answer. -/
def isNotification : Message → Bool
  | .request r => r.id.isNone
  | .notification _ => true
  | .response _ => false

/-- Whether the message answers a request. -/
def isResponse : Message → Bool
  | .response _ => true
  | _ => false

/-- The members of a message in the order they are written. -/
def members : Message → List (String × List Char)
  | .request r =>
    ("jsonrpc", Json.quoted r.version) :: ("method", Json.quoted r.method) ::
      ((r.params.map fun v => ("params", v.chars)).toList ++
        (r.id.map fun i => ("id", i.toJson.chars)).toList)
  | .response r =>
    ("jsonrpc", Json.quoted r.version) ::
      ((r.result.map fun v => ("result", v.chars)).toList ++
        (r.error.map fun e => ("error", Json.chars (.obj e.members))).toList ++
        [("id", r.id.toJson.chars)])
  | .notification n =>
    ("jsonrpc", Json.quoted n.version) :: ("method", Json.quoted n.method) ::
      (n.params.map fun v => ("params", v.chars)).toList

/-- Members that are already text, with commas between them. -/
def joinMembers : List (String × List Char) → List Char
  | [] => []
  | [(key, text)] => Json.quoted key ++ ':' :: text
  | (key, text) :: rest => Json.quoted key ++ ':' :: (text ++ ',' :: joinMembers rest)

/-- The text of a message. -/
def toText (message : Message) : String :=
  String.ofList ('\x7b' :: (joinMembers message.members ++ ['\x7d']))

/-- The message as a value. -/
def toJson : Message → Json
  | .request r => .ofMembers <|
    [("jsonrpc", .str r.version), ("method", .str r.method)] ++
      (r.params.map (("params", ·))).toList ++ (r.id.map fun i => ("id", i.toJson)).toList
  | .response r => .ofMembers <|
    [("jsonrpc", .str r.version)] ++ (r.result.map (("result", ·))).toList ++
      (r.error.map fun e => ("error", e.toJson)).toList ++ [("id", r.id.toJson)]
  | .notification n => .ofMembers <|
    [("jsonrpc", .str n.version), ("method", .str n.method)] ++
      (n.params.map (("params", ·))).toList

/-- A member that may hold any value. -/
def anyField (name : String) : Json.Field :=
  { name, check := fun _ => none, absence := .optional }

/-- The record of a request. -/
def requestType : Json.RecordType :=
  { name := "Request"
    fields :=
      [.of "jsonrpc" .required Json.shapeStr, .of "method" .required Json.shapeStr,
       anyField "params", .of "id" .optional (Json.shapeOption Id.ofJson)] }

/-- The record of a response. -/
def responseType : Json.RecordType :=
  { name := "Response"
    fields :=
      [.of "jsonrpc" .required Json.shapeStr, anyField "result",
       .of "error" .optional (Json.shapeOption ErrorObject.ofJson),
       .of "id" .required Id.ofJson] }

/-- The record of a notification. -/
def notificationType : Json.RecordType :=
  { name := "Notification"
    fields :=
      [.of "jsonrpc" .required Json.shapeStr, .of "method" .required Json.shapeStr,
       anyField "params"] }

/-- A field that may be absent or null. -/
def optionField (members : List (String × Json)) (name : String) : Option Json :=
  (Json.lookup name members).bind ErrorObject.present

/-- A string field that has been checked. -/
def strField (members : List (String × Json)) (name : String) : String :=
  (Json.fieldOf members name Json.shapeStr).getD ""

/-- Read a request. -/
def requestOf (value : Json) : Json.Shaped Request := do
  let members ← Json.record requestType value
  return {
    version := strField members "jsonrpc"
    method := strField members "method"
    params := optionField members "params"
    id := (Json.fieldOf members "id" (Json.shapeOption Id.ofJson)).getD none }

/-- Read a response. -/
def responseOf (value : Json) : Json.Shaped Response := do
  let members ← Json.record responseType value
  return {
    version := strField members "jsonrpc"
    result := optionField members "result"
    error := (Json.fieldOf members "error" (Json.shapeOption ErrorObject.ofJson)).getD none
    id := (Json.fieldOf members "id" Id.ofJson).getD (.number 0) }

/-- Read a notification. -/
def notificationOf (value : Json) : Json.Shaped Notification := do
  let members ← Json.record notificationType value
  return {
    version := strField members "jsonrpc"
    method := strField members "method"
    params := optionField members "params" }

/-- Read a message. The members decide which of the three it has to be. -/
def ofJson (value : Json) : Json.Shaped Message :=
  match value with
  | .obj members =>
    let hasMethod := (Json.lookup "method" members).isSome
    let hasId := (optionField members "id").isSome
    if hasMethod then
      if hasId then (requestOf value).map .request
      else (notificationOf value).map .notification
    else (responseOf value).map .response
  | _ => .error .notAnObject

end Message

/-- Why a text is no message. -/
inductive ReadError where
  /-- The text is not JSON. -/
  | notJson
  /-- The text is JSON of another shape. -/
  | shape (cause : Json.ShapeError)
deriving Repr, Inhabited

/-- The wording of a cause; a text that is not JSON has none of its own. -/
def ReadError.message : ReadError → String
  | .notJson => ""
  | .shape cause => cause.message

namespace Message

/-- The message of the value at the front of a text. Its shape is looked at before
what follows it. -/
def ofFront : Option (Json × List Char) → Except ReadError Message
  | none => .error .notJson
  | some (value, rest) =>
    match ofJson value with
    | .error cause => .error (.shape cause)
    | .ok message => if (Json.skipSpace rest).isEmpty then .ok message else .error .notJson

/-- Read a message from its text. -/
def parse (text : String) : Except ReadError Message := ofFront (Json.front text.toList)

/-- Read a message from bytes. A zero character stands nowhere in a message, so that
bytes that are no text give none. -/
def parseBytes (data : List UInt8) : Except ReadError Message :=
  match Text.ofBytes? data with
  | some text => parse text
  | none => ofFront (Json.front (Text.charsUpToFlaw data))

/-- An error object with null data removed. -/
def normalError (e : ErrorObject) : ErrorObject :=
  { e with data := e.data.bind ErrorObject.present }

/-- The message that reading gives back: null params, results and data are absent,
and a request without an id is a notification. -/
def normal : Message → Message
  | .request r =>
    match r.id with
    | some id => .request { r with params := r.params.bind ErrorObject.present, id := some id }
    | none => .notification
        { version := r.version, method := r.method
          params := r.params.bind ErrorObject.present }
  | .response r => .response
      { r with
        result := r.result.bind ErrorObject.present
        error := r.error.map normalError }
  | .notification n => .notification { n with params := n.params.bind ErrorObject.present }

end Message
end MediaNode.Rpc
