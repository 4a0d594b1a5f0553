import MediaNode.Json.Shape

/-!
# Error objects

A failed response carries a code, a message and, where one applies, a POSIX error
number inside its data. `Code` and `Errno` name the numbers of the protocol.
-/
namespace MediaNode.Rpc

-- the codes of the protocol
namespace Code
def parseError : Int := -32700
def invalidRequest : Int := -32600
def methodNotFound : Int := -32601
def invalidParams : Int := -32602
def internalError : Int := -32603
def notActivated : Int := -32000
def permissionDenied : Int := -32001
def streamExists : Int := -32002
def streamNotFound : Int := -32003
def validationFailed : Int := -32004
def shutdownInProgress : Int := -32005
def activationFailed : Int := -32006
def operationFailed : Int := -32010
end Code

-- the error numbers of the protocol
namespace Errno
def interrupted : Int := 4
def again : Int := 11
def exists_ : Int := 17
def invalid : Int := 22
end Errno

/-- The error object of a failed response. -/
structure ErrorObject where
  code : Int
  message : String
  data : Option Json
deriving BEq, Repr, Inhabited

namespace ErrorObject

/-- An error without data. -/
def plain (code : Int) (message : String) : ErrorObject := { code, message, data := none }

/-- An error with an error number. -/
def withErrno (code : Int) (message : String) (number : Int) : ErrorObject :=
  { code, message, data := some (.obj [("errno", .int number)]) }

/-- The error number inside the data, if it is a 32-bit integer. -/
def errno (e : ErrorObject) : Option Int :=
  (e.data.bind (Json.get? "errno")).bind fun
    | .int n => if -0x80000000 ≤ n ∧ n ≤ 0x7FFFFFFF then some n else none
    | _ => none

def parseError : ErrorObject := plain Code.parseError "Parse error"
def invalidRequest : ErrorObject := plain Code.invalidRequest "Invalid Request"
def methodNotFound : ErrorObject := plain Code.methodNotFound "Method not found"
def invalidParams (message : String) : ErrorObject :=
  withErrno Code.invalidParams message Errno.invalid
def internalError (message : String) : ErrorObject := plain Code.internalError message
def notActivated : ErrorObject := withErrno Code.notActivated "Not activated" Errno.invalid
def permissionDenied : ErrorObject :=
  withErrno Code.permissionDenied "Don't have permissions" Errno.invalid

/-- How an error reads. -/
def text (e : ErrorObject) : String :=
  "RPC error " ++ Text.signedDecimal e.code ++ ": " ++ e.message

/-- The members of an error object in the order they are written. -/
def members (e : ErrorObject) : List (String × Json) :=
  ("code", .int e.code) :: ("message", .str e.message) :: (e.data.map (("data", ·))).toList

/-- The error object as a value. -/
def toJson (e : ErrorObject) : Json := .ofMembers e.members

/-- The record that an error object is read from. -/
def recordType : Json.RecordType :=
  { name := "RpcError"
    fields :=
      [.of "code" .required Json.shapeInt32, .of "message" .required Json.shapeStr,
       { name := "data", check := fun _ => none, absence := .optional }] }

/-- A value where null counts as nothing. -/
def present : Json → Option Json
  | .null => none
  | other => some other

/-- Read an error object. -/
def ofJson (value : Json) : Json.Shaped ErrorObject := do
  let members ← Json.record recordType value
  return {
    code := (Json.fieldOf members "code" Json.shapeInt32).getD 0
    message := (Json.fieldOf members "message" Json.shapeStr).getD ""
    data := (Json.lookup "data" members).bind present }

end ErrorObject
end MediaNode.Rpc
