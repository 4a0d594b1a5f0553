import MediaNode.Rpc.Frame
import MediaNode.Settings
import MediaNode.Stream.Error

/-!
# Faults

A fault is why the node does not do what it was asked. Every fault becomes an
error object for the one who asked, with the code and error number of its cause;
`ofErrorObject` is what the receiver of an error object makes of it.
-/
namespace MediaNode

/-- Why the node cannot be set up. -/
inductive SetupError where
  | settings (cause : SettingsError)
  | json (cause : Rpc.ReadError)
  | stream (cause : Stream.ConfigError)
  | license (reason : String)
deriving Repr, Inhabited

/-- The wording of each cause. -/
def SetupError.message : SetupError → String
  | .settings cause => cause.message
  | .json cause => "JSON error: " ++ cause.message
  | .stream cause => "Stream config error: " ++ cause.message
  | .license reason => "License error: " ++ reason

/-- Why the node does not do what it was asked. -/
inductive Fault where
  | io (text : String)
  | json (cause : Rpc.ReadError)
  /-- The session has not activated a license. -/
  | notActivated
  /-- The session was activated for verification only. -/
  | permissionDenied
  | invalidParams (reason : String)
  | methodNotFound (method : String)
  | streamExists (id : String)
  | streamNotExist (id : String)
  | streamNotFound
  /-- The spec is not runnable. -/
  | config (cause : Stream.ConfigError)
  | activation (reason : String)
  | shutdownInProgress
  | spawn (reason : String)
  | unsupportedProtocol
  | upload (reason : String)
  | setup (cause : SetupError)
  | codec (cause : Rpc.CodecError)
deriving Repr, Inhabited

namespace Fault

/-- The name of each kind of fault. -/
def kind : Fault → String
  | .io _ => "Io"
  | .json _ => "Json"
  | .notActivated => "NotActivated"
  | .permissionDenied => "PermissionDenied"
  | .invalidParams _ => "InvalidParams"
  | .methodNotFound _ => "MethodNotFound"
  | .streamExists _ => "StreamExists"
  | .streamNotExist _ => "StreamNotExist"
  | .streamNotFound => "StreamNotFound"
  | .config _ => "Config"
  | .activation _ => "Activation"
  | .shutdownInProgress => "ShutdownInProgress"
  | .spawn _ => "Spawn"
  | .unsupportedProtocol => "UnsupportedProtocol"
  | .upload _ => "Upload"
  | .setup _ => "Core"
  | .codec _ => "Codec"

/-- The wording of each fault. -/
def message : Fault → String
  | .io text => "I/O error: " ++ text
  | .json cause => "JSON error: " ++ cause.message
  | .notActivated => "Not activated"
  | .permissionDenied => "Don't have permissions"
  | .invalidParams reason => "Invalid parameters: " ++ reason
  | .methodNotFound method => "Method not found: " ++ method
  | .streamExists id => "Stream with id: " ++ id ++ " exist, skip request."
  | .streamNotExist id => "Stream with id: " ++ id ++ " not exist, skip request."
  | .streamNotFound => "Stream not found"
  | .config cause => cause.message
  | .activation reason => reason
  | .shutdownInProgress => "Stop service in progress..."
  | .spawn reason => "Failed to spawn worker: " ++ reason
  | .unsupportedProtocol => "Not supported protocol"
  | .upload reason => "Upload failed: " ++ reason
  | .setup cause => "Core error: " ++ cause.message
  | .codec cause => "Codec error: " ++ cause.message

/-- The error object that reports a fault. Its message is the wording of the
fault, except that the reason for invalid parameters stands without its preface. -/
def toErrorObject (fault : Fault) : Rpc.ErrorObject :=
  match fault with
  | .notActivated => .notActivated
  | .permissionDenied => .permissionDenied
  | .invalidParams reason => .invalidParams reason
  | .methodNotFound _ => .plain Rpc.Code.methodNotFound fault.message
  | .streamExists _ => .withErrno Rpc.Code.streamExists fault.message Rpc.Errno.exists_
  | .streamNotExist _ | .streamNotFound =>
    .withErrno Rpc.Code.streamNotFound fault.message Rpc.Errno.invalid
  | .config (.createDirectory _ _) =>
    .withErrno Rpc.Code.operationFailed fault.message Rpc.Errno.invalid
  | .config _ => .withErrno Rpc.Code.validationFailed fault.message Rpc.Errno.invalid
  | .activation _ => .withErrno Rpc.Code.activationFailed fault.message Rpc.Errno.invalid
  | .shutdownInProgress =>
    .withErrno Rpc.Code.shutdownInProgress fault.message Rpc.Errno.again
  | .unsupportedProtocol => .withErrno Rpc.Code.invalidParams fault.message Rpc.Errno.invalid
  | .spawn _ | .upload _ | .io _ =>
    .withErrno Rpc.Code.operationFailed fault.message Rpc.Errno.interrupted
  | .json _ | .setup _ | .codec _ => .internalError fault.message

/-- The fault that an error object reports: one of its own for six codes, and a
failure with the same message for every other. -/
def ofErrorObject (e : Rpc.ErrorObject) : Fault :=
  if e.code = Rpc.Code.notActivated then .notActivated
  else if e.code = Rpc.Code.permissionDenied then .permissionDenied
  else if e.code = Rpc.Code.invalidParams then .invalidParams e.message
  else if e.code = Rpc.Code.methodNotFound then .methodNotFound e.message
  else if e.code = Rpc.Code.shutdownInProgress then .shutdownInProgress
  else if e.code = Rpc.Code.activationFailed then .activation e.message
  else .io e.message

end Fault
end MediaNode
