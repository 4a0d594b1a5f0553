import MediaNode.FileTree
import MediaNode.Stream.FieldTable

/-!
# Why a spec is not runnable
-/
namespace MediaNode.Stream

/-- Why a spec does not become a stream. -/
inductive ConfigError where
  /-- A field that has to be there is not, or is of the wrong type. -/
  | missing (field : String)
  | unknownType (number : Int)
  | proxyUnsupported
  | restartAttempts (number : Int)
  | chunkDuration (number : Int)
  | validation (cause : ValidationError)
  | createDirectory (path : String) (cause : FileError)
deriving DecidableEq, Repr, Inhabited

/-- The name of each kind of cause. -/
def ConfigError.kind : ConfigError → String
  | .missing _ => "Missing"
  | .unknownType _ => "UnknownType"
  | .proxyUnsupported => "ProxyUnsupported"
  | .restartAttempts _ => "InvalidRestartAttempts"
  | .chunkDuration _ => "InvalidChunkDuration"
  | .validation _ => "Validation"
  | .createDirectory _ _ => "CreateDir"

/-- The wording of each cause. -/
def ConfigError.message : ConfigError → String
  | .missing field => "Define " ++ field ++ " variable and make it valid"
  | .unknownType n => "Unknown stream type: " ++ Text.signedDecimal n
  | .proxyUnsupported => "Proxy streams not handled for now"
  | .restartAttempts n => "restart_attempts must be positive, got " ++ Text.signedDecimal n
  | .chunkDuration n => "timeshift_chunk_duration must be positive, got " ++ Text.signedDecimal n
  | .validation cause => cause.message
  | .createDirectory path cause =>
    "Failed to create directory " ++ path ++ ": " ++ cause.message

/-- A value that has to be there. -/
def require {α : Type} (error : ConfigError) : Option α → Except ConfigError α
  | some x => .ok x
  | none => .error error

end MediaNode.Stream
