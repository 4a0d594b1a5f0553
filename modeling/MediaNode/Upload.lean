import MediaNode.Effect
import MediaNode.Fault
import MediaNode.Url.Basic

/-!
# Uploads

A client may ask for a log or a drawing of a stream to be sent to a server. The
file is read whole before anything is sent.
-/
namespace MediaNode.Upload

/-- The log that a worker keeps in its feedback directory. -/
def logFileName : String := "logs.txt"

/-- The drawing that a worker keeps in its feedback directory. -/
def pipelineFileName : String := "dump.html"

/-- Where to send a file: only to a web server. -/
def target (text : String) : Except Fault Url :=
  match Url.parse text with
  | .error cause => .error (.invalidParams ("Invalid path: " ++ cause.message))
  | .ok url => if url.isHttp then .ok url else .error .unsupportedProtocol

/-- A file of a stream in its feedback directory. -/
def streamFile (feedbackDirectory : Path) (name : String) : Path := feedbackDirectory.join name

/-- The contents to send. -/
def content (files : FileTree) (file : Path) : Except Fault (List UInt8) :=
  (files.read file).mapError fun cause => .io cause.message

/-- The fault of an upload that the server did not answer. It names no user. -/
def unsent (target : Url) : Fault :=
  .upload ("error sending request for url (" ++ target.withoutUser.text ++ ")")

/-- The answer to the request for an upload. -/
def response (id : Rpc.Id) : Except Fault Unit → Rpc.Response
  | .ok () => .success id (.obj [])
  | .error fault => .failure id fault.toErrorObject

end MediaNode.Upload
