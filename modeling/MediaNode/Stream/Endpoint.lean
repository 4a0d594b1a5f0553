import MediaNode.Json.Shape
import MediaNode.Stream.Spec
import MediaNode.Url.Basic

/-!
# Inputs and outputs

A spec lists its inputs and outputs in arrays. An entry is a record with a URI,
or a bare string, whose position in the array is then its id. Entries of any
other shape are passed over without a gap in the positions of those behind them.
-/
namespace MediaNode.Stream

/-- Where a stream comes from. -/
structure Input where
  id : Nat
  uri : String
  userAgent : Option String
  streamLink : Option Bool
  proxy : Option String
deriving DecidableEq, Repr, Inhabited

/-- Where a stream goes to. -/
structure Output where
  id : Nat
  uri : String
  httpRoot : Option String
  hlsType : Option String
deriving DecidableEq, Repr, Inhabited

/-- A member that is left out when there is nothing in it. -/
def optionalMember {α : Type} (name : String) (write : α → Json) : Option α → List (String × Json)
  | some x => [(name, write x)]
  | none => []

namespace Input

/-- The record of an input. -/
def recordType : Json.RecordType :=
  { name := "InputUri"
    fields :=
      [.of "id" .defaulted Json.shapeUInt64, .of "uri" .required Json.shapeStr,
       .of "user_agent" .defaulted (Json.shapeOption Json.shapeStr),
       .of "stream_link" .defaulted (Json.shapeOption Json.shapeBool),
       .of "proxy" .defaulted (Json.shapeOption Json.shapeStr)] }

/-- An input from its record. -/
def ofRecord (value : Json) : Json.Shaped Input := do
  let members ← Json.record recordType value
  return {
    id := (Json.fieldOf members "id" Json.shapeUInt64).getD 0
    uri := (Json.fieldOf members "uri" Json.shapeStr).getD ""
    userAgent := (Json.fieldOf members "user_agent" (Json.shapeOption Json.shapeStr)).getD none
    streamLink := (Json.fieldOf members "stream_link" (Json.shapeOption Json.shapeBool)).getD none
    proxy := (Json.fieldOf members "proxy" (Json.shapeOption Json.shapeStr)).getD none }

/-- An input that is a bare string at a position. -/
def bare (position : Nat) (uri : String) : Input :=
  { id := position, uri, userAgent := none, streamLink := none, proxy := none }

/-- The record of an input as a value. -/
def toJson (input : Input) : Json :=
  .ofMembers (("id", .int input.id) :: ("uri", .str input.uri) ::
    (optionalMember "user_agent" .str input.userAgent ++
      optionalMember "stream_link" .bool input.streamLink ++
      optionalMember "proxy" .str input.proxy))

end Input

namespace Output

/-- The record of an output. -/
def recordType : Json.RecordType :=
  { name := "OutputUri"
    fields :=
      [.of "id" .defaulted Json.shapeUInt64, .of "uri" .required Json.shapeStr,
       .of "http_root" .defaulted (Json.shapeOption Json.shapePath),
       .of "hls_type" .defaulted (Json.shapeOption Json.shapeStr)] }

/-- An output from its record. -/
def ofRecord (value : Json) : Json.Shaped Output := do
  let members ← Json.record recordType value
  return {
    id := (Json.fieldOf members "id" Json.shapeUInt64).getD 0
    uri := (Json.fieldOf members "uri" Json.shapeStr).getD ""
    httpRoot := (Json.fieldOf members "http_root" (Json.shapeOption Json.shapePath)).getD none
    hlsType := (Json.fieldOf members "hls_type" (Json.shapeOption Json.shapeStr)).getD none }

/-- An output that is a bare string at a position. -/
def bare (position : Nat) (uri : String) : Output :=
  { id := position, uri, httpRoot := none, hlsType := none }

/-- The record of an output as a value. -/
def toJson (output : Output) : Json :=
  .ofMembers (("id", .int output.id) :: ("uri", .str output.uri) ::
    (optionalMember "http_root" .str output.httpRoot ++
      optionalMember "hls_type" .str output.hlsType))

/-- The URL of an output, if its URI is one. -/
def url (output : Output) : Option Url := (Url.parse output.uri).toOption

/-- Whether the output is served over HTTP. -/
def isHttp (output : Output) : Bool := match output.url with
  | some url => url.isHttp
  | none => false

/-- The path of an output that is a file. -/
def filePath (output : Output) : Option Path := output.url.bind Url.filePath

/-- The directory that requests for an HTTP output name. -/
def servedRoot (output : Output) : Option Path :=
  if output.isHttp then output.httpRoot.map Path.mk else none

end Output

/-- What an entry of an array stands for: a record, or a bare string at its
position. -/
def readEntry {α : Type} (ofRecord : Json → Json.Shaped α) (bare : Nat → String → α)
    (position : Nat) (entry : Json) : Option α :=
  match ofRecord entry with
  | .ok full => some full
  | .error _ => entry.asStr.map (bare position)

/-- The entries of an array from a position on. -/
def readEntries {α : Type} (ofRecord : Json → Json.Shaped α) (bare : Nat → String → α) :
    Nat → List Json → List α
  | _, [] => []
  | position, entry :: rest =>
    (readEntry ofRecord bare position entry).toList ++
      readEntries ofRecord bare (position + 1) rest

/-- The inputs of a spec; none if they are no array. -/
def readInput (spec : Spec) : Option (List Input) :=
  ((spec.get? "input").bind Json.asArr).map (readEntries Input.ofRecord Input.bare 0)

/-- The outputs of a spec; none if they are no array. -/
def readOutput (spec : Spec) : Option (List Output) :=
  ((spec.get? "output").bind Json.asArr).map (readEntries Output.ofRecord Output.bare 0)

end MediaNode.Stream
