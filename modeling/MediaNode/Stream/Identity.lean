import MediaNode.Stream.Endpoint
import MediaNode.Stream.Error

/-!
# Identities

The identity of a stream is what the node itself has to know of it: its id, its
kind, its ends, and its directories. `derive` reads it off a spec and touches no
file; `prepare` also makes the directories that the stream will write into, and
only ever adds directories to the tree.
-/
namespace MediaNode.Stream

/-- The log level handed to workers when a spec has none. -/
def defaultLogLevel : Int := 7

/-- What the node knows of a stream. -/
structure Identity where
  id : String
  kind : Kind
  input : List Input
  output : List Output
  feedbackDirectory : Path
  dataDirectory : Path
  logLevel : Int
deriving DecidableEq, Repr, Inhabited

/-- The directories that HTTP outputs are served from. -/
def Identity.servedRoots (identity : Identity) : List Path :=
  identity.output.filterMap Output.servedRoot

/-- A directory that a spec has to name. -/
def requiredDirectory (spec : Spec) (key : String) : Except ConfigError Path :=
  (require (.missing key) ((spec.str? key).filter (· ≠ ""))).map Path.mk

/-- The kind that a spec has to have. -/
def requiredKind (spec : Spec) : Except ConfigError Kind := do
  let number ← require (.missing "type") (spec.int? "type")
  match Kind.ofInt? number with
  | some kind => .ok kind
  | none => .error (.unknownType number)

/-- Read the identity off a spec. -/
def Identity.derive (spec : Spec) : Except ConfigError Identity := do
  let id ← require (.missing "id") spec.id?
  let kind ← requiredKind spec
  let feedbackDirectory ← requiredDirectory spec "feedback_directory"
  let dataDirectory ← requiredDirectory spec "data_directory"
  let input ← require (.missing "input") (readInput spec)
  return {
    id, kind, input
    output := (readOutput spec).getD []
    feedbackDirectory, dataDirectory
    logLevel := (spec.int? "log_level").getD defaultLogLevel }

/-- Make a directory and its parents. -/
def createDirectory (tree : FileTree) (path : Path) : FileTree × Except ConfigError Unit :=
  let (made, outcome) := tree.makeDirectories path
  (made, outcome.mapError (.createDirectory path.text))

/-- The directory that an output needs, if it needs one. -/
def Output.directory (output : Output) : Except ConfigError (Option Path) :=
  if output.isHttp then (require (.missing "http_root") output.httpRoot).map fun root => some ⟨root⟩
  else .ok (output.filePath.bind Path.parent)

/-- Make what the outputs need, in order. -/
def prepareOutputs (tree : FileTree) : List Output → FileTree × Except ConfigError Unit
  | [] => (tree, .ok ())
  | output :: rest =>
    match output.directory with
    | .error e => (tree, .error e)
    | .ok none => prepareOutputs tree rest
    | .ok (some path) =>
      match createDirectory tree path with
      | (made, .ok ()) => prepareOutputs made rest
      | (made, .error e) => (made, .error e)

/-- Make what the far end of a stream needs: the recording directory of a
recorder, or the directories of the outputs. -/
def prepareFarEnd (tree : FileTree) (spec : Spec) (identity : Identity) :
    FileTree × Except ConfigError Unit :=
  if identity.kind.recordsTimeshift then
    match requiredDirectory spec "timeshift_dir" with
    | .error e => (tree, .error e)
    | .ok path => createDirectory tree path
  else
    match readOutput spec with
    | none => (tree, .error (.missing "output"))
    | some output => prepareOutputs tree output

/-- Read the identity off a spec and make its directories; those of the far end
only if they are asked for. The tree keeps what was made before a failure. -/
def Identity.prepare (tree : FileTree) (spec : Spec) (checkFolders : Bool) :
    FileTree × Except ConfigError Identity :=
  match Identity.derive spec with
  | .error e => (tree, .error e)
  | .ok identity =>
    match createDirectory tree identity.feedbackDirectory with
    | (tree, .error e) => (tree, .error e)
    | (tree, .ok ()) =>
      match createDirectory tree identity.dataDirectory with
      | (tree, .error e) => (tree, .error e)
      | (tree, .ok ()) =>
        if checkFolders then
          match prepareFarEnd tree spec identity with
          | (tree, .error e) => (tree, .error e)
          | (tree, .ok ()) => (tree, .ok identity)
        else (tree, .ok identity)

end MediaNode.Stream
