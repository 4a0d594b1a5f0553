import MediaNode.Node.Directories
import MediaNode.Node.Method
import MediaNode.Upload

/-!
# Requests

A request is answered at once or by a job, never by both. A request that fails
leaves the node as it was; only directories that a stream needed may have been
made. Starting a stream hands on what its supervisor has come to in any case; the
other handlers check everything before they change anything.
-/
namespace MediaNode

/-- What a handler leaves: the node, what to do to the outside, and the result
unless a job will answer. -/
structure Handled where
  node : Node
  effects : List Effect := []
  result : Option Json := some (.obj [])
deriving Repr, Inhabited

namespace Request

/-- The parameters of a request in the shape of a record. -/
def params {α : Type} (read : Json → Json.Shaped α) : Option Json → Except Fault α
  | none => .error (.invalidParams "Missing params")
  | some value => (read value).mapError fun cause => .invalidParams cause.message

/-- The parameters of activation: the license and the access asked for. -/
def activation (value : Json) : Json.Shaped (String × Option String) := do
  let members ← Json.record
    { name := "ActivateParams"
      fields := [.of "license" .required Json.shapeStr,
        .of "access" .defaulted (Json.shapeOption Json.shapeStr)] } value
  return ((Json.fieldOf members "license" Json.shapeStr).getD "",
    (Json.fieldOf members "access" (Json.shapeOption Json.shapeStr)).getD none)

/-- The parameters of stopping: the delay in milliseconds. -/
def stopping (value : Json) : Json.Shaped Nat := do
  let members ← Json.record
    { name := "StopParams", fields := [.of "delay" .defaulted Json.shapeUInt64] } value
  return (Json.fieldOf members "delay" Json.shapeUInt64).getD 0

/-- The parameters of synchronisation: the streams to link. -/
def streams (value : Json) : Json.Shaped (List Json) := do
  let members ← Json.record
    { name := "SyncParams", fields := [.of "streams" .defaulted Json.shapeArr] } value
  return (Json.fieldOf members "streams" Json.shapeArr).getD []

/-- The parameters that hold one text. -/
def oneText (record field : String) (value : Json) : Json.Shaped String := do
  let members ← Json.record
    { name := record, fields := [.of field .required Json.shapeStr] } value
  return (Json.fieldOf members field Json.shapeStr).getD ""

/-- The parameters that name a stream. -/
def streamId : Json → Json.Shaped String := oneText "StreamIdParams" "id"

/-- The parameters that say where to send the log of the node. -/
def logTarget : Json → Json.Shaped String := oneText "LogParams" "path"

/-- The parameters for a file of a stream: its feedback directory, and where to
send the file. -/
def streamFile (value : Json) : Json.Shaped (Path × String) := do
  let members ← Json.record
    { name := "StreamFileParams"
      fields := [.of "id" .required Json.shapeStr,
        .of "feedback_directory" .required Json.shapePath,
        .of "path" .required Json.shapeStr] } value
  return (⟨(Json.fieldOf members "feedback_directory" Json.shapePath).getD ""⟩,
    (Json.fieldOf members "path" Json.shapeStr).getD "")

/-- The spec to start: the member `config` if it is an object, and else the
parameters themselves. -/
def spec : Option Json → Except Fault Stream.Spec
  | none => .error (.invalidParams "Missing params")
  | some value =>
    let chosen := match value.get? "config" with
      | some (.obj members) => .obj members
      | _ => value
    match Stream.Spec.ofJson? chosen with
    | some spec => .ok spec
    | none => .error (.invalidParams "Stream config must be an object")

/-- Verify a session with the license of the node, as long as it has not
expired. -/
def activate (around : Surroundings) (node : Node) (name : String) (given : Option Json) :
    Except Fault Handled := do
  let (license, access) ← params activation given
  if node.settings.licenseKey ≠ some license then
    throw (.activation "Config not same activation key")
  match License.expireTime license with
  | none => throw (.activation "Invalid expire key")
  | some expiration =>
    if expiration ≤ around.now then throw (.activation "License expired")
    match node.session? name with
    | none => throw .notActivated
    | some session =>
      let node := node.setSession name (session.activate expiration (.ofRequest access))
      let (node, introduction) := node.introduction around expiration
      return { node, result := some introduction }

/-- Begin the shutdown. -/
def stopService (node : Node) (given : Option Json) : Except Fault Handled := do
  let delay ← match given with
    | none | some .null => pure 0
    | some value => params stopping (some value)
  let (node, effects) ← node.beginShutdown delay
  return { node, effects }

/-- The channel on which a job answers a session. -/
def jobChannel (node : Node) (name : String) (fault : Fault) : Except Fault Channel :=
  match node.channelOf name with
  | some channel => .ok channel
  | none => .error fault

/-- Prepare directories in a job. -/
def prepareService (node : Node) (name : String) (id : Rpc.Id) (given : Option Json) :
    Except Fault Handled := do
  match given.bind Json.asObj with
  | none => throw (.invalidParams "Expected directories object")
  | some members =>
    let channel ← jobChannel node name (.io "Session closed")
    return { node, effects := [.prepare { requested := Directories.requested members, channel, id }]
             result := none }

/-- Which links a stream of a request makes: those to a library, and those to
channels. -/
def linksOf (value : Json) : List (Path × Stream.Spec) × List (Path × Stream.Spec) :=
  match Stream.Spec.ofJson? value with
  | none => ([], [])
  | some spec =>
    match (Stream.validate spec).snd, Stream.Identity.derive spec with
    | .ok (), .ok identity =>
      if identity.kind.isVod then
        let linked := spec.withField "cleanup_ts" (.bool false)
        (identity.servedRoots.map (·, linked), [])
      else if identity.kind.isCod then ([], identity.servedRoots.map (·, spec))
      else ([], [])
    | _, _ => ([], [])

/-- Link the directories of streams. What is no usable stream is passed over. -/
def syncService (node : Node) (given : Option Json) : Except Fault Handled := do
  let values ← params streams given
  let links := values.map linksOf
  return {
    node := { node with
      vodLinks := node.vodLinks.extend (links.flatMap Prod.fst)
      codLinks := node.codLinks.extend (links.flatMap Prod.snd) } }

/-- Send a file in a job. -/
def upload (node : Node) (name : String) (id : Rpc.Id) (file : Path) (path : String) :
    Except Fault Handled := do
  let target ← Upload.target path
  let channel ← jobChannel node name (.upload "Session closed")
  return { node, effects := [.upload { file, target, channel, id }], result := none }

/-- Send the log of the node. -/
def getLogService (node : Node) (name : String) (id : Rpc.Id) (given : Option Json) :
    Except Fault Handled := do
  let path ← params logTarget given
  match node.settings.logFile with
  | none => throw (.upload "Node does not log to a file")
  | some file => upload node name id file path

/-- Send a file that a worker keeps in its feedback directory. -/
def getStreamFile (node : Node) (name : String) (id : Rpc.Id) (given : Option Json)
    (fileName : String) : Except Fault Handled := do
  let (directory, path) ← params streamFile given
  upload node name id (Upload.streamFile directory fileName) path

/-- Start a stream. What was done before a failure stays done. -/
def startStream (around : Surroundings) (node : Node) (files : FileTree) (given : Option Json) :
    Turn × Except Fault (Option Json) :=
  match spec given with
  | .error fault => ({ node, files }, .error fault)
  | .ok spec =>
    let (files, start) := node.supervisor.create around files spec
    ({ node := { node with supervisor := start.supervisor }, files, effects := start.effects },
      start.result.map fun () => some (.obj []))

/-- Stop a stream. -/
def stopStream (node : Node) (given : Option Json) : Except Fault Handled := do
  let id ← params streamId given
  let (outbox, supervisor, effects) ← node.supervisor.stop node.outbox id
  return { node := node.withWorkers outbox supervisor, effects }

/-- Restart a stream. -/
def restartStream (node : Node) (given : Option Json) : Except Fault Handled := do
  let id ← params streamId given
  let (outbox, supervisor, effects) ← node.supervisor.restart node.outbox id
  return { node := node.withWorkers outbox supervisor, effects }

/-- The turn of a handler that has checked everything before it changes anything. -/
def conclude (node : Node) (files : FileTree) :
    Except Fault Handled → Turn × Except Fault (Option Json)
  | .error fault => ({ node, files }, .error fault)
  | .ok handled => ({ node := handled.node, files, effects := handled.effects }, .ok handled.result)

@[simp] theorem conclude_error (node : Node) (files : FileTree) (fault : Fault) :
    conclude node files (.error fault) = ({ node, files }, .error fault) := rfl

@[simp] theorem conclude_ok (node : Node) (files : FileTree) (handled : Handled) :
    conclude node files (.ok handled) =
      ({ node := handled.node, files, effects := handled.effects }, .ok handled.result) := rfl

/-- Do what a method asks for, once its guard has let it pass. -/
def perform (around : Surroundings) (node : Node) (files : FileTree) (name : String)
    (id : Rpc.Id) (method : Method) (given : Option Json) : Turn × Except Fault (Option Json) :=
  match method with
  | .activate => conclude node files (activate around node name given)
  | .stopService => conclude node files (stopService node given)
  | .pingService =>
    conclude node files
      (.ok { node, result := some (.ofMembers [("timestamp", .int around.now)]) })
  | .prepareService => conclude node files (prepareService node name id given)
  | .syncService => conclude node files (syncService node given)
  | .getLogService => conclude node files (getLogService node name id given)
  | .startStream => startStream around node files given
  | .stopStream => conclude node files (stopStream node given)
  | .restartStream => conclude node files (restartStream node given)
  | .getLogStream => conclude node files (getStreamFile node name id given Upload.logFileName)
  | .getPipelineStream =>
    conclude node files (getStreamFile node name id given Upload.pipelineFileName)

/-- Find the method of a request, ask its guard, and do what it asks for. -/
def dispatch (around : Surroundings) (node : Node) (files : FileTree) (name : String)
    (id : Rpc.Id) (method : String) (given : Option Json) : Turn × Except Fault (Option Json) :=
  match Method.ofName? method with
  | none => ({ node, files }, .error (.methodNotFound method))
  | some method =>
    match method.guard.check (node.session? name) with
    | .error fault => ({ node, files }, .error fault)
    | .ok () => perform around node files name id method given

end Request

namespace Node

/-- The id that a request without one is answered under. -/
def answerId (request : Rpc.Request) : Rpc.Id := request.id.getD (.number 0)

/-- Answer a request of a session; no response if a job will answer. -/
def handle (node : Node) (around : Surroundings) (files : FileTree) (name : String)
    (request : Rpc.Request) : Turn × Option Rpc.Response :=
  let id := answerId request
  match Request.dispatch around node files name id request.method request.params with
  | (turn, .ok result) => (turn, result.map (.success id))
  | (turn, .error fault) => (turn, some (.failure id fault.toErrorObject))

/-- Note that a session answered a request; also the method of that request. -/
def answered (node : Node) (name : String) (id : Rpc.Id) : Node × Option String :=
  match node.session? name with
  | none => (node, none)
  | some session =>
    let (session, method) := session.takePending id
    (node.setSession name session, method)

/-- Take a message of a session. Requests are answered, responses are noted, and
everything else is passed over. -/
def receive (node : Node) (around : Surroundings) (files : FileTree) (name : String) :
    Rpc.Message → Turn
  | .request request =>
    if request.id.isNone then { node, files }
    else
      let (turn, response) := node.handle around files name request
      match response with
      | some response =>
        { turn with effects := turn.effects ++ turn.node.sendTo name (.response response) }
      | none => turn
  | .notification _ => { node, files }
  | .response response => { node := (node.answered name response.id).fst, files }

end Node
end MediaNode
