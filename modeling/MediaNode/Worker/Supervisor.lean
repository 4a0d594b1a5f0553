import MediaNode.Stream.Identity
import MediaNode.Surroundings
import MediaNode.Worker.Registry

/-!
# The supervisor

The supervisor launches one worker for each stream and follows it until its
process has ended. A failed launch changes nothing but the directories that it
made. What a worker sends or does counts only while it is the registered worker of
its stream.
-/
namespace MediaNode.Worker

/-- The workers of a node, and how to launch more of them. -/
structure Supervisor where
  registry : Registry := {}
  /-- The program of a worker and its first arguments. -/
  workerCommand : String
  streamlinkPath : Path
  /-- The serial number of the next worker. -/
  nextSerial : Nat := 1
  /-- Whether workers are launched at all. -/
  accepting : Bool := true
deriving BEq, Repr, Inhabited

namespace Supervisor

/-- A supervisor without workers. -/
def ofSettings (settings : Settings) : Supervisor :=
  { workerCommand := settings.workerPath, streamlinkPath := settings.streamlinkPath }

/-- The supervisor with another registry. -/
def withRegistry (supervisor : Supervisor) (registry : Registry) : Supervisor :=
  { supervisor with registry }

/-- The text that hands a spec to its worker, with the path of streamlink in it. -/
def configText (supervisor : Supervisor) (spec : Stream.Spec) : String :=
  (spec.withField "streamlink_path" (.str supervisor.streamlinkPath.text)).toJson.compact

/-- The words that run a worker; none without a program. -/
def commandOf (supervisor : Supervisor) (id : String) (spec : Stream.Spec) : Option (List String) :=
  match (Text.words supervisor.workerCommand.toList).map String.ofList with
  | [] => none
  | words => some (words ++ ["--stream-id", id, "--config", supervisor.configText spec])

/-- The handle of a worker that was just launched. -/
def newHandle (supervisor : Supervisor) (clock : Int) (identity : Stream.Identity)
    (spec : Stream.Spec) (config : Stream.Config) : Handle :=
  { id := identity.id, serial := supervisor.nextSerial, hasProcess := true, linked := true
    lastUpdate := clock, spec, config, servedRoots := identity.servedRoots, armable := true }

/-- What trying something leaves, whether it succeeds or fails: the supervisor, what was
done to the outside by then, and the result. -/
structure Trial (α : Type) where
  supervisor : Supervisor
  effects : List Effect := []
  result : Except Fault α

/-- Launch the process of a worker. -/
def spawn (supervisor : Supervisor) (around : Surroundings) (files : FileTree)
    (identity : Stream.Identity) (spec : Stream.Spec) (config : Stream.Config) : Trial Handle :=
  match supervisor.commandOf identity.id spec with
  | none => { supervisor, result := .error (.spawn "Empty worker command") }
  | some command =>
    match around.launch files command with
    | .error reason => { supervisor, result := .error (.spawn reason) }
    | .ok () =>
      let serial := supervisor.nextSerial
      let expiry := match config.base.ttl with
        | some seconds => [.expireAfter identity.id serial seconds]
        | none => []
      { supervisor := { supervisor with nextSerial := serial + 1 }
        effects := .launch identity.id serial command :: expiry
        result := .ok (supervisor.newHandle around.clock identity spec config) }

/-- Launch and register a worker for a spec whose directories are ready. -/
def enlist (supervisor : Supervisor) (around : Surroundings) (files : FileTree)
    (identity : Stream.Identity) (spec : Stream.Spec) : Trial Unit :=
  match Stream.build spec with
  | .error cause => { supervisor, result := .error (.config cause) }
  | .ok config =>
    if supervisor.registry.contains identity.id then
      { supervisor, result := .error (.streamExists identity.id) }
    else
      match supervisor.spawn around files identity spec config with
      | ⟨spawned, effects, .error fault⟩ => ⟨spawned, effects, .error fault⟩
      | ⟨spawned, effects, .ok handle⟩ =>
        -- the process runs by now, whatever becomes of its handle
        match spawned.registry.insert handle with
        | .error fault => ⟨spawned, effects, .error fault⟩
        | .ok registry => ⟨spawned.withRegistry registry, effects, .ok ()⟩

/-- Start a stream: check its spec, make its directories, and launch its worker.
The directories made before a failure stay. -/
def create (supervisor : Supervisor) (around : Surroundings) (files : FileTree)
    (spec : Stream.Spec) : FileTree × Trial Unit :=
  if !supervisor.accepting then (files, { supervisor, result := .error .shutdownInProgress })
  else
    match (Stream.validate spec).snd with
    | .error cause => (files, { supervisor, result := .error (.config (.validation cause)) })
    | .ok () =>
      match Stream.Identity.prepare files spec true with
      | (files, .error cause) => (files, { supervisor, result := .error (.config cause) })
      | (files, .ok identity) => (files, supervisor.enlist around files identity spec)

/-- Ask a registered worker to end, with the restart flag set as given. -/
def endWorker (supervisor : Supervisor) (outbox : Outbox) (handle : Handle) (restart : Bool)
    (reason : StopReason) : Outbox × Supervisor × List Effect :=
  let (outbox, handle, effects) := Handle.requestStop outbox { handle with restart } reason
  (outbox, supervisor.withRegistry (supervisor.registry.replace handle), effects)

/-- Stop the worker of a stream. It will not be launched again. -/
def stop (supervisor : Supervisor) (outbox : Outbox) (id : String) :
    Except Fault (Outbox × Supervisor × List Effect) :=
  match supervisor.registry.get? id with
  | none => .error (.streamNotExist id)
  | some handle => .ok (supervisor.endWorker outbox handle false .stop)

/-- End the worker of a stream and launch it again then. A worker that was already
asked to end keeps what was decided about it. -/
def restart (supervisor : Supervisor) (outbox : Outbox) (id : String) :
    Except Fault (Outbox × Supervisor × List Effect) :=
  match supervisor.registry.get? id with
  | none => .error .streamNotFound
  | some handle =>
    if handle.isStopping then .ok (outbox, supervisor, [])
    else .ok (supervisor.endWorker outbox handle true .restart)

/-- Ask each of these workers to end for good. -/
def stopEach (outbox : Outbox) : List Handle → Outbox × List Handle × List Effect
  | [] => (outbox, [], [])
  | handle :: rest =>
    let (outbox, handle, effects) := Handle.requestStop outbox { handle with restart := false } .stop
    let (outbox, handles, more) := stopEach outbox rest
    (outbox, handle :: handles, effects ++ more)

/-- Stop every worker and launch no more. -/
def stopAll (supervisor : Supervisor) (outbox : Outbox) : Outbox × Supervisor × List Effect :=
  let (outbox, handles, effects) := stopEach outbox supervisor.registry.handles
  (outbox, { supervisor with registry := ⟨handles⟩, accepting := false }, effects)

/-- Note that a stream was of use. -/
def touch (supervisor : Supervisor) (clock : Int) (id : String) : Supervisor :=
  match supervisor.registry.get? id with
  | none => supervisor
  | some handle => supervisor.withRegistry (supervisor.registry.replace (handle.touch clock))

/-- The methods of workers that are passed on to sessions. -/
def forwardedMethods : List String := ["changed_source_stream", "statistic_stream"]

/-- Whether a method is passed on. -/
def isForwarded (method : String) : Bool := forwardedMethods.contains method

/-- The answer to a request of a worker. -/
def answerTo (id : Rpc.Id) (method : String) : Rpc.Response :=
  if isForwarded method then .success id (.obj []) else .failure id .methodNotFound

/-- What a worker's message is answered with and what is passed on of it. -/
def reaction (outbox : Outbox) (handle : Handle) :
    Rpc.Message → List Effect × Option Rpc.Notification
  | .request r =>
    let answers := match r.id with
      | some id =>
        if handle.linked then outbox.send handle.channel (.response (answerTo id r.method)) else []
      | none => []
    (answers, if isForwarded r.method then some (.make r.method r.params) else none)
  | .notification n => ([], if isForwarded n.method then some n else none)
  | .response _ => ([], none)

/-- The handle of a worker after its message: it is running, and a request it has
answered is no longer pending. -/
def heard (handle : Handle) (message : Rpc.Message) : Handle :=
  let handle := handle.markRunning
  match message with
  | .response r => { handle with pending := (handle.pending.take r.id).fst }
  | _ => handle

/-- Take a message of a worker; also the notification to pass on. -/
def receive (supervisor : Supervisor) (outbox : Outbox) (id : String) (serial : Nat)
    (message : Rpc.Message) : Supervisor × List Effect × Option Rpc.Notification :=
  match supervisor.registry.getSerial? id serial with
  | none => (supervisor, [], none)
  | some handle =>
    let (effects, passedOn) := reaction outbox handle message
    (supervisor.withRegistry (supervisor.registry.replace (heard handle message)), effects, passedOn)

/-- Give up the link to a worker. -/
def linkClosed (supervisor : Supervisor) (id : String) (serial : Nat) : Supervisor :=
  match supervisor.registry.getSerial? id serial with
  | none => supervisor
  | some handle =>
    supervisor.withRegistry (supervisor.registry.replace { handle with linked := false })

/-- Remove the worker whose process has ended; also its handle. -/
def exited (supervisor : Supervisor) (id : String) (serial : Nat) : Supervisor × Option Handle :=
  let (registry, handle) := supervisor.registry.remove id serial
  (supervisor.withRegistry registry, handle)

/-- Stop a worker whose time is over, unless it was already asked to end. -/
def expire (supervisor : Supervisor) (outbox : Outbox) (id : String) (serial : Nat) :
    Outbox × Supervisor × List Effect :=
  match supervisor.registry.getSerial? id serial with
  | none => (outbox, supervisor, [])
  | some handle =>
    if handle.isStopping then (outbox, supervisor, [])
    else supervisor.endWorker outbox handle false .stop

end Supervisor
end MediaNode.Worker
