import MediaNode.Node.Requests

/-!
# Commands

A command is applied as a whole. The end of a worker's process removes the worker,
is told to every verified session, and launches the worker again if that was
decided when it was asked to end.
-/
namespace MediaNode.Node

/-- Use the directories that are ready. A site whose directory is not among them
keeps its root. -/
def applyPrepared (node : Node) (roots : PreparedRoots) : Node :=
  { node with
    sites :=
      { hls := { node.sites.hls with root := roots.hls.or node.sites.hls.root }
        vod := { node.sites.vod with root := roots.vods.or node.sites.vod.root }
        cod := { node.sites.cod with root := roots.cods.or node.sites.cod.root } }
    monitored := roots.monitored }

/-- Start a stream that was asked for. A failure is nobody's concern. -/
def lazyStart (node : Node) (around : Surroundings) (files : FileTree) (spec : Stream.Spec) :
    Turn :=
  let (files, start) := node.supervisor.create around files spec
  { node := { node with supervisor := start.supervisor }, files, effects := start.effects }

/-- What sessions are told about the end of a worker. -/
def quitParams (id : String) (code signal : Option Int) : Json :=
  .ofMembers [("id", .str id), ("exit_status", .int (code.getD 0)),
    ("signal", .int (signal.getD 0))]

/-- What is left to do with the files of a worker that has ended. -/
def cleanup (handle : Worker.Handle) : List Effect :=
  if handle.config.cleanupTs && !handle.servedRoots.isEmpty then [.removeChunks handle.servedRoots]
  else []

/-- Take the end of a worker's process. -/
def workerExited (node : Node) (around : Surroundings) (files : FileTree) (id : String)
    (serial : Nat) (code signal : Option Int) : Turn :=
  match node.supervisor.exited id serial with
  | (_, none) => { node, files }
  | (supervisor, some handle) =>
    let node := { node with supervisor }
    let told := node.broadcast "quit_status_stream" (some (quitParams id code signal))
    let turn : Turn :=
      if handle.restart then node.lazyStart around files handle.spec else { node, files }
    { turn with effects := told ++ cleanup handle ++ turn.effects }

/-- Take a message of a worker. -/
def workerMessage (node : Node) (id : String) (serial : Nat) (message : Rpc.Message) :
    Node × List Effect :=
  let (supervisor, effects, passedOn) := node.supervisor.receive node.outbox id serial message
  let node := { node with supervisor }
  match passedOn with
  | some notification => (node, effects ++ node.broadcast notification.method notification.params)
  | none => (node, effects)

/-- Apply a command. -/
def apply (node : Node) (around : Surroundings) (files : FileTree) : Command → Turn
  | .startStream spec => node.lazyStart around files spec
  | .touchStream id =>
    { node := { node with supervisor := node.supervisor.touch around.clock id }, files }
  | .workerMessage id serial message =>
    let (node, effects) := node.workerMessage id serial message
    { node, files, effects }
  | .workerLinkClosed id serial =>
    { node := { node with supervisor := node.supervisor.linkClosed id serial }, files }
  | .workerExited id serial code signal => node.workerExited around files id serial code signal
  | .expireStream id serial =>
    let (outbox, supervisor, effects) := node.supervisor.expire node.outbox id serial
    { node := node.withWorkers outbox supervisor, files, effects }
  | .stopWorkers =>
    let (node, effects) := node.stopWorkers
    { node, files, effects }
  | .preparedDirectories roots channel response =>
    { node := node.applyPrepared roots, files
      effects := node.outbox.send channel (.response response) }

end MediaNode.Node
