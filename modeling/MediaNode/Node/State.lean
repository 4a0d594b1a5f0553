import MediaNode.LinkIndex
import MediaNode.Site.Basic
import MediaNode.Worker.Supervisor

/-!
# The node

A node has sessions, workers, links from directories to streams, and sites. Its
state changes only by requests of sessions, by commands and by its own
housekeeping; each of these gives the new state and the effects it wants.
-/
namespace MediaNode

/-- The version that the node tells its clients. -/
def version : String := "1.0.23"

/-- The state of a node. -/
structure Node where
  settings : Settings
  /-- The sessions by name. -/
  sessions : List (String × Session) := []
  /-- The sessions that can be sent to. -/
  senders : List String := []
  outbox : Outbox := {}
  supervisor : Worker.Supervisor
  vodLinks : LinkIndex := {}
  codLinks : LinkIndex := {}
  sites : Sites := {}
  /-- The directories that old chunks are removed from. -/
  monitored : List Path := []
  meter : Statistics.Meter := {}
  shutdown : Bool := false
  /-- Milliseconds from stopping the workers to closing the listeners. -/
  cleanupDelay : Nat := 5000
deriving BEq, Repr, Inhabited

/-- The outcome of an operation: the node and the files afterwards, and what to do
to the outside. -/
structure Turn where
  node : Node
  files : FileTree
  effects : List Effect := []
deriving Repr, Inhabited

namespace Node

/-- The node of some settings, without sessions and workers. -/
def ofSettings (settings : Settings) : Node :=
  { settings, supervisor := .ofSettings settings }

/-- A session by its name. -/
def session? (node : Node) (name : String) : Option Session := node.sessions.lookup name

/-- Put a session in the place of the one with its name. -/
def setSession (node : Node) (name : String) (session : Session) : Node :=
  { node with
    sessions := node.sessions.map fun (n, s) => if n = name then (n, session) else (n, s) }

/-- Begin a session. -/
def connect (node : Node) (name : String) (peer : Peer) : Node :=
  { node with
    sessions := node.sessions.filter (·.fst ≠ name) ++ [(name, { peer })]
    senders := node.senders.filter (· ≠ name) ++ [name]
    outbox := node.outbox.listen (.session name) }

/-- Forget a session. -/
def disconnect (node : Node) (name : String) : Node :=
  { node with
    sessions := node.sessions.filter (·.fst ≠ name)
    senders := node.senders.filter (· ≠ name) }

/-- The channel to a session that can be sent to. -/
def channelOf (node : Node) (name : String) : Option Channel :=
  if node.senders.contains name then some (.session name) else none

/-- Send a message to a session. -/
def sendTo (node : Node) (name : String) (message : Rpc.Message) : List Effect :=
  match node.channelOf name with
  | some channel => node.outbox.send channel message
  | none => []

/-- Send a notification to every verified session. -/
def broadcast (node : Node) (method : String) (params : Option Json) : List Effect :=
  node.sessions.flatMap fun (name, session) =>
    if session.verified then node.sendTo name (.notification (.make method params)) else []

/-- Who is connected; a session counts when it is verified. -/
def onlineUsers (node : Node) : Statistics.OnlineUsers :=
  { daemon := (node.sessions.filter (·.snd.verified)).length
    http := node.sites.hls.online
    vods := node.sites.vod.online
    cods := node.sites.cod.online }

/-- Look at the machine. -/
def measure (node : Node) (around : Surroundings) : Node × List (String × Json) :=
  let (sample, meter) := node.meter.sample around.machine around.disk around.clock.toNat
  ({ node with meter }, sample.members around.now node.onlineUsers)

/-- What a session is told when it is activated: how the machine is, and how the
node is reached. -/
def introduction (node : Node) (around : Surroundings) (expiration : Int) : Node × Json :=
  let (node, members) := node.measure around
  (node, .ofMembers (members ++
    [("http_host", .str node.settings.httpHost), ("vods_host", .str node.settings.vodsHost),
     ("cods_host", .str node.settings.codsHost), ("expiration_time", .int expiration),
     ("project", .str License.project), ("version", .str version)]))

/-- The node with workers and an outbox that an operation of the supervisor left. -/
def withWorkers (node : Node) (outbox : Outbox) (supervisor : Worker.Supervisor) : Node :=
  { node with outbox, supervisor }

/-- Stop every worker and launch no more. -/
def stopWorkers (node : Node) : Node × List Effect :=
  let (outbox, supervisor, effects) := node.supervisor.stopAll node.outbox
  (node.withWorkers outbox supervisor, effects)

/-- Begin the shutdown: stop the workers after a delay in milliseconds, and close
the listeners once the cleanup delay is over too. There is only one shutdown. -/
def beginShutdown (node : Node) (delay : Nat) : Except Fault (Node × List Effect) :=
  if node.shutdown then .error .shutdownInProgress
  else
    let node := { node with shutdown := true }
    let close := Effect.closeAfter (delay + node.cleanupDelay)
    if delay = 0 then
      let (node, effects) := node.stopWorkers
      .ok (node, effects ++ [close])
    else .ok (node, [.stopWorkersAfter delay, close])

end Node
end MediaNode
