import MediaNode.Chunk
import MediaNode.Node.Commands

/-!
# Housekeeping

From time to time the node asks its verified sessions whether they are still there,
stops channels that nobody asked for, removes old chunks, tells the sessions how
the machine is, and looks whether its license is still good.
-/
namespace MediaNode.Node

/-- The method of the question whether a client is still there. -/
def pingMethod : String := "ping_client"

/-- How many questions a client may leave unanswered. -/
def maxUnansweredPings : Nat := 3

/-- Milliseconds between questions. -/
def pingInterval : Nat := 30000

/-- Milliseconds between reports about the machine. -/
def statisticsInterval : Nat := 10000

/-- Milliseconds between looks at the license. -/
def licenseInterval : Nat := 300000

/-- Milliseconds between looks for channels that nobody asks for. -/
def reapInterval (settings : Settings) : Nat := max (settings.codsTtl * 500) 1000

/-- Milliseconds between looks for old chunks. -/
def sweepInterval (settings : Settings) : Nat := max (settings.filesTtl * 100) 1000

/-- Ask a session. It is gone if it left too many questions unanswered or nobody
listens to it. -/
def pingSession (node : Node) (outbox : Outbox) (params : Json) (name : String)
    (session : Session) : Outbox × Option (Session × List Effect) :=
  if session.pending.countMethod pingMethod < maxUnansweredPings then
    match node.channelOf name with
    | none => (outbox, none)
    | some channel =>
      match outbox.request channel pingMethod (some params) with
      | (outbox, some (id, message)) =>
        (outbox, some ({ session with pending := (session.pending.insert id pingMethod).fst },
          [.deliver channel message]))
      | (outbox, none) => (outbox, none)
  else (outbox, none)

/-- Ask the verified sessions of a list: the sessions that stay, the names of those
that are gone, and the questions. -/
def pingEach (node : Node) (params : Json) (outbox : Outbox) :
    List (String × Session) → Outbox × List (String × Session) × List String × List Effect
  | [] => (outbox, [], [], [])
  | (name, session) :: rest =>
    if session.verified then
      match node.pingSession outbox params name session with
      | (outbox, some (session, effects)) =>
        let (outbox, kept, gone, more) := pingEach node params outbox rest
        (outbox, (name, session) :: kept, gone, effects ++ more)
      | (outbox, none) =>
        let (outbox, kept, gone, more) := pingEach node params outbox rest
        (outbox, kept, name :: gone, more)
    else
      let (outbox, kept, gone, more) := pingEach node params outbox rest
      (outbox, (name, session) :: kept, gone, more)

/-- Ask every verified session, and forget those that are gone. -/
def ping (node : Node) (now : Int) : Node × List Effect :=
  let params := Json.ofMembers [("timestamp", .int now)]
  let (outbox, sessions, gone, effects) := node.pingEach params node.outbox node.sessions
  ({ node with outbox, sessions, senders := node.senders.filter fun n => !gone.contains n },
    effects)

/-- Whether a worker was of no use for longer than half of the time that unused
channels keep running. -/
def isIdle (node : Node) (clock : Int) (handle : Worker.Handle) : Bool :=
  decide ((node.settings.codsTtl * 500 : Int) < clock - handle.lastUpdate)

/-- Stop the idle workers of linked channels, and count them. -/
def reapEach (node : Node) (clock : Int) : List String → Node × List Effect × Nat
  | [] => (node, [], 0)
  | id :: rest =>
    match node.supervisor.registry.get? id with
    | none => reapEach node clock rest
    | some handle =>
      if handle.isStopping || !node.isIdle clock handle then reapEach node clock rest
      else
        match node.supervisor.stop node.outbox id with
        | .error _ => reapEach node clock rest
        | .ok (outbox, supervisor, effects) =>
          let (node, more, stopped) := reapEach (node.withWorkers outbox supervisor) clock rest
          (node, effects ++ more, stopped + 1)

/-- Stop the channels that nobody asks for, and count them. -/
def reap (node : Node) (clock : Int) : Node × List Effect × Nat :=
  node.reapEach clock node.codLinks.streamIds

/-- Remove the old chunks of the node, and count them. -/
def sweep (node : Node) (now : Int) (files : FileTree) : FileTree × Nat :=
  Chunk.removeStaleAll files now (node.settings.filesTtl * 1000) node.monitored

/-- Tell the verified sessions how the machine is. -/
def broadcastStatistics (node : Node) (around : Surroundings) : Node × List Effect :=
  let (node, members) := node.measure around
  (node, node.broadcast "statistic_service" (some (.ofMembers members)))

/-- Whether the license of the node is good. -/
def isLicensed (node : Node) (now : Int) : Bool :=
  node.settings.licenseKey.any (License.isActive · now)

/-- Begin the shutdown if the license is no longer good, unless it has begun. Also
whether the license is good. -/
def checkLicense (node : Node) (now : Int) : Node × List Effect × Bool :=
  if node.isLicensed now then (node, [], true)
  else
    match node.beginShutdown 0 with
    | .ok (node, effects) => (node, effects, false)
    | .error _ => (node, [], false)

end MediaNode.Node
