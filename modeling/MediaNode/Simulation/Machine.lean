import MediaNode.Node.Housekeeping
import MediaNode.Simulation.Process
import MediaNode.Site.Serve

/-!
# A machine for a node

A machine carries out what a node wants: it holds the node with its files, runs
the processes of its workers, and keeps its timers. Messages to sessions are left
in the mail of the machine, uploads are left for a network to do.

The pipes of the processes may be left unattached. Then nothing that they do is
seen by the node, and what the node sends them is left in the mail too.
-/
namespace MediaNode.Simulation

/-- What a timer is for. -/
inductive Alarm where
  | expire (id : String) (serial : Nat)
  | stopWorkers
  | close
  | kill (id : String) (serial : Nat)
deriving DecidableEq, Repr, Inhabited

/-- A process with the node's end of its pipes. -/
structure Hosted where
  process : Process
  buffer : Rpc.Buffer := {}
  /-- Whether the node still reads what the process writes. -/
  reading : Bool := true
deriving Repr, Inhabited

/-- A node and what carries out its effects. -/
structure Machine where
  node : Node
  files : FileTree
  /-- Milliseconds of a clock that never runs backwards. -/
  clock : Int := 0
  /-- Milliseconds since the epoch. -/
  now : Int
  /-- Milliseconds on the clock of the timers. -/
  time : Nat := 0
  /-- When each timer goes off. -/
  timers : List (Nat × Alarm) := []
  hosted : List Hosted := []
  attached : Bool
  mail : List (Channel × Rpc.Message) := []
  uploads : List UploadJob := []
  /-- Commands that requests for files left. -/
  queued : List Command := []
  /-- Whether the listeners are to close. -/
  closing : Bool := false
deriving Inhabited

/-- Places that are on the disk of every machine. -/
def usualPlaces : List String :=
  ["/", ".", "/bin", "/dev", "/dev/null", "/etc", "/etc/hostname", "/etc/passwd", "/home", "/root",
   "/run", "/tmp", "/tmp/", "/usr", "/usr/bin", "/var", "/var/tmp"]

/-- Total and free bytes of the disk that a path lies on; there are none where
nothing is. -/
def diskOf (files : FileTree) (path : Path) : Nat × Nat :=
  if usualPlaces.contains path.text || (files.lookup path).toBool then (1, 1) else (0, 0)

/-- How long a worker may take to end when it was asked to, in milliseconds. -/
def killGrace : Nat := 10000

namespace Hosted

/-- Whether this is the process of a worker. -/
def isOf (hosted : Hosted) (id : String) (serial : Nat) : Bool :=
  hosted.process.id = id && hosted.process.serial = serial

/-- The exit code and the signal of an ending. -/
def codeAndSignal : Ending → Option Int × Option Int
  | .code n => (some n, none)
  | .signal n => (none, some n)

/-- Read what the process wrote: its messages, and the end of the link. -/
def read (hosted : Hosted) : Hosted × List Command :=
  let id := hosted.process.id
  let serial := hosted.process.serial
  let process := { hosted.process with written := [] }
  if hosted.reading then
    let (messages, failure, buffer) := (hosted.buffer.push hosted.process.written).drain .strict
    let ended := failure.isSome || process.ending.isSome
    ({ process, buffer, reading := !ended },
      messages.map (.workerMessage id serial) ++
        (if ended then [.workerLinkClosed id serial] else []))
  else ({ hosted with process }, [])

/-- The command that tells of the end of the process. -/
def exitCommand (hosted : Hosted) : List Command :=
  match hosted.process.ending with
  | some ending =>
    let (code, signal) := codeAndSignal ending
    [.workerExited hosted.process.id hosted.process.serial code signal]
  | none => []

end Hosted

namespace Machine

/-- What the node sees of the machine. -/
def around (machine : Machine) : Surroundings :=
  { clock := machine.clock, now := machine.now, launch := Process.launchable
    disk := (1, 1) }

/-- Let a process go on after a change to it. -/
def change (machine : Machine) (id : String) (serial : Nat) (f : Process → Process) : Machine :=
  machine.hosted.foldl (fun machine hosted =>
    if hosted.isOf id serial then
      let (files, process) := (f hosted.process).resume machine.now machine.files
      { machine with files, hosted := machine.hosted ++ [{ hosted with process }] }
    else { machine with hosted := machine.hosted ++ [hosted] }) { machine with hosted := [] }

/-- Deliver a message. -/
def deliver (machine : Machine) (channel : Channel) (message : Rpc.Message) : Machine :=
  match machine.attached, channel with
  | true, .worker id serial =>
    match Rpc.encode .strict message [] with
    | .ok bytes => machine.change id serial (·.feed bytes)
    | .error _ => machine
  | _, _ => { machine with mail := machine.mail ++ [(channel, message)] }

/-- Deliver the messages among effects. -/
def deliverEach (machine : Machine) (effects : List Effect) : Machine :=
  effects.foldl (fun machine effect => match effect with
    | .deliver channel message => machine.deliver channel message
    | _ => machine) machine

/-- Set a timer. -/
def arm (machine : Machine) (after : Nat) (alarm : Alarm) : Machine :=
  { machine with timers := machine.timers ++ [(machine.time + after, alarm)] }

/-- Send a signal to a process. -/
def signal (machine : Machine) (id : String) (serial number : Nat) : Machine :=
  machine.change id serial (·.signal number)

/-- Carry out one effect. The command that a job ends with only answers, so the
effects of that command are messages. -/
def carryOut (machine : Machine) : Effect → Machine
  | .deliver channel message => machine.deliver channel message
  | .launch id serial command =>
    let (files, process) := Process.launch machine.now machine.files id serial command
    { machine with files, hosted := machine.hosted ++ [{ process }] }
  | .terminate id serial => machine.signal id serial Process.terminateSignal
  | .armKill id serial => machine.arm killGrace (.kill id serial)
  | .expireAfter id serial seconds => machine.arm (seconds * 1000) (.expire id serial)
  | .stopWorkersAfter delay => machine.arm delay .stopWorkers
  | .closeAfter delay => machine.arm delay .close
  | .removeChunks directories =>
    { machine with
      files := (Chunk.removeStaleAll machine.files machine.now 0 directories).fst }
  | .prepare job =>
    let (files, command) := Directories.run machine.files job
    let turn := machine.node.apply machine.around files command
    { machine with node := turn.node, files := turn.files }.deliverEach turn.effects
  | .upload job => { machine with uploads := machine.uploads ++ [job] }

/-- Whether the node has its end of the link to a process. -/
def isLinked (machine : Machine) (process : Process) : Bool :=
  match machine.node.supervisor.registry.getSerial? process.id process.serial with
  | some handle => handle.linked && machine.node.outbox.isOpen handle.channel
  | none => false

/-- Close the input of processes that are no longer linked. -/
def closeInputs (machine : Machine) : Machine :=
  let ended := machine.hosted.filter fun hosted =>
    machine.attached && hosted.process.inputOpen && !machine.isLinked hosted.process
  ended.foldl (fun machine hosted =>
    machine.change hosted.process.id hosted.process.serial Process.closeInput) machine

/-- Carry out the outcome of an operation of the node. -/
def perform (machine : Machine) (turn : Turn) : Machine :=
  let changed := { machine with node := turn.node, files := turn.files }
  (turn.effects.foldl carryOut changed).closeInputs

/-- Apply a command. -/
def apply (machine : Machine) (command : Command) : Machine :=
  machine.perform (machine.node.apply machine.around machine.files command)

/-- Apply commands in order. -/
def applyAll (machine : Machine) (commands : List Command) : Machine :=
  commands.foldl apply machine

/-- Change the node alone. -/
def update (machine : Machine) (node : Node) (effects : List Effect) : Machine :=
  machine.perform { node, files := machine.files, effects }

/-- Answer a request of a session. -/
def request (machine : Machine) (name : String) (request : Rpc.Request) :
    Machine × Option Rpc.Response :=
  let (turn, response) := machine.node.handle machine.around machine.files name request
  (machine.perform turn, response)

/-- Set back the last sign of life of a worker by so many seconds, and by the moment
that passes until somebody looks. -/
def setBack (machine : Machine) (id : String) (seconds : Int) : Machine :=
  let node := machine.node
  let supervisor := node.supervisor.touch (machine.clock - seconds * 1000 - 1) id
  { machine with node := { node with supervisor } }

/-- Queue commands for later. -/
def queue (machine : Machine) (commands : List Command) : Machine :=
  { machine with queued := machine.queued ++ commands }

/-- Apply the queued commands. -/
def runQueue (machine : Machine) : Machine :=
  { machine with queued := [] }.applyAll machine.queued

/-- End an upload: the answer to its request. -/
def answerUpload (machine : Machine) (job : UploadJob) (outcome : Except Fault Unit) : Machine :=
  machine.deliverEach
    (machine.node.outbox.send job.channel (.response (Upload.response job.id outcome)))

/-- Answer a request for a file of a site. -/
def answerSite (machine : Machine) (kind : SiteKind) (method target : String) :
    Machine × Site.Response :=
  let node := machine.node
  let (response, commands) := Site.answer node.vodLinks node.codLinks machine.files kind
    (node.sites.get kind).root method target
  (machine.queue commands, response)

/-- Decide on a request for a file of a site. -/
def triggerSite (machine : Machine) (kind : SiteKind) (path : Path) : Machine × Site.Outcome :=
  let node := machine.node
  let (outcome, commands) := Site.trigger node.vodLinks node.codLinks machine.files kind path
  (machine.queue commands, outcome)

/-- Do what a timer is for. -/
def ring (machine : Machine) : Alarm → Machine
  | .expire id serial => machine.apply (.expireStream id serial)
  | .stopWorkers => machine.apply .stopWorkers
  | .close => { machine with closing := true }
  | .kill id serial => machine.signal id serial Process.killSignal

/-- Let the timers go off that are due at a time: which, in order. -/
def ringDue (machine : Machine) (time : Nat) : Machine × List Alarm :=
  let due := (machine.timers.filter (·.fst ≤ time)).mergeSort fun a b => decide (a.fst ≤ b.fst)
  let alarms := due.map Prod.snd
  let later := { machine with timers := machine.timers.filter fun t => !decide (t.fst ≤ time) }
  (alarms.foldl ring later, alarms)

/-- Let time pass on the clock of the timers: what went off, in order. -/
def advance (machine : Machine) (milliseconds : Nat) : Machine × List Alarm :=
  let time := machine.time + milliseconds
  { machine with time }.ringDue time

/-- Wait until the process of a worker has ended, and apply what it did: how many
messages it wrote, and how it ended. -/
def awaitExit (machine : Machine) (id : String) (serial : Nat) :
    Machine × Option (Nat × Ending) :=
  match machine.hosted.find? (·.isOf id serial) with
  | none => (machine, none)
  | some hosted =>
    let (files, process) := hosted.process.awake machine.now 100 machine.files
    let (hosted, commands) := { hosted with process }.read
    let machine :=
      { machine with files, hosted := machine.hosted.filter fun other => !other.isOf id serial }
    match process.ending with
    | none => ({ machine with hosted := machine.hosted ++ [hosted] }, none)
    | some ending =>
      (machine.applyAll (commands ++ hosted.exitCommand), some (commands.length - 1, ending))

/-- Take what the processes have written and how they ended, as commands. -/
def readProcesses (machine : Machine) : Machine × List Command :=
  let (hosted, commands) := machine.hosted.foldl (fun (kept, commands) hosted =>
    let (hosted, more) := hosted.read
    if hosted.process.ending.isSome then (kept, commands ++ more ++ hosted.exitCommand)
    else (kept ++ [hosted], commands ++ more)) ([], [])
  ({ machine with hosted }, commands)

/-- Apply everything that processes do until they do nothing more, at most as often
as the fuel allows. -/
def follow : Nat → Machine → Machine
  | 0, machine => machine
  | fuel + 1, machine =>
    let (machine, commands) := machine.readProcesses
    if commands.isEmpty then machine else follow fuel (machine.applyAll commands)

/-- The mail, which is empty afterwards. -/
def takeMail (machine : Machine) : Machine × List (Channel × Rpc.Message) :=
  ({ machine with mail := [] }, machine.mail)

end Machine
end MediaNode.Simulation
