import MediaNode.Json.Diagnosis
import MediaNode.Simulation.Network

/-!
# Traffic

Everything in a network that can happen without time passing happens in stages:
the node reads its connections, messages are delivered, workers are heard, uploads
are sent, clients read, and programs end. A network is at rest when no stage has
anything to do.
-/
namespace MediaNode.Simulation.Network

/-- Something that may happen. -/
abbrev Stage := Network → Option Network

/-- End the session of a link, and the link. -/
def dropSession (network : Network) (key : Nat) : Network :=
  let name := sessionName key
  let node := network.machine.node.disconnect name
  let node := { node with outbox := node.outbox.hangUp (.session name) }
  { network.close ⟨key, .far⟩ with
    served := network.served.filter (· ≠ key)
    machine := { network.machine with node } }

/-- The node takes one message of a session. The end of the connection ends the
session, and so does a frame that cannot be read. -/
def readSession (network : Network) (key : Nat) : Option Network :=
  let socket : Socket := ⟨key, .far⟩
  match (network.end? socket).map fun e => Rpc.decode .control e.buffer with
  | none => none
  | some (.message message, buffer, _) =>
    let machine := network.machine
    let turn := machine.node.receive machine.around machine.files (sessionName key) message
    some { network.setBuffer socket buffer with machine := machine.perform turn }
  | some (.failed _, _, _) => some (network.dropSession key)
  | some (.more, _, _) =>
    if network.isConnected socket then none else some (network.dropSession key)

/-- The node reads one of its connections. -/
def readSessions : Stage := fun network => network.served.findSome? network.readSession

/-- Whether a job will still answer on a channel. -/
def hasJob (network : Network) (channel : Channel) : Bool :=
  (network.machine.uploads ++ network.held.map Exchange.job).any fun job => job.channel = channel

/-- The node closes a connection whose session it has forgotten. -/
def closeForgotten : Stage := fun network =>
  (network.served.find? fun key =>
    let name := sessionName key
    (network.machine.node.channelOf name).isNone && !network.hasJob (.session name)).map
    network.dropSession

/-- Messages of the node reach their links. -/
def deliver : Stage := fun network =>
  let (machine, mail) := network.machine.takeMail
  if mail.isEmpty then none
  else
    some <| mail.foldl (fun network (channel, message) =>
      match network.served.find? fun key => channel = .session (sessionName key) with
      | some key => (network.writeMessage ⟨key, .far⟩ message).fst
      | none => network) { network with machine }

/-- The node takes what its workers did. -/
def hearWorkers : Stage := fun network =>
  let (machine, commands) := network.machine.readProcesses
  if commands.isEmpty then none else some { network with machine := machine.applyAll commands }

/-- The node applies what requests for files left. -/
def applyQueued : Stage := fun network =>
  if network.machine.queued.isEmpty then none
  else some { network with machine := network.machine.runQueue }

/-- The node closes everything. -/
def closeNode : Stage := fun network =>
  if network.running && network.machine.closing then some network.stopNode else none

/-- Whether a collector is where a URL points to. -/
def reachesCollector (network : Network) (url : Url) : Bool :=
  match url.host, url.port.or (Url.defaultPort url.scheme) with
  | some host, some port =>
    url.scheme = "http" && network.servers.lookup { host, port } = some .collector
  | _, _ => false

/-- Answer the request for an upload. -/
def answerUpload (network : Network) (job : UploadJob) (outcome : Except Fault Unit) : Network :=
  { network with machine := network.machine.answerUpload job outcome }

/-- Send the request of an upload, going from place to place at most as often as
the fuel allows. -/
def exchange : Nat → Network → UploadJob → Upload.Request → Network
  | 0, network, job, request => network.answerUpload job (.error (Upload.unsent request.url))
  | fuel + 1, network, job, request =>
    if network.reachesCollector request.url then
      let network := { network with collected := network.collected ++ [request] }
      match treatment request.url with
      | .hold =>
        let deadline := network.machine.time + Upload.patience
        { network with held := network.held ++ [{ job, request, deadline }] }
      | .reply reply =>
        match Upload.next request reply with
        | .send request => exchange fuel network job request
        | .done outcome => network.answerUpload job outcome
    else network.answerUpload job (.error (Upload.unsent request.url))

/-- How many places an upload goes to at most. -/
def maxPlaces : Nat := 11

/-- An upload is sent. -/
def sendUpload : Stage := fun network =>
  match network.machine.uploads with
  | [] => none
  | job :: rest =>
    let network := { network with machine := { network.machine with uploads := rest } }
    match Upload.content network.machine.files job.file with
    | .error fault => some (network.answerUpload job (.error fault))
    | .ok body => some (exchange maxPlaces network job (Upload.post job.target body))

/-- Collectors answer what they held back. -/
def release (network : Network) : Network :=
  network.held.foldl (fun network held =>
    match Upload.next held.request accepted with
    | .done outcome => network.answerUpload held.job outcome
    | .send _ => network) { network with held := [] }

/-- How a client reads frames: one that is no message is noted. -/
def watchful : Rpc.Codec := { Rpc.Codec.control with policy := .fail }

/-- Why a payload is no message. -/
def complaint (payload : List UInt8) : Rpc.ReadError → String
  | .notJson => Json.Diagnosis.describe payload
  | .shape cause => cause.message

/-- Note a payload that a client dropped. Only programs keep a log. -/
def noteDropped (network : Network) (holder : Holder) (payload : List UInt8)
    (cause : Rpc.ReadError) : Network :=
  match holder with
  | .hand _ => network
  | .program name =>
    match network.programs.lookup name with
    | some { printed, task := some task, call } =>
      let (network, printed) := network.log task printed
        (CommandLine.droppedLine payload.length (complaint payload cause))
      network.setProgram name { printed, task := some task, call }
    | _ => network

/-- The next payload of a buffer, if it is complete. -/
def nextPayload (buffer : Rpc.Buffer) : List UInt8 :=
  match (buffer.takeLength watchful).toOption.bind Rpc.Buffer.takePayload with
  | some (payload, _) => payload
  | none => []

/-- A client takes one message, or sees the end of its link. -/
def readClient (network : Network) (holder : Holder) (key : Nat) (client : Rpc.Client) :
    Option Network :=
  let socket : Socket := ⟨key, .near⟩
  match network.end? socket with
  | none => none
  | some e =>
    if client.accepts then
      match Rpc.decode watchful e.buffer with
      | (.message message, buffer, _) =>
        some ((network.setBuffer socket buffer).setClient holder (client.receive message))
      | (.failed (.json cause), buffer, _) =>
        some ((network.setBuffer socket buffer).noteDropped holder (nextPayload e.buffer) cause)
      | (.failed cause, _, _) => some (network.setClient holder (client.fail cause))
      | (.more, _, _) =>
        if network.isConnected socket then none
        else
          match Rpc.decodeEnd watchful e.buffer with
          | (.failed cause, _, _) => some (network.setClient holder (client.fail cause))
          | _ => some (network.setClient holder client.ended)
    else if !client.owned && !client.reading && e.isOpen then some (network.close socket)
    else none

/-- One of the clients reads. -/
def readClients : Stage := fun network =>
  network.clients.findSome? fun (holder, key, client) => network.readClient holder key client

/-- Give up a client; its link stays open as long as it is read. -/
def releaseClient (network : Network) (holder : Holder) : Network :=
  match network.client? holder with
  | none => network
  | some (_, client) => network.setClient holder client.release

/-- A program that waited for an answer ends. -/
def concluded (network : Network) (task : CommandLine.Task) (printed : CommandLine.Printed)
    (outcome : Except Rpc.CallError Json) : Network × CommandLine.Printed :=
  match outcome with
  | .error error => (network, printed.fail (CommandLine.unstopped error))
  | .ok _ =>
    let (network, printed) := network.log task printed task.stoppingLine
    (network, printed.exit 0)

/-- A program whose call is completed ends, and its link with it. A program that
runs a node ends with the node. -/
def endProgram (network : Network) (name : String) (program : Program) : Option Network :=
  match program.printed.code, program.task, program.call with
  | none, some task, some id =>
    match network.client? (.program name) with
    | none => none
    | some (key, client) =>
      (client.outcome? id).map fun outcome =>
        let (network, printed) := network.concluded task program.printed outcome
        let closed := network.close ⟨key, .near⟩
        let clients := closed.clients.filter (·.fst ≠ Holder.program name)
        Network.setProgram { closed with clients } name { program with printed }
  | none, some task, none =>
    if network.running then none
    else
      let (network, printed) := network.log task program.printed CommandLine.stoppedLine
      some (network.setProgram name { program with printed := printed.exit 0 })
  | _, _, _ => none

/-- One of the programs ends. -/
def endPrograms : Stage := fun network =>
  network.programs.findSome? fun (name, program) => network.endProgram name program

/-- What may happen, in the order in which it is tried. -/
def stages : List Stage :=
  [deliver, readSessions, closeForgotten, hearWorkers, applyQueued, sendUpload, readClients,
   endPrograms, closeNode]

/-- Let things happen until nothing more does, at most as often as the fuel
allows. -/
def restWithin : Nat → Network → Network
  | 0, network => network
  | fuel + 1, network =>
    match stages.findSome? (· network) with
    | some next => restWithin fuel next
    | none => network

/-- How often something may happen until a network is at rest. -/
def restFuel : Nat := 100000

/-- Let things happen until nothing more does. -/
def rest (network : Network) : Network := restWithin restFuel network

end MediaNode.Simulation.Network
