import MediaNode.CommandLine.Program
import MediaNode.Node.Chores
import MediaNode.Rpc.Client
import MediaNode.Simulation.Collector
import MediaNode.Simulation.Machine

/-!
# A network

A network joins a node with those who speak to it: raw sockets, clients, programs
started at the command line, and collectors of uploads. Addresses are plain names.
Bytes written at one end of a link are at once readable at the other; a link that
is closed at one end cannot be written to from the other.
-/
namespace MediaNode.Simulation

/-- The texts of what can go wrong with a connection. -/
def refusedText : String := "Connection refused (os error 111)"

/-- The text of binding an address twice. -/
def boundText : String := "Address already in use (os error 98)"

/-- The text of writing to a closed link. -/
def brokenText : String := "Broken pipe (os error 32)"

/-- Read the address of a server. -/
def address (text : String) : Except String Peer :=
  match Peer.parse text, Text.splitLast ':' text.toList with
  | some peer, _ => .ok peer
  | none, none => .error "invalid socket address"
  | none, some (_, port) =>
    if (Text.unsigned? 16 port).isNone then .error "invalid port value"
    else .error "failed to lookup address information: Name or service not known"

/-- Who answers at an address. -/
inductive Server where
  | control
  | site (kind : SiteKind)
  /-- Connections wait until they are accepted. -/
  | listener
  | collector
deriving DecidableEq, Repr, Inhabited

/-- One end of a link: what arrived there, and whether it is open. -/
structure End where
  buffer : Rpc.Buffer := {}
  isOpen : Bool := true
deriving DecidableEq, Repr, Inhabited

/-- A side of a link: where it was made from, or where it was accepted. -/
inductive Side where
  | near
  | far
deriving DecidableEq, Repr, Inhabited

/-- The other side. -/
def Side.other : Side → Side
  | .near => .far
  | .far => .near

/-- A connection. -/
structure Link where
  key : Nat
  origin : Peer
  near : End := {}
  far : End := {}
deriving DecidableEq, Repr, Inhabited

/-- The end at a side. -/
def Link.at_ (link : Link) : Side → End
  | .near => link.near
  | .far => link.far

/-- Change the end at a side. -/
def Link.change (link : Link) (side : Side) (f : End → End) : Link :=
  match side with
  | .near => { link with near := f link.near }
  | .far => { link with far := f link.far }

/-- One end of one link. -/
structure Socket where
  link : Nat
  side : Side
deriving DecidableEq, Repr, Inhabited

/-- Who has a client. -/
inductive Holder where
  | hand (name : String)
  | program (name : String)
deriving DecidableEq, Repr, Inhabited

/-- A program. -/
structure Program where
  printed : CommandLine.Printed
  /-- What it does, unless it has ended at once. -/
  task : Option CommandLine.Task := none
  /-- The call that it waits for, unless it runs a node. -/
  call : Option Rpc.Id := none
deriving Inhabited

/-- An upload whose answer is held back. -/
structure Exchange where
  job : UploadJob
  request : Upload.Request
  /-- When it is given up. -/
  deadline : Nat
deriving Inhabited

/-- A node and those around it. -/
structure Network where
  machine : Machine
  /-- Whether the node runs. -/
  running : Bool := false
  /-- Why the node does not run, if it was to run and could not. -/
  fault : Option Fault := none
  format : CommandLine.LogFormat
  servers : List (Peer × Server) := []
  /-- Where the node takes connections. -/
  control : Option Peer := none
  /-- The next port for a server that leaves the choice open. -/
  freePort : Nat := 40001
  links : List Link := []
  /-- The links that wait to be accepted, with the address they were made to. -/
  backlog : List (Peer × Nat) := []
  /-- The links of sessions of the node. -/
  served : List Nat := []
  /-- Raw sockets, each with the last request read from it. -/
  sockets : List (String × Socket × Option Rpc.Id) := []
  clients : List (Holder × Nat × Rpc.Client) := []
  programs : List (String × Program) := []
  /-- Calls that were begun under a name and are not finished. -/
  begun : List (String × Holder × Rpc.Id) := []
  chores : List (Nat × Chore) := []
  held : List Exchange := []
  /-- The uploads that collectors got. -/
  collected : List Upload.Request := []

namespace Network

/-- A link by its key. -/
def link? (network : Network) (key : Nat) : Option Link := network.links.find? (·.key = key)

/-- An end of a link. -/
def end? (network : Network) (socket : Socket) : Option End :=
  (network.link? socket.link).map (·.at_ socket.side)

/-- The other end of a link. -/
def farEnd? (network : Network) (socket : Socket) : Option End :=
  network.end? { socket with side := socket.side.other }

/-- Whether the other end is open. -/
def isConnected (network : Network) (socket : Socket) : Bool :=
  (network.farEnd? socket).any End.isOpen

/-- Change an end of a link. -/
def changeEnd (network : Network) (socket : Socket) (f : End → End) : Network :=
  { network with
    links := network.links.map fun link =>
      if link.key = socket.link then link.change socket.side f else link }

/-- Close an end of a link. -/
def close (network : Network) (socket : Socket) : Network :=
  network.changeEnd socket fun e => { e with isOpen := false }

/-- Keep what is left in the buffer of an end. -/
def setBuffer (network : Network) (socket : Socket) (buffer : Rpc.Buffer) : Network :=
  network.changeEnd socket fun e => { e with buffer }

/-- Whether an end can be written to: it and the other one are open. -/
def isWritable (network : Network) (socket : Socket) : Bool :=
  (network.end? socket).any End.isOpen && network.isConnected socket

/-- Write bytes at an end; nothing happens unless it can be written to. -/
def write (network : Network) (socket : Socket) (bytes : List UInt8) : Network :=
  if network.isWritable socket then
    network.changeEnd { socket with side := socket.side.other } fun e =>
      { e with buffer := e.buffer.push bytes }
  else network

/-- Write a message at an end. -/
def writeMessage (network : Network) (socket : Socket) (message : Rpc.Message) :
    Network × Except Rpc.CodecError Unit :=
  match Rpc.encode .control message [] with
  | .error cause => (network, .error cause)
  | .ok bytes =>
    if network.isWritable socket then (network.write socket bytes, .ok ())
    else (network, .error (.io brokenText))

/-- Take an address for a server; port zero stands for the next free one. -/
def bind (network : Network) (text : String) (server : Server) : Except String (Network × Peer) := do
  let wanted ← address text
  let peer := if wanted.port = 0 then { wanted with port := network.freePort } else wanted
  if (network.servers.lookup peer).isSome then throw boundText
  let freePort := if wanted.port = 0 then network.freePort + 1 else network.freePort
  return ({ network with servers := network.servers ++ [(peer, server)], freePort }, peer)

/-- Give an address back. -/
def unbind (network : Network) (peer : Peer) : Network :=
  { network with servers := network.servers.filter (·.fst ≠ peer) }

/-- The name of the session of a link. -/
def sessionName (key : Nat) : String := Text.decimal key

/-- Connect to an address: the link, or why there is none. -/
def connect (network : Network) (remote origin : Peer) : Except String (Network × Nat) :=
  let key := network.links.length
  let linked := { network with links := network.links ++ [{ key, origin }] }
  match network.servers.lookup remote with
  | none => .error refusedText
  | some .control =>
    .ok ({ linked with
      served := network.served ++ [key]
      machine := { network.machine with
        node := network.machine.node.connect (sessionName key) origin } }, key)
  | some .listener => .ok ({ linked with backlog := network.backlog ++ [(remote, key)] }, key)
  | some _ => .ok (linked, key)

/-- Accept the first connection that waits at an address: the socket's link and where
the connection comes from. -/
def accept (network : Network) (remote : Peer) : Network × Option (Nat × Peer) :=
  match network.backlog.find? (·.fst = remote) with
  | none => (network, none)
  | some (_, key) =>
    let backlog := network.backlog.filter (·.snd ≠ key)
    ({ network with backlog }, (network.link? key).map fun link => (key, link.origin))

/-- Bind the listeners of a node. -/
def bindNode (network : Network) (settings : Settings) : Except String Network := do
  let (network, control) ← network.bind settings.host .control
  let (network, _) ← network.bind settings.httpHost (.site .hls)
  let (network, _) ← network.bind settings.vodsHost (.site .vod)
  let (network, _) ← network.bind settings.codsHost (.site .cod)
  return { network with control := some control }

/-- Do a chore of the node. -/
def doChore (network : Network) (chore : Chore) : Network :=
  let machine := network.machine
  { network with
    machine := machine.perform (machine.node.doChore machine.around machine.files chore) }

/-- Run a node, unless its listeners cannot be bound. -/
def startNode (network : Network) (node : Node) : Except String Network := do
  let bound ← network.bindNode node.settings
  let time := network.machine.time
  let started : Network :=
    { bound with
      running := true
      machine := { bound.machine with node }
      chores := Chore.all.map fun chore => (time + chore.interval node.settings, chore) }
  return Chore.all.foldl doChore started

/-- Stop the node: its listeners and its connections are closed. -/
def stopNode (network : Network) : Network :=
  let closed := network.served.foldl (fun network key => network.close ⟨key, .far⟩) network
  { closed with
    running := false
    served := []
    chores := []
    servers := network.servers.filter fun (_, server) =>
      server = .listener || server = .collector
    machine := network.served.foldl (fun machine key =>
      { machine with node := machine.node.disconnect (sessionName key) }) network.machine }

/-- A client by its holder. -/
def client? (network : Network) (holder : Holder) : Option (Nat × Rpc.Client) :=
  network.clients.lookup holder

/-- Change a client. -/
def setClient (network : Network) (holder : Holder) (client : Rpc.Client) : Network :=
  { network with
    clients := network.clients.map fun (h, key, c) =>
      if h = holder then (h, key, client) else (h, key, c) }

/-- Make a client on a link. -/
def addClient (network : Network) (holder : Holder) (key : Nat) : Network :=
  { network with clients := network.clients.filter (·.fst ≠ holder) ++ [(holder, key, {})] }

/-- Let a client make a call. -/
def call (network : Network) (holder : Holder) (method : String) (params : Option Json) :
    Network × Option Rpc.Id :=
  match network.client? holder with
  | none => (network, none)
  | some (key, client) =>
    let now := network.machine.time
    let (client, id, request) := client.call method params
    match network.writeMessage ⟨key, .near⟩ request with
    | (network, .ok ()) => (network.setClient holder (client.sent id now), some id)
    | (network, .error cause) => (network.setClient holder (client.unsent id now cause), some id)

/-- Write a line to the log of a program. -/
def log (network : Network) (task : CommandLine.Task) (printed : CommandLine.Printed)
    (line : Log.Line) : Network × CommandLine.Printed :=
  let machine := network.machine
  let (files, printed) := task.log network.format machine.files machine.now printed line
  ({ network with machine := { machine with files } }, printed)

/-- Change a program. -/
def setProgram (network : Network) (name : String) (program : Program) : Network :=
  { network with
    programs := network.programs.filter (·.fst ≠ name) ++ [(name, program)] }

/-- Let a program ask the running node to stop. -/
def askToStop (network : Network) (name : String) (origin : Peer) (task : CommandLine.Task) :
    Network :=
  let failed (text : String) : Network :=
    network.setProgram name { printed := ({} : CommandLine.Printed).fail (task.unreachable (.io text)) }
  match address task.settings.host with
  | .error text => failed text
  | .ok remote =>
    match network.connect remote origin with
    | .error text => failed text
    | .ok (network, key) =>
      let (network, call) := (network.addClient (.program name) key).call (.program name)
        CommandLine.stopMethod none
      network.setProgram name { printed := {}, task := some task, call }

/-- Let a program run a node. -/
def runNode (network : Network) (name : String) (task : CommandLine.Task) : Network :=
  let (network, printed) := network.log task {} task.startingLine
  match network.startNode (Node.ofSettings task.settings) with
  | .ok network => network.setProgram name { printed, task := some task }
  | .error text =>
    network.setProgram name { printed := printed.fail (.ofChain (Fault.io text).chain) }

/-- Start a program with its arguments. -/
def runProgram (network : Network) (name : String) (origin : Peer)
    (environment : CommandLine.Environment) (arguments : List String) : Network :=
  let machine := network.machine
  let (files, printed, task) :=
    CommandLine.start environment machine.files machine.now arguments
  let network : Network :=
    { network with
      machine := { machine with files }
      clients := network.clients.filter (·.fst ≠ .program name) }
  match task with
  | none => network.setProgram name { printed }
  | some task =>
    if task.stop then network.askToStop name origin task else network.runNode name task

end Network
end MediaNode.Simulation
