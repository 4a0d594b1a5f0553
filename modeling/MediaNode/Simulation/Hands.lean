import MediaNode.Simulation.Waiting

/-!
# What is done by hand

A test opens raw sockets and clients under names of its own, writes and reads, and
waits for what it has read. Waiting for something lets time pass.
-/
namespace MediaNode.Simulation.Network

/-- What reading a frame gave. -/
inductive Heard where
  | message (message : Rpc.Message)
  | closed
  | timeout
deriving Inhabited

/-- The method of a message that was read. -/
def Heard.method : Heard → String
  | .message body => body.method.getD ""
  | _ => ""

/-- Name one end of a link. -/
def nameSocket (network : Network) (name : String) (socket : Socket) : Network :=
  { network with
    sockets := network.sockets.filter (·.fst ≠ name) ++ [(name, socket, none)] }

/-- A raw socket by its name. -/
def socket? (network : Network) (name : String) : Option Socket :=
  (network.sockets.lookup name).map Prod.fst

/-- Open a raw socket; whether somebody answered. -/
def openSocket (network : Network) (name : String) (remote origin : Peer) : Network × Bool :=
  match network.connect remote origin with
  | .error _ => (network, false)
  | .ok (network, key) => ((network.nameSocket name ⟨key, .near⟩).rest, true)

/-- Accept a connection as a raw socket: where it comes from. -/
def acceptSocket (network : Network) (name : String) (remote : Peer) : Network × Option Peer :=
  match network.accept remote with
  | (network, none) => (network, none)
  | (network, some (key, origin)) => (network.nameSocket name ⟨key, .far⟩, some origin)

/-- Write bytes to a raw socket; whether they were written. -/
def send (network : Network) (socket : Socket) (bytes : List UInt8) : Network × Bool :=
  ((network.write socket bytes).rest, network.isWritable socket)

/-- Read one message of a raw socket, if it is there. -/
def hear (network : Network) (socket : Socket) : Option (Network × Heard) :=
  match (network.end? socket).map fun e => Rpc.decode .control e.buffer with
  | none => some (network, .closed)
  | some (.message message, buffer, _) =>
    some (network.setBuffer socket buffer, .message message)
  | some (.failed _, _, _) => some (network, .closed)
  | some (.more, _, _) => if network.isConnected socket then none else some (network, .closed)

/-- Wait for one message of a raw socket. -/
def receive (network : Network) (socket : Socket) (wait : Nat) : Network × Heard :=
  let network := network.await wait fun network => (network.hear socket).isSome
  (network.hear socket).getD (network, .timeout)

/-- Wait for several messages of a raw socket. -/
def receiveMany (network : Network) (socket : Socket) (wait : Nat) : Nat → Network × List Heard
  | 0 => (network, [])
  | n + 1 =>
    let (network, first) := network.receive socket wait
    let (network, others) := network.receiveMany socket wait n
    (network, first :: others)

/-- Remember the last request among what a raw socket read. -/
def remember (network : Network) (name : String) (heard : List Heard) : Network :=
  let ids := heard.filterMap fun
    | .message (.request request) => request.id
    | _ => none
  match ids.getLast? with
  | none => network
  | some id =>
    { network with
      sockets := network.sockets.map fun (n, socket, old) =>
        if n = name then (n, socket, some id) else (n, socket, old) }

/-- Wait for several messages of a named socket; they are given in the order of their
methods. -/
def listen (network : Network) (name : String) (socket : Socket) (wait n : Nat) :
    Network × List Heard :=
  let (network, heard) := network.receiveMany socket wait n
  (network.remember name heard,
    heard.mergeSort fun a b => decide (a.method ≤ b.method))

/-- Respond to the last request that a named socket read. -/
def answerLast (network : Network) (name : String) (socket : Socket)
    (respond : Rpc.Id → Rpc.Response) : Network × Bool :=
  match (network.sockets.lookup name).bind Prod.snd with
  | none => (network, false)
  | some id =>
    let (network, written) := network.writeMessage socket (.response (respond id))
    (network.rest, written.toOption.isSome)

/-- Give up a socket or a client. -/
def drop (network : Network) (name : String) : Network :=
  let network := match network.socket? name with
    | some socket => network.close socket
    | none => network
  ({ network with sockets := network.sockets.filter (·.fst ≠ name) }.releaseClient
    (.hand name)).rest

/-- Give an address back. Connections that nobody accepted are closed. -/
def unlisten (network : Network) (remote : Peer) : Network :=
  let (lost, backlog) := network.backlog.partition (·.fst = remote)
  let unbound : Network := { network.unbind remote with backlog }
  (lost.foldl (fun network (_, key) => network.close ⟨key, .far⟩) unbound).rest

/-- Connect a client, or why it cannot be connected. -/
def openClient (network : Network) (name : String) (remote : String) (origin : Peer) :
    Network × Except String Unit :=
  match address remote >>= fun peer => network.connect peer origin with
  | .error text => (network, .error text)
  | .ok (network, key) => ((network.addClient (.hand name) key).rest, .ok ())

/-- Let a client send a message of its own. -/
def clientSend (network : Network) (key : Nat) (message : Rpc.Message) :
    Network × Except Rpc.CodecError Unit :=
  let (network, written) := network.writeMessage ⟨key, .near⟩ message
  (network.rest, written)

/-- Whether a call of a client was begun and is not finished. Nobody may wait for its messages
as long as that. -/
def isInUse (network : Network) (holder : Holder) : Bool :=
  network.begun.any fun (_, user, _) => user = holder

/-- Wait for a message in the inbox of a client. -/
def takeMessage (network : Network) (holder : Holder) : Network × Heard :=
  let network := network.await usualWait fun network =>
    (network.client? holder).any fun (_, client) => !client.inbox.isEmpty || !client.reading
  match network.client? holder with
  | none => (network, .closed)
  | some (_, client) =>
    match client.take with
    | (client, some message) => ((network.setClient holder client).rest, .message message)
    | (_, none) => (network, if client.reading then .timeout else .closed)

/-- How a call was completed, if it was. -/
def outcome? (network : Network) (holder : Holder) (id : Rpc.Id) :
    Option (Except Rpc.CallError Json) :=
  (network.client? holder).bind fun (_, client) => client.outcome? id

/-- Wait until a call is completed. -/
def finishCall (network : Network) (holder : Holder) (id : Rpc.Id) :
    Network × Except Rpc.CallError Json :=
  let network := network.await Rpc.Call.patience fun network =>
    (network.outcome? holder id).isSome
  (network, (network.outcome? holder id).getD (.error .connectionClosed))

/-- Finish a call that was begun under a name. -/
def finishBegun (network : Network) (name : String) (holder : Holder) (id : Rpc.Id) :
    Network × Except Rpc.CallError Json :=
  let (network, outcome) := network.finishCall holder id
  ({ network with begun := network.begun.filter (·.fst ≠ name) }, outcome)

/-- What a program has printed so far. -/
def printed? (network : Network) (name : String) : Option CommandLine.Printed :=
  (network.programs.lookup name).map Program.printed

/-- Wait until a program has ended. -/
def finishProgram (network : Network) (name : String) : Network × CommandLine.Printed :=
  let network := network.await Rpc.Call.patience fun network =>
    (network.printed? name).any fun printed => printed.code.isSome
  (network, (network.printed? name).getD {})

/-- What a test sees of a node: the questions to clients that are not answered, the
sessions, how many of them are verified, and the workers. -/
structure Summary where
  pending : Nat
  sessions : Nat
  verified : Nat
  workers : List String
deriving DecidableEq, Repr, Inhabited

/-- What a test sees of the node. -/
def summary (network : Network) : Summary :=
  let node := network.machine.node
  { pending := node.sessions.foldl (fun total (_, session) => total + session.pending.length) 0
    sessions := node.sessions.length
    verified := (node.sessions.filter (·.snd.verified)).length
    workers := (node.supervisor.registry.handles.map Worker.Handle.id).mergeSort
      fun a b => decide (a ≤ b) }

/-- Wait until a test sees what it expects. -/
def settle (network : Network) (expected : Summary → Bool) : Network :=
  network.await usualWait fun network => expected network.summary

/-- Milliseconds that a test waits for the end of the node. -/
def shutdownWait : Nat := 10000

/-- Wait until the node has stopped; whether it has. -/
def awaitStop (network : Network) : Network × Bool :=
  let network := network.await shutdownWait fun network => !network.running
  (network, !network.running)

/-- Ask a site for a file. -/
def request (network : Network) (kind : SiteKind) (method target : String) :
    Network × Site.Response :=
  let (machine, response) := network.machine.answerSite kind method target
  ({ network with machine }.rest, response)

/-- Take the uploads that collectors got; waits until there are enough. -/
def takeUploads (network : Network) (n : Nat) : Network × List Upload.Request :=
  let network := network.await usualWait fun network => n ≤ network.collected.length
  ({ network with collected := [] }, network.collected)

end MediaNode.Simulation.Network
