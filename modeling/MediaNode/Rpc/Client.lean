import MediaNode.Rpc.Failure

/-!
# Clients

A client calls the methods of a node over one connection. Every call has an id of
its own; the first response with that id completes it. Everything else that
arrives goes to an inbox in the order of arrival. The inbox holds a limited number
of messages: the next one makes the client stop reading until a message is taken.

A call is also completed when its caller gives up or when reading fails. The end of
the connection completes no call. Its caller learns how a call was completed only once
the request is written; a request that cannot be written has no other outcome than that.
-/
namespace MediaNode.Rpc

/-- What a response says about the call that it answers. -/
def Response.outcome (response : Response) : Except CallError Json :=
  match response.error, response.result with
  | some error, _ => .error (.rpc error)
  | none, some result => .ok result
  | none, none => .error .unexpectedResponse

/-- A call. -/
structure Call where
  id : Id
  /-- When the caller gives up, in milliseconds. There is no such time while the request is
  being written. -/
  deadline : Option Nat := none
  /-- How the call was completed. -/
  outcome : Option (Except CallError Json) := none
deriving Inhabited

namespace Call

/-- How long a caller waits, in milliseconds. -/
def patience : Nat := 30000

/-- Complete a call, unless it is completed. -/
def complete (call : Call) (outcome : Except CallError Json) : Call :=
  { call with outcome := call.outcome.or (some outcome) }

/-- The request of a call is written. Its caller waits from now on. -/
def sent (call : Call) (now : Nat) : Call := { call with deadline := some (now + patience) }

/-- The request of a call could not be written. This is its outcome, whatever arrived
meanwhile, and its caller waits no more. -/
def unsent (call : Call) (now : Nat) (cause : CodecError) : Call :=
  { call with deadline := some now, outcome := some (.error (.codec cause)) }

/-- Whether the request of a call is being written. -/
def isWriting (call : Call) : Bool := call.deadline.isNone

/-- What the caller learns: how the call was completed, once its request is written. -/
def result (call : Call) : Option (Except CallError Json) :=
  if call.isWriting then none else call.outcome

end Call

/-- The state of a client. -/
structure Client where
  /-- The number of the next call. -/
  next : Nat := 1
  /-- The ids whose responses are awaited. A caller that gave up leaves its id. -/
  pending : List Id := []
  calls : List Call := []
  /-- What arrived and was not taken. -/
  inbox : List Message := []
  /-- A message that the inbox had no room for. -/
  held : Option Message := none
  /-- Whether the connection is read. -/
  reading : Bool := true
  /-- Whether there is somebody who takes messages. -/
  owned : Bool := true
deriving Inhabited

namespace Client

/-- How many messages the inbox holds. -/
def inboxSize : Nat := 64

/-- Change the call with an id. -/
def change (client : Client) (id : Id) (f : Call → Call) : Client :=
  { client with calls := client.calls.map fun call => if call.id = id then f call else call }

/-- Complete a call, unless it is completed. -/
def complete (client : Client) (id : Id) (outcome : Except CallError Json) : Client :=
  client.change id (·.complete outcome)

/-- Draw the number of a call. -/
def number (client : Client) : Client × Id :=
  ({ client with next := client.next + 1 }, .number client.next)

/-- Await the response to a call. -/
def await (client : Client) (id : Id) : Client :=
  { client with pending := client.pending ++ [id], calls := client.calls ++ [{ id }] }

/-- Make a call: its id, and the request to send. -/
def call (client : Client) (method : String) (params : Option Json) : Client × Id × Message :=
  let (client, id) := client.number
  (client.await id, id, .request (.make method params id))

/-- The request of a call is written. -/
def sent (client : Client) (id : Id) (now : Nat) : Client := client.change id (·.sent now)

/-- The request of a call could not be written. Its id stays awaited. -/
def unsent (client : Client) (id : Id) (now : Nat) (cause : CodecError) : Client :=
  client.change id (·.unsent now cause)

/-- Whether the client takes another message from the connection. -/
def accepts (client : Client) : Bool := client.reading && client.held.isNone

/-- Put a message into the inbox. Without an owner this ends the reading. -/
def deposit (client : Client) (message : Message) : Client :=
  if !client.owned then { client with reading := false }
  else if client.inbox.length < inboxSize then { client with inbox := client.inbox ++ [message] }
  else { client with held := some message }

/-- Take a message from the connection. -/
def receive (client : Client) : Message → Client
  | .response response =>
    if client.pending.contains response.id then
      { client with pending := client.pending.filter (· ≠ response.id) }.complete response.id
        response.outcome
    else client
  | message => client.deposit message

/-- Reading failed: every awaited call is completed with the cause. -/
def fail (client : Client) (cause : CodecError) : Client :=
  let failed := client.pending.foldl
    (fun client id => client.complete id (.error (.io cause.message))) client
  { failed with pending := [], reading := false }

/-- The connection ended. -/
def ended (client : Client) : Client := { client with reading := false }

/-- The calls whose callers have waited long enough. -/
def due (client : Client) (now : Nat) : List Id :=
  (client.calls.filter fun call =>
    call.outcome.isNone && call.deadline.any (· ≤ now)).map Call.id

/-- The caller of a call gives up. -/
def giveUp (client : Client) (id : Id) : Client := client.complete id (.error .timeout)

/-- All callers that have waited long enough give up. -/
def expire (client : Client) (now : Nat) : Client := (client.due now).foldl giveUp client

/-- Whether some caller still waits for its call. Whoever takes messages needs the client for
itself, and has to wait until all callers are done with it. -/
def inUse (client : Client) : Bool := client.calls.any (·.result.isNone)

/-- Take the first message of the inbox, which makes room for the one held. -/
def take (client : Client) : Client × Option Message :=
  match client.inbox with
  | [] => (client, none)
  | message :: rest =>
    ({ client with inbox := rest ++ client.held.toList, held := none }, some message)

/-- Nobody takes messages any more. A message that is held then ends the reading. -/
def release (client : Client) : Client :=
  { client with owned := false, reading := client.reading && client.held.isNone, held := none }

/-- The call with an id. -/
def call? (client : Client) (id : Id) : Option Call :=
  client.calls.find? fun call => call.id = id

/-- What the caller of a call has learned. -/
def outcome? (client : Client) (id : Id) : Option (Except CallError Json) :=
  (client.call? id).bind Call.result

/-- When the next caller gives up. -/
def nextDeadline (client : Client) : Option Nat :=
  ((client.calls.filter (·.outcome.isNone)).filterMap Call.deadline).min?

end Client
end MediaNode.Rpc
