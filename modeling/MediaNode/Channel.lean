import MediaNode.Rpc.Message

/-!
# Channels

The node speaks to control sessions and to workers over channels. A channel is
named by who stands at its far end. It may be closed there without the node
having noticed; what is sent into a closed channel is lost.

Requests that the node itself makes take their ids from one counter, so that no
two of them share an id.
-/
namespace MediaNode

/-- The way to a receiver. -/
inductive Channel where
  | session (name : String)
  | worker (id : String) (serial : Nat)
deriving DecidableEq, Repr, Inhabited

/-- What the node needs to know to send: the next request id, and the channels that
nobody listens to any more. -/
structure Outbox where
  nextRequest : Nat := 1
  closed : List Channel := []
deriving DecidableEq, Repr, Inhabited

namespace Outbox

/-- Whether somebody listens to a channel. -/
def isOpen (outbox : Outbox) (channel : Channel) : Bool := !outbox.closed.contains channel

/-- Make a request. Its id is used up even when nobody listens; then there is no
request. -/
def request (outbox : Outbox) (channel : Channel) (method : String) (params : Option Json) :
    Outbox × Option (Rpc.Id × Rpc.Message) :=
  let id := Rpc.Id.number outbox.nextRequest
  let next := { outbox with nextRequest := outbox.nextRequest + 1 }
  if outbox.isOpen channel then (next, some (id, .request (.make method params id)))
  else (next, none)

/-- Open a channel for a new receiver. -/
def listen (outbox : Outbox) (channel : Channel) : Outbox :=
  { outbox with closed := outbox.closed.filter (· ≠ channel) }

/-- Close a channel at its far end. -/
def hangUp (outbox : Outbox) (channel : Channel) : Outbox :=
  { outbox with closed := channel :: outbox.closed.filter (· ≠ channel) }

end Outbox
end MediaNode
