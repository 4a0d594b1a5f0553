import MediaNode.Effect
import MediaNode.Session
import MediaNode.Stream.Config

/-!
# Worker handles

A handle is what the node keeps of a worker. The worker is asked to end at most
once in its life: over its link if somebody listens there, and by a signal if not.
From then on the handle waits for the process to end.
-/
namespace MediaNode.Worker

/-- How far a worker has come. -/
inductive Phase where
  /-- Launched, and not heard of yet. -/
  | starting
  | running
  /-- Asked to end. -/
  | stopRequested
deriving DecidableEq, Repr, Inhabited

/-- Why a worker is asked to end. -/
inductive StopReason where
  | stop
  /-- To be launched again. -/
  | restart
deriving DecidableEq, Repr, Inhabited

/-- The method that asks a worker to end. -/
def StopReason.method : StopReason → String
  | .stop => "stop"
  | .restart => "restart"

/-- What the node keeps of a worker. -/
structure Handle where
  id : String
  /-- Tells the successive workers of one stream apart. -/
  serial : Nat
  /-- Whether there is a process to send signals to. -/
  hasProcess : Bool := false
  /-- Whether the node still has its end of the link. -/
  linked : Bool := false
  /-- When the worker was last of use to somebody, in milliseconds. -/
  lastUpdate : Int
  phase : Phase := .starting
  /-- What the worker was launched for, and will be again after a restart. -/
  spec : Stream.Spec
  config : Stream.Config
  servedRoots : List Path := []
  /-- Requests to the worker that it has not answered. -/
  pending : Pending := []
  /-- Whether to launch again when the process has ended. -/
  restart : Bool := false
  /-- Whether the kill timer is still to be armed. -/
  armable : Bool := false
deriving BEq, Repr, Inhabited

namespace Handle

/-- The link to the worker. -/
def channel (handle : Handle) : Channel := .worker handle.id handle.serial

/-- Whether the worker was asked to end. -/
def isStopping (handle : Handle) : Bool := handle.phase = .stopRequested

/-- Note that the worker was of use. -/
def touch (handle : Handle) (clock : Int) : Handle := { handle with lastUpdate := clock }

/-- Note that the worker spoke. -/
def markRunning (handle : Handle) : Handle :=
  if handle.phase = .starting then { handle with phase := .running } else handle

/-- Ask over the link; nothing if it is gone or nobody listens. -/
def requestOverLink (outbox : Outbox) (handle : Handle) (reason : StopReason) :
    Outbox × Option (Rpc.Id × Rpc.Message) :=
  if handle.linked then outbox.request handle.channel reason.method none else (outbox, none)

/-- Ask the worker to end, unless that was done before: over its link, or by a
signal to its process. Either way the kill timer is armed. -/
def requestStop (outbox : Outbox) (handle : Handle) (reason : StopReason) :
    Outbox × Handle × List Effect :=
  if handle.isStopping then (outbox, handle, [])
  else
    let stopping := { handle with phase := .stopRequested, armable := false }
    let timer := if handle.armable then [.armKill handle.id handle.serial] else []
    match handle.requestOverLink outbox reason with
    | (outbox, some (id, message)) =>
      (outbox, { stopping with pending := (handle.pending.insert id reason.method).fst },
        .deliver handle.channel message :: timer)
    | (outbox, none) =>
      (outbox, stopping,
        (if handle.hasProcess then [.terminate handle.id handle.serial] else []) ++ timer)

end Handle
end MediaNode.Worker
