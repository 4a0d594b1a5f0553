import MediaNode.Channel
import MediaNode.Path
import MediaNode.Stream.Spec

/-!
# Commands

Everything that reaches the node from elsewhere than a control session comes as a
command: what workers say and do, timers, files that were asked for, and the end
of work on directories. Commands are applied one at a time in the order in which
they were queued.
-/
namespace MediaNode

/-- The directories that preparation made ready. -/
structure PreparedRoots where
  hls : Option Path := none
  vods : Option Path := none
  cods : Option Path := none
  /-- The directories that old chunks are removed from. -/
  monitored : List Path := []
deriving DecidableEq, Repr, Inhabited

/-- Something for the node to do. -/
inductive Command where
  /-- A file was asked for that this stream would make. -/
  | startStream (spec : Stream.Spec)
  /-- A file of this stream was asked for. -/
  | touchStream (id : String)
  | workerMessage (id : String) (serial : Nat) (message : Rpc.Message)
  | workerLinkClosed (id : String) (serial : Nat)
  | workerExited (id : String) (serial : Nat) (code signal : Option Int)
  /-- The time that the stream may run is over. -/
  | expireStream (id : String) (serial : Nat)
  /-- The delay of a shutdown is over. -/
  | stopWorkers
  /-- Directories are ready: use them, then answer on the channel. -/
  | preparedDirectories (roots : PreparedRoots) (channel : Channel) (response : Rpc.Response)
deriving Repr, Inhabited

end MediaNode
