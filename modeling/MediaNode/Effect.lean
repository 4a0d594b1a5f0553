import MediaNode.Command
import MediaNode.Url.Basic

/-!
# Effects

An effect is what the node does to the outside. Every operation of the node gives
the effects that it wants in order and leaves carrying them out to its
surroundings.
-/
namespace MediaNode

/-- Directories to make and to list, and the request that is answered with the
list. -/
structure DirectoryJob where
  requested : List (String × Path)
  channel : Channel
  id : Rpc.Id
deriving Repr, Inhabited

/-- A file to send to a server, and the request that is answered when it is
there. -/
structure UploadJob where
  file : Path
  target : Url
  channel : Channel
  id : Rpc.Id
deriving Repr, Inhabited

/-- Something that the node does to the outside. -/
inductive Effect where
  /-- Send a message. -/
  | deliver (channel : Channel) (message : Rpc.Message)
  /-- Run the program of a worker. -/
  | launch (id : String) (serial : Nat) (command : List String)
  /-- Ask the process of a worker to end by a signal. -/
  | terminate (id : String) (serial : Nat)
  /-- Kill the process of a worker unless it ends within the grace time. -/
  | armKill (id : String) (serial : Nat)
  /-- Come back when the time of a worker is over. -/
  | expireAfter (id : String) (serial seconds : Nat)
  /-- Come back to stop all workers. -/
  | stopWorkersAfter (milliseconds : Nat)
  /-- Close all listeners later. -/
  | closeAfter (milliseconds : Nat)
  /-- Remove every chunk below these directories. -/
  | removeChunks (directories : List Path)
  | prepare (job : DirectoryJob)
  | upload (job : UploadJob)
deriving Repr, Inhabited

namespace Effect

/-- The message that a channel gets by an effect. -/
def messageTo (channel : Channel) : Effect → Option Rpc.Message
  | .deliver c message => if c = channel then some message else none
  | _ => none

end Effect

/-- Send a message into a channel, if somebody listens. -/
def Outbox.send (outbox : Outbox) (channel : Channel) (message : Rpc.Message) : List Effect :=
  if outbox.isOpen channel then [.deliver channel message] else []

end MediaNode
