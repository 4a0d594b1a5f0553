import MediaNode.Node.Housekeeping

/-!
# Chores

The housekeeping of a node is a handful of chores. Each is done when the node
starts, and then again whenever its interval is over.
-/
namespace MediaNode

/-- Something that a node does from time to time. -/
inductive Chore where
  /-- Ask the sessions whether they are still there. -/
  | ping
  /-- Stop the channels that nobody asks for. -/
  | reap
  /-- Remove old chunks. -/
  | sweep
  /-- Tell the sessions how the machine is. -/
  | report
  /-- Look at the license. -/
  | license
deriving DecidableEq, Repr, Inhabited

namespace Chore

/-- All chores in the order in which they begin. -/
def all : List Chore := [.ping, .reap, .sweep, .report, .license]

/-- Milliseconds between two times at which a chore is done. -/
def interval (settings : Settings) : Chore → Nat
  | .ping => Node.pingInterval
  | .reap => Node.reapInterval settings
  | .sweep => Node.sweepInterval settings
  | .report => Node.statisticsInterval
  | .license => Node.licenseInterval

end Chore

/-- Do a chore. -/
def Node.doChore (node : Node) (around : Surroundings) (files : FileTree) (chore : Chore) : Turn :=
  match chore with
  | .ping =>
    let (node, effects) := node.ping around.now
    { node, files, effects }
  | .reap =>
    let (node, effects, _) := node.reap around.clock
    { node, files, effects }
  | .sweep => { node, files := (node.sweep around.now files).fst }
  | .report =>
    let (node, effects) := node.broadcastStatistics around
    { node, files, effects }
  | .license =>
    let (node, effects, _) := node.checkLicense around.now
    { node, files, effects }

end MediaNode
