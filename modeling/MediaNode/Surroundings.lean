import MediaNode.FileTree
import MediaNode.Statistics

/-!
# Surroundings

What the node sees of its machine besides files: the time, the counters of the
kernel, and which programs can be run.
-/
namespace MediaNode

/-- What the node sees of its machine at one moment. -/
structure Surroundings where
  /-- A clock that never runs backwards, in milliseconds. -/
  clock : Int
  /-- The time in milliseconds since the epoch. -/
  now : Int
  /-- Whether a program can be run with its arguments, or why not. -/
  launch : FileTree → List String → Except String Unit
  /-- What the kernel reports. -/
  machine : Statistics.Report := {}
  /-- Total and free bytes of the disk. -/
  disk : Nat × Nat := (0, 0)

/-- Surroundings in which every program can be run. -/
instance : Inhabited Surroundings := ⟨{ clock := 0, now := 0, launch := fun _ _ => .ok () }⟩

end MediaNode
