import MediaNode.Fault
import MediaNode.Worker.Handle

/-!
# The registry of workers

There is at most one worker for a stream, so a handle is found by its id. Events
of workers also carry a serial number and count only for the worker that has it.
-/
namespace MediaNode.Worker

/-- The workers of a node, the oldest first. -/
structure Registry where
  handles : List Handle := []
deriving BEq, Repr, Inhabited

namespace Registry

/-- The worker of a stream. -/
def get? (registry : Registry) (id : String) : Option Handle :=
  registry.handles.find? (·.id = id)

/-- The worker of a stream, if it has this serial number. -/
def getSerial? (registry : Registry) (id : String) (serial : Nat) : Option Handle :=
  (registry.get? id).filter (·.serial = serial)

/-- Whether a stream has a worker. -/
def contains (registry : Registry) (id : String) : Bool := (registry.get? id).isSome

/-- Add a worker for a stream that has none. -/
def insert (registry : Registry) (handle : Handle) : Except Fault Registry :=
  if registry.contains handle.id then .error (.streamExists handle.id)
  else .ok ⟨registry.handles ++ [handle]⟩

/-- Put a handle in the place of the one with its id. -/
def replace (registry : Registry) (handle : Handle) : Registry :=
  ⟨registry.handles.map fun h => if h.id = handle.id then handle else h⟩

/-- Remove the worker of a stream, if it has this serial number; also its handle. -/
def remove (registry : Registry) (id : String) (serial : Nat) : Registry × Option Handle :=
  match registry.getSerial? id serial with
  | some handle => (⟨registry.handles.filter (·.id ≠ id)⟩, some handle)
  | none => (registry, none)

/-- The ids of all streams that have a worker. -/
def ids (registry : Registry) : List String := registry.handles.map Handle.id

/-- How many workers there are. -/
def size (registry : Registry) : Nat := registry.handles.length

end Registry
end MediaNode.Worker
