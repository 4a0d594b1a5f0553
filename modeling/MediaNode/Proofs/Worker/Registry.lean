import Mathlib.Data.List.Nodup
import MediaNode.Worker.Registry

/-!
# What the registry of workers does to its view

The view of a registry is the partial map from ids to handles that `get?` reads.
It determines the registry's members once no two handles share an id; every
operation keeps ids distinct, and each changes the view at one id only.

Insertion refuses an id that is taken, so it never hides a handle. Replacement
keeps the ids and their order. Removal answers to a serial number and leaves the
registry alone when another worker holds the id.
-/
namespace MediaNode.Worker.Registry

/-- A handle that is found is registered, and under its own id. -/
theorem mem_of_get? {registry : Registry} {id : String} {handle : Handle}
    (found : registry.get? id = some handle) : handle ∈ registry.handles ∧ handle.id = id := by
  refine ⟨List.mem_of_find?_eq_some found, ?_⟩
  simpa using List.find?_some found

/-- With distinct ids every registered handle is the one found under its id. -/
theorem get?_of_mem {registry : Registry} {handle : Handle} (distinct : registry.ids.Nodup)
    (member : handle ∈ registry.handles) : registry.get? handle.id = some handle := by
  obtain ⟨found, search⟩ : ∃ found, registry.get? handle.id = some found :=
    Option.isSome_iff_exists.mp (List.find?_isSome.mpr ⟨handle, member, by simp⟩)
  obtain ⟨registered, same⟩ := mem_of_get? search
  rw [search, List.inj_on_of_nodup_map distinct member registered same.symm]

/-- With distinct ids, being found under an id is being registered with it. -/
theorem get?_eq_some_iff {registry : Registry} {id : String} {handle : Handle}
    (distinct : registry.ids.Nodup) :
    registry.get? id = some handle ↔ handle ∈ registry.handles ∧ handle.id = id := by
  constructor
  · exact mem_of_get?
  · rintro ⟨member, rfl⟩
    exact get?_of_mem distinct member

/-- Nothing is found under an id exactly when no handle has it. -/
theorem get?_eq_none_iff {registry : Registry} {id : String} :
    registry.get? id = none ↔ id ∉ registry.ids := by
  simp [get?, ids, List.find?_eq_none]

/-- An id is contained exactly when a handle has it. -/
theorem contains_iff {registry : Registry} {id : String} :
    registry.contains id = true ↔ id ∈ registry.ids := by
  rw [contains, ← Option.ne_none_iff_isSome, ne_eq, get?_eq_none_iff, not_not]

/-- It is free otherwise. -/
theorem contains_eq_false_iff {registry : Registry} {id : String} :
    registry.contains id = false ↔ id ∉ registry.ids := by
  rw [← contains_iff, Bool.not_eq_true]

/-- A serial number narrows what is found under an id. -/
theorem getSerial?_eq_some_iff {registry : Registry} {id : String} {serial : Nat}
    {handle : Handle} :
    registry.getSerial? id serial = some handle ↔
      registry.get? id = some handle ∧ handle.serial = serial := by
  simp [getSerial?, Option.filter_eq_some_iff]

/-- Insertion succeeds exactly for an id that is free, and then appends. -/
theorem insert_eq_ok_iff {registry after : Registry} {handle : Handle} :
    registry.insert handle = .ok after ↔
      handle.id ∉ registry.ids ∧ after = ⟨registry.handles ++ [handle]⟩ := by
  rw [← contains_iff, insert]
  cases taken : registry.contains handle.id <;> simp [eq_comm]

/-- A handle that was appended for a free id is the one found under it. -/
theorem get?_append_of_free {registry : Registry} {handle : Handle}
    (free : handle.id ∉ registry.ids) :
    (Registry.mk (registry.handles ++ [handle])).get? handle.id = some handle := by
  rw [← get?_eq_none_iff, get?] at free
  simp [get?, List.find?_append, free]

/-- Replacement keeps the ids and their order. -/
@[simp] theorem ids_replace (registry : Registry) (handle : Handle) :
    (registry.replace handle).ids = registry.ids := by
  simp only [ids, replace, List.map_map]
  apply List.map_congr_left
  intro other _
  by_cases same : other.id = handle.id <;> simp [same]

/-- Replacement shows under no other id. -/
theorem get?_replace_of_ne {registry : Registry} {handle : Handle} {id : String}
    (other : id ≠ handle.id) : (registry.replace handle).get? id = registry.get? id := by
  obtain ⟨handles⟩ := registry
  simp only [replace, get?]
  induction handles with
  | nil => rfl
  | cons first rest inductionHypothesis =>
    by_cases same : first.id = handle.id
    · have skipped : first.id ≠ id := fun equal => other (equal.symm.trans same)
      simp only [List.map_cons, if_pos same]
      rw [List.find?_cons_of_neg (by simpa using other.symm),
        List.find?_cons_of_neg (by simpa using skipped)]
      exact inductionHypothesis
    · simp only [List.map_cons, if_neg same]
      by_cases here : first.id = id
      · rw [List.find?_cons_of_pos (by simpa using here),
          List.find?_cons_of_pos (by simpa using here)]
      · rw [List.find?_cons_of_neg (by simpa using here),
          List.find?_cons_of_neg (by simpa using here)]
        exact inductionHypothesis

/-- Removal takes the worker with the id and the serial number, and nothing else. -/
theorem remove_of_getSerial? {registry : Registry} {id : String} {serial : Nat} {handle : Handle}
    (found : registry.getSerial? id serial = some handle) :
    registry.remove id serial = (⟨registry.handles.filter (·.id ≠ id)⟩, some handle) := by
  simp [remove, found]

/-- Removal of a worker that is not the registered one of its stream changes nothing. -/
theorem remove_of_getSerial?_none {registry : Registry} {id : String} {serial : Nat}
    (missing : registry.getSerial? id serial = none) :
    registry.remove id serial = (registry, none) := by
  simp [remove, missing]

/-- Who is registered: the id and the serial number of each worker. -/
def workers (registry : Registry) : List (String × Nat) :=
  registry.handles.map fun handle => (handle.id, handle.serial)

/-- The ids are those of the workers. -/
theorem map_fst_workers (registry : Registry) : registry.workers.map Prod.fst = registry.ids := by
  simp [workers, ids]

/-- A worker is registered exactly when it is found under its id and its serial number. -/
theorem mem_workers_iff {registry : Registry} {id : String} {serial : Nat}
    (distinct : registry.ids.Nodup) :
    (id, serial) ∈ registry.workers ↔ ∃ handle, registry.getSerial? id serial = some handle := by
  simp only [workers, List.mem_map, Prod.mk.injEq, getSerial?_eq_some_iff,
    get?_eq_some_iff distinct, and_assoc]

/-- A registered worker has a handle of its own, which is the one that is found. -/
theorem exists_of_mem_workers {registry : Registry} {id : String} {serial : Nat}
    (distinct : registry.ids.Nodup) (member : (id, serial) ∈ registry.workers) :
    ∃ handle ∈ registry.handles, handle.id = id ∧ handle.serial = serial ∧
      registry.getSerial? id serial = some handle := by
  obtain ⟨handle, found⟩ := (mem_workers_iff distinct).mp member
  obtain ⟨present, numbered⟩ := getSerial?_eq_some_iff.mp found
  obtain ⟨registered, named⟩ := mem_of_get? present
  exact ⟨handle, registered, named, numbered, found⟩

/-- The exit of a registered worker takes that worker off and leaves all others. -/
theorem workers_filter {registry : Registry} {id : String} {serial : Nat} {handle : Handle}
    (distinct : registry.ids.Nodup) (found : registry.getSerial? id serial = some handle) :
    (Registry.mk (registry.handles.filter (·.id ≠ id))).workers =
      registry.workers.erase (id, serial) := by
  have once : registry.workers.Nodup := by
    rw [← map_fst_workers] at distinct
    exact distinct.of_map
  rw [once.erase_eq_filter, workers, workers, List.filter_map]
  refine congrArg (List.map _) (List.filter_congr fun other member => ?_)
  obtain ⟨registered, numbered⟩ := getSerial?_eq_some_iff.mp found
  by_cases same : other.id = id
  · -- the one worker under this id is the one with this serial number
    have one : other = handle :=
      Option.some.inj ((get?_of_mem distinct member).symm.trans (same ▸ registered))
    have named : handle.id = id := one ▸ same
    simp [one, named, numbered]
  · simp [same]

end MediaNode.Worker.Registry
