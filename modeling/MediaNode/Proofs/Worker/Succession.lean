import MediaNode.Proofs.Worker.Lifecycle

/-!
# How workers succeed one another

A worker comes by a start alone, with the next serial number, and goes by its own exit
alone. `turnover` says so of one operation. So a worker that nobody takes off stays, and
one that has gone never comes back, whatever becomes of its stream: serial numbers are not
used twice.

All this needs only that no two handles share an id, which every operation keeps.
-/
namespace MediaNode.Worker

/-- Reactions leave all workers where they are. -/
theorem Reactions.workers {operation : Operation} {handles afters : List Handle}
    {effects : List Effect} (reactions : Reactions operation handles afters effects) :
    (Registry.mk afters).workers = (Registry.mk handles).workers := by
  obtain ⟨sameIds, sameSerials⟩ := reactions.identities
  simp only [Registry.workers]
  rw [← List.zip_map', sameIds, sameSerials, List.zip_map']

namespace Supervisor

/-- What an operation does to who is registered. -/
inductive Turnover (supervisor : Supervisor) (operation : Operation) (after : Supervisor) :
    Prop where
  /-- A start brought in the worker of a stream that had none. -/
  | came {around : Surroundings} {files : FileTree} {spec : Stream.Spec} {id : String}
      (created : operation = .create around files spec) (named : spec.id? = some id)
      (free : id ∉ supervisor.registry.ids)
      (workers : after.registry.workers =
        supervisor.registry.workers ++ [(id, supervisor.nextSerial)])
      (serials : after.nextSerial = supervisor.nextSerial + 1)
  /-- An exit took its own worker off. -/
  | went {id : String} {serial : Nat} (ended : operation = .exited id serial)
      (member : (id, serial) ∈ supervisor.registry.workers)
      (workers : after.registry.workers = supervisor.registry.workers.erase (id, serial))
      (serials : after.nextSerial = supervisor.nextSerial)
  /-- Nobody came and nobody went; an exit was not that of a registered worker. -/
  | stayed (workers : after.registry.workers = supervisor.registry.workers)
      (serials : after.nextSerial = supervisor.nextSerial)
      (lasting : ∀ id serial, operation = .exited id serial →
        (id, serial) ∉ supervisor.registry.workers)

variable {supervisor after : Supervisor} {operation : Operation} {id : String} {serial : Nat}

/-- Every operation does one of these. -/
theorem turnover (distinct : supervisor.registry.ids.Nodup) (operation : Operation) :
    supervisor.Turnover operation (supervisor.step operation).fst := by
  by_cases exit : ∃ id serial, operation = .exited id serial ∧
      (id, serial) ∈ supervisor.registry.workers
  · obtain ⟨id, serial, rfl, member⟩ := exit
    obtain ⟨handle, found⟩ := (Registry.mem_workers_iff distinct).mp member
    have left : (supervisor.step (.exited id serial)).fst =
        supervisor.withRegistry ⟨supervisor.registry.handles.filter (·.id ≠ id)⟩ := by
      simp only [step, exited, Registry.remove_of_getSerial? found]
    exact .went rfl member (left ▸ Registry.workers_filter distinct found) (left ▸ rfl)
  · have lasting : ∀ id serial, operation = .exited id serial →
        (id, serial) ∉ supervisor.registry.workers := fun id serial ended member =>
      exit ⟨id, serial, ended, member⟩
    -- the outcome of an operation says of a removal that there was one, not that there had to
    -- be one, so the exits of registered workers were taken first
    have outcome := step_outcome distinct operation
    generalize (supervisor.step operation).fst = after,
      (supervisor.step operation).snd = effects at outcome
    cases outcome with
    | launched created accepted valid derived built free commanded =>
      have appended : ∀ handle : Handle, (Registry.mk (supervisor.registry.handles ++
          [handle])).workers = supervisor.registry.workers ++ [(handle.id, handle.serial)] := by
        simp [Registry.workers]
      exact .came created (Stream.Identity.id?_of_derive derived) free (appended _) rfl
    | removed ended found =>
      exact absurd ((Registry.mem_workers_iff distinct).mpr ⟨_, found⟩) (lasting _ _ ended)
    | reacted reactions => exact .stayed reactions.workers rfl lasting

namespace Turnover

/-- Ids stay distinct: a worker comes for a free one. -/
theorem distinct (turnover : supervisor.Turnover operation after)
    (distinct : supervisor.registry.ids.Nodup) : after.registry.ids.Nodup := by
  rw [← Registry.map_fst_workers] at distinct ⊢
  cases turnover with
  | came created named free workers serials =>
    rw [← Registry.map_fst_workers] at free
    rw [workers, List.map_append, List.map_singleton]
    refine List.nodup_append.mpr ⟨distinct, List.nodup_singleton _, ?_⟩
    intro one member other isNew same
    rw [same, List.mem_singleton.mp isNew] at member
    exact free member
  | went ended member workers serials =>
    rw [workers]
    exact distinct.sublist (List.erase_sublist.map _)
  | stayed workers serials lasting => rwa [workers]

/-- A worker stays unless its own process ends. -/
theorem keeps (turnover : supervisor.Turnover operation after)
    (member : (id, serial) ∈ supervisor.registry.workers)
    (lasting : operation ≠ .exited id serial) : (id, serial) ∈ after.registry.workers := by
  cases turnover with
  | came created named free workers serials =>
    rw [workers]
    exact List.mem_append_left _ member
  | @went other number ended registered workers serials =>
    have different : (id, serial) ≠ (other, number) := by
      rintro same
      cases same
      exact lasting ended
    rw [workers]
    exact (List.mem_erase_of_ne different).mpr member
  | stayed workers serials other => rwa [workers]

end Turnover

/-- A worker stays through every run in which its process does not end. -/
theorem run_keeps (distinct : supervisor.registry.ids.Nodup)
    (member : (id, serial) ∈ supervisor.registry.workers) {operations : List Operation}
    (lasting : .exited id serial ∉ operations) :
    (supervisor.run operations).fst.registry.ids.Nodup ∧
      (id, serial) ∈ (supervisor.run operations).fst.registry.workers := by
  induction operations generalizing supervisor with
  | nil => exact ⟨distinct, member⟩
  | cons operation rest inductionHypothesis =>
    have turnover := turnover distinct operation
    have other : operation ≠ .exited id serial := fun same =>
      lasting (same ▸ List.mem_cons_self)
    exact inductionHypothesis (turnover.distinct distinct) (turnover.keeps member other)
      fun later => lasting (List.mem_cons_of_mem operation later)

/-- Only stopping all workers ends the acceptance of new ones. -/
theorem accepting_run (distinct : supervisor.registry.ids.Nodup) {operations : List Operation}
    (mild : ∀ operation ∈ operations, operation.closes = false) :
    (supervisor.run operations).fst.accepting = supervisor.accepting := by
  induction operations generalizing supervisor with
  | nil => rfl
  | cons operation rest inductionHypothesis =>
    have kept : (supervisor.step operation).fst.accepting = supervisor.accepting := by
      have outcome := step_outcome distinct operation
      generalize (supervisor.step operation).fst = after,
        (supervisor.step operation).snd = effects at outcome
      cases outcome with
      | launched => rfl
      | removed => rfl
      | reacted => simp [mild operation List.mem_cons_self]
    rw [run_cons, ← kept]
    exact inductionHypothesis ((turnover distinct operation).distinct distinct) fun other member =>
      mild other (List.mem_cons_of_mem operation member)

/-- A worker that was launched and is not registered any more. -/
structure Gone (supervisor : Supervisor) (serial : Nat) : Prop where
  below : serial < supervisor.nextSerial
  absent : ∀ id, (id, serial) ∉ supervisor.registry.workers

namespace Gone

/-- No operation brings a worker back. -/
theorem step (gone : supervisor.Gone serial) (turnover : supervisor.Turnover operation after) :
    after.Gone serial := by
  obtain ⟨below, absent⟩ := gone
  cases turnover with
  | came created named free workers serials =>
    refine ⟨by omega, fun id member => ?_⟩
    rw [workers] at member
    rcases List.mem_append.mp member with old | isNew
    · exact absent id old
    · obtain ⟨-, rfl⟩ := Prod.mk.inj (List.mem_singleton.mp isNew)
      exact Nat.lt_irrefl _ below
  | went ended registered workers serials =>
    refine ⟨by omega, fun id member => absent id ?_⟩
    exact List.mem_of_mem_erase (workers ▸ member)
  | stayed workers serials lasting =>
    exact ⟨by omega, fun id member => absent id (workers ▸ member)⟩

/-- Hence no run does. -/
theorem run (gone : supervisor.Gone serial) (distinct : supervisor.registry.ids.Nodup)
    (operations : List Operation) : (supervisor.run operations).fst.Gone serial := by
  induction operations generalizing supervisor with
  | nil => exact gone
  | cons operation rest inductionHypothesis =>
    have turnover := turnover distinct operation
    exact inductionHypothesis (gone.step turnover) (turnover.distinct distinct)

end Gone
end Supervisor
end MediaNode.Worker
