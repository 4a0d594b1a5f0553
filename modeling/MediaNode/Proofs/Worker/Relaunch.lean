import Mathlib.Data.List.Induction
import MediaNode.Proofs.Worker.Lifecycle

/-!
# Who is launched again

The restart flag of a handle is written by stops, restarts and expiries, and each of
them has its own condition for doing so. What the flag says in the end is a fact about
the history alone: a restart turned the worker to its end, and nothing stopped its
stream since. Nothing else that happens to an ending worker has a say in it.
-/
namespace MediaNode.Worker

/-- Whether an operation turns a worker to its end: it is registered before and after,
and asked to end only after. -/
def Turned (supervisor : Supervisor) (operation : Operation) (id : String) (serial : Nat) : Prop :=
  (∃ handle, supervisor.registry.getSerial? id serial = some handle ∧
    handle.isStopping = false) ∧
  ∃ handle, (supervisor.step operation).fst.registry.getSerial? id serial = some handle ∧
    handle.isStopping = true

/-- Whether a restart is what a history decided about a worker: the operation that turned
it to its end was a restart, and none after it stopped its stream. -/
def RestartStands (start : Supervisor) (operations : List Operation) (id : String)
    (serial : Nat) : Prop :=
  ∃ before outbox later, operations = before ++ .restart outbox id :: later ∧
    Turned (start.run before).fst (.restart outbox id) id serial ∧
    ∀ operation ∈ later, ¬ operation.stops id

/-- Being asked sets the restart flag by the reason, also when the worker was asked before. -/
theorem Handle.restart_ask (outbox : Outbox) (handle : Handle) (reason : StopReason) :
    (handle.ask outbox reason).snd.fst.restart = decide (reason = .restart) := by
  cases stopping : handle.isStopping with
  | true => rw [ask_of_stopping outbox reason stopping]
  | false =>
    obtain ⟨next, pending, asking, -, asked⟩ := ask_of_active outbox reason stopping
    rw [asked]

/-- A worker is to be launched again after a reaction if that was decided before and the
operation does not stop its stream, or if the operation restarts a worker that was not
asked to end before. -/
theorem Reaction.restart_iff {operation : Operation} {handle after : Handle}
    {effects : List Effect} (reaction : Reaction operation handle after effects)
    (sound : handle.Sound) :
    after.restart = true ↔
      (handle.restart = true ∧ ¬ operation.stops handle.id) ∨
        ((∃ outbox, operation = .restart outbox handle.id) ∧ handle.isStopping = false) := by
  -- an active worker is never due for a restart, so an expiry withdraws nothing
  have idle : handle.isStopping = false → handle.restart = false := fun active => by
    cases flag : handle.restart with
    | false => rfl
    | true => exact absurd (sound.restarting flag) (by simp [active])
  cases reaction with
  | asked outbox reason asks =>
    rw [Handle.restart_ask]
    cases operation <;> simp_all [Operation.reasonFor, Operation.stops]
    all_goals grind
  | spared quiet mild =>
    rw [mild.milder.2.1]
    cases operation <;> simp_all [Operation.reasonFor, Operation.stops]

namespace RestartStands

variable {start : Supervisor} {operations : List Operation} {operation : Operation}
  {trace : List Effect} {id : String} {serial : Nat}

/-- One more operation lets a restart stand unless it stops the stream, and makes one
stand if it is the restart that turns the worker. -/
theorem snoc_iff :
    RestartStands start (operations ++ [operation]) id serial ↔
      (RestartStands start operations id serial ∧ ¬ operation.stops id) ∨
        (∃ outbox, operation = .restart outbox id) ∧
          Turned (start.run operations).fst operation id serial := by
  constructor
  · rintro ⟨before, outbox, later, split, turned, calm⟩
    rcases List.eq_nil_or_concat later with rfl | ⟨earlier, last, rfl⟩
    · obtain ⟨rfl, same⟩ := List.append_inj' split rfl
      obtain rfl : operation = .restart outbox id := by simpa using same
      exact .inr ⟨⟨outbox, rfl⟩, turned⟩
    · rw [List.concat_eq_append] at split calm
      rw [← List.cons_append, ← List.append_assoc] at split
      obtain ⟨rfl, same⟩ := List.append_inj' split rfl
      obtain rfl : operation = last := by simpa using same
      refine .inl ⟨⟨before, outbox, earlier, rfl, turned, fun other member => ?_⟩, ?_⟩
      · exact calm other (List.mem_append_left _ member)
      · exact calm operation (List.mem_append_right _ (List.mem_singleton_self _))
  · rintro (⟨⟨before, outbox, later, rfl, turned, calm⟩, spares⟩ | ⟨⟨outbox, rfl⟩, turned⟩)
    · refine ⟨before, outbox, later ++ [operation], by simp, turned, fun other member => ?_⟩
      rcases List.mem_append.mp member with earlier | isLast
      · exact calm other earlier
      · rw [List.mem_singleton.mp isLast]
        exact spares
    · exact ⟨operations, outbox, [], rfl, turned, by simp⟩

/-- A worker whose restart stands is on its way to its end. -/
theorem ending (life : Lifecycle start trace) (stands : RestartStands start operations id serial) :
    Ending (start.run operations).fst serial := by
  obtain ⟨before, outbox, later, rfl, ⟨-, handle, found, stopping⟩, -⟩ := stands
  have first := life.run before
  have second := first.step (Supervisor.step_outcome first.distinct (.restart outbox id))
  obtain ⟨registered, rfl⟩ := Registry.getSerial?_eq_some_iff.mp found
  have ending := Ending.of_stopping second (Registry.mem_of_get? registered).1 stopping
  rw [Supervisor.run_append, Supervisor.run_cons]
  exact ending.run second later

/-- Operations that do not stop the stream change nothing about the restart of a worker
that is on its way to its end. -/
theorem append_iff (life : Lifecycle start trace)
    (ending : Ending (start.run operations).fst serial) {later : List Operation}
    (calm : ∀ operation ∈ later, ¬ operation.stops id) :
    RestartStands start (operations ++ later) id serial ↔
      RestartStands start operations id serial := by
  induction later using List.reverseRecOn with
  | nil => rw [List.append_nil]
  | append_singleton earlier last inductionHypothesis =>
    have calmEarlier : ∀ operation ∈ earlier, ¬ operation.stops id := fun operation member =>
      calm operation (List.mem_append_left _ member)
    have calmLast : ¬ last.stops id :=
      calm last (List.mem_append_right _ (List.mem_singleton_self last))
    have notTurned : ¬ Turned (start.run (operations ++ earlier)).fst last id serial := by
      rintro ⟨⟨handle, found, active⟩, -⟩
      obtain ⟨registered, numbered⟩ := Registry.getSerial?_eq_some_iff.mp found
      rw [Supervisor.run_append] at registered
      have kept := (ending.run (life.run operations) earlier).2 handle
        (Registry.mem_of_get? registered).1 numbered
      exact absurd kept (by simp [active])
    rw [← List.append_assoc, snoc_iff, inductionHypothesis calmEarlier]
    simp [calmLast, notTurned]

end RestartStands

/-- For a worker that is registered before and after an operation, turning it to its end is
a fact about its two handles. -/
theorem turned_iff {supervisor : Supervisor} {operation : Operation} {handle after : Handle}
    (distinct : supervisor.registry.ids.Nodup)
    (stillDistinct : (supervisor.step operation).fst.registry.ids.Nodup)
    (registered : handle ∈ supervisor.registry.handles)
    (stillRegistered : after ∈ (supervisor.step operation).fst.registry.handles)
    (same : handle.SameWorker after) :
    Turned supervisor operation handle.id handle.serial ↔
      handle.isStopping = false ∧ after.isStopping = true := by
  have found : supervisor.registry.getSerial? handle.id handle.serial = some handle :=
    Registry.getSerial?_eq_some_iff.mpr ⟨Registry.get?_of_mem distinct registered, rfl⟩
  have stillFound : (supervisor.step operation).fst.registry.getSerial? handle.id handle.serial =
      some after := by
    rw [← same.id, ← same.serial]
    exact Registry.getSerial?_eq_some_iff.mpr
      ⟨Registry.get?_of_mem stillDistinct stillRegistered, rfl⟩
  simp [Turned, found, stillFound]

/-- After one more operation, the restart flags still say what was decided, if what was
decided so far concerns workers that are on their way to their end. A new worker has a
serial number that no decision was about. -/
theorem restart_iff_step {supervisor : Supervisor} {trace : List Effect} {operation : Operation}
    {decided : String → Nat → Prop} (life : Lifecycle supervisor trace)
    (about : ∀ id serial, decided id serial → Ending supervisor serial)
    (flags : ∀ handle ∈ supervisor.registry.handles,
      (handle.restart = true ↔ decided handle.id handle.serial)) :
    ∀ handle ∈ (supervisor.step operation).fst.registry.handles,
      (handle.restart = true ↔
        (decided handle.id handle.serial ∧ ¬ operation.stops handle.id) ∨
          (∃ outbox, operation = .restart outbox handle.id) ∧
            Turned supervisor operation handle.id handle.serial) := by
  intro handle member
  have outcome := Supervisor.step_outcome life.distinct operation
  have after := life.step outcome
  have turned : ∀ other ∈ supervisor.registry.handles, other.SameWorker handle →
      (Turned supervisor operation other.id other.serial ↔
        other.isStopping = false ∧ handle.isStopping = true) := fun other registered =>
    turned_iff life.distinct after.distinct registered member
  generalize (supervisor.step operation).fst = next,
    (supervisor.step operation).snd = effects at outcome after member
  cases outcome with
  | launched created accepted valid derived built free commanded =>
    have others : ∀ id outbox, operation ≠ .restart outbox id := by simp [created]
    have spares : ¬ operation.stops handle.id := by simp [created, Operation.stops]
    rcases List.mem_append.mp member with old | isNew
    · simp [flags handle old, others, spares]
    · obtain rfl := List.mem_singleton.mp isNew
      have unknown : ∀ id, ¬ decided id supervisor.nextSerial := fun id known =>
        Nat.lt_irrefl supervisor.nextSerial (about id supervisor.nextSerial known).1
      simp [others, unknown, Supervisor.newHandle]
  | removed ended found =>
    have others : ∀ id outbox, operation ≠ .restart outbox id := by simp [ended]
    have spares : ¬ operation.stops handle.id := by simp [ended, Operation.stops]
    simp [flags handle (List.mem_of_mem_filter member), others, spares]
  | reacted reactions =>
    obtain ⟨before, registered, reaction⟩ :=
      reactions.stories life.sound life.serials handle member
    have same := reaction.sameWorker
    have flag := reaction.restart_iff (life.sound before registered)
    have ends : handle.restart = true → handle.isStopping = true :=
      (after.sound handle member).restarting
    rw [same.id, same.serial, turned before registered same, ← flags before registered, flag]
    constructor
    · rintro (⟨stood, spares⟩ | ⟨restarts, active⟩)
      · exact .inl ⟨stood, spares⟩
      · exact .inr ⟨restarts, active, ends (flag.mpr (.inr ⟨restarts, active⟩))⟩
    · rintro (⟨stood, spares⟩ | ⟨restarts, active, -⟩)
      · exact .inl ⟨stood, spares⟩
      · exact .inr ⟨restarts, active⟩

/-- In every run from the start, the restart flags of the registered workers say exactly
what the history decided about them. -/
theorem restart_iff_stands (settings : Settings) (operations : List Operation) :
    ∀ handle ∈ ((Supervisor.ofSettings settings).run operations).fst.registry.handles,
      (handle.restart = true ↔
        RestartStands (.ofSettings settings) operations handle.id handle.serial) := by
  have life := Lifecycle.initial settings
  induction operations using List.reverseRecOn with
  | nil => simp [Supervisor.ofSettings]
  | append_singleton operations operation inductionHypothesis =>
    simp only [Supervisor.run_append, Supervisor.run_cons, Supervisor.run_nil,
      RestartStands.snoc_iff]
    exact restart_iff_step (life.run operations) (fun _ _ stands => stands.ending life)
      inductionHypothesis

end MediaNode.Worker
