import MediaNode.Proofs.Worker.Closing
import MediaNode.Proofs.Worker.Creation

/-!
# Launching a stream again

A handle keeps the spec that its worker was launched for, and a restart starts that spec
once more. Everything that a start checks was checked when the worker was launched the
first time, and depends on nothing but the spec: its fields, the identity that is read off
it, the directories it names and the configuration built from it. So the second start is
refused only where the first could have failed for reasons outside of the spec: a directory
cannot be made, or the program cannot be run.

Two refusals remain that are about the supervisor. The id is free because the old worker was
taken off, and the supervisor accepts because a handle that is to be launched again is never
found in a closed one. The command is the same too, because the program and the path that
go into it never change.
-/
namespace MediaNode

/-- That a fault is the machine's doing: a directory cannot be made, or a program cannot
be run. -/
def Fault.OfMachine : Fault → Prop
  | .config cause => cause.IsDirectory
  | .spawn _ => True
  | _ => False

namespace Worker

/-- That the stream of a handle passed every check that a start makes. -/
structure Handle.Admitted (handle : Handle) (identity : Stream.Identity) : Prop where
  valid : (Stream.validate handle.spec).snd = .ok ()
  preparable : Stream.Preparable handle.spec identity
  built : Stream.build handle.spec = .ok handle.config
  named : handle.id = identity.id
  roots : handle.servedRoots = identity.servedRoots

/-- That a worker takes the place of an older one of its stream: it was launched for the same,
and nothing has happened to it yet. -/
structure Handle.Renews (handle fresh : Handle) : Prop where
  id : fresh.id = handle.id
  spec : fresh.spec = handle.spec
  config : fresh.config = handle.config
  servedRoots : fresh.servedRoots = handle.servedRoots
  serial : handle.serial < fresh.serial
  phase : fresh.phase = .starting
  restart : fresh.restart = false
  pending : fresh.pending = []

/-- A worker that stays the same stays admitted. -/
theorem Handle.SameWorker.admitted {handle after : Handle} {identity : Stream.Identity}
    (same : handle.SameWorker after) (admitted : handle.Admitted identity) :
    after.Admitted identity where
  valid := same.spec ▸ admitted.valid
  preparable := same.spec ▸ admitted.preparable
  built := same.spec ▸ same.config ▸ admitted.built
  named := same.id.trans admitted.named
  roots := same.servedRoots.trans admitted.roots

namespace Supervisor

variable {supervisor after : Supervisor} {around : Surroundings} {files made : FileTree}
  {handle : Handle} {identity : Stream.Identity} {effects trace : List Effect} {fault : Fault}

/-- The command of a worker does not depend on what else the supervisor has done. -/
theorem commandOf_step (distinct : supervisor.registry.ids.Nodup) (operation : Operation) :
    (supervisor.step operation).fst.commandOf = supervisor.commandOf := by
  have outcome := step_outcome distinct operation
  generalize (supervisor.step operation).fst = after,
    (supervisor.step operation).snd = effects at outcome ⊢
  cases outcome with
  | launched => rfl
  | removed => rfl
  | reacted => rfl

/-- A stream that was admitted is declined for the machine's reasons alone. -/
theorem ofMachine_of_declined (admitted : handle.Admitted identity)
    (accepting : supervisor.accepting = true) (free : handle.id ∉ supervisor.registry.ids)
    (declined : Declined supervisor around files handle.spec made fault) : fault.OfMachine := by
  cases declined with
  | closed refusing => exact absurd (accepting.symm.trans refusing) (by simp)
  | invalid _ invalid => exact absurd (admitted.valid.symm.trans invalid) (by simp)
  | unprepared _ _ failed =>
    have prepared := admitted.preparable.upTo_prepare files
    rw [failed] at prepared
    obtain prepared | ⟨cause, same, directory⟩ := prepared
    · cases prepared
    · cases same
      exact directory
  | unbuildable _ failed => exact absurd (admitted.built.symm.trans failed) (by simp)
  | @taken _ other _ ready _ taken =>
    have derived := Stream.Identity.derive_of_prepare ready.prepared
    obtain rfl : other = identity :=
      Except.ok.inj (derived.symm.trans admitted.preparable.derived)
    exact absurd (admitted.named ▸ taken) free
  | uncommanded => exact trivial
  | unlaunched => exact trivial

/-- A start of an admitted stream that succeeds renews its worker, by the command of its
spec. -/
theorem renews_of_create (admitted : handle.Admitted identity)
    (older : handle.serial < supervisor.nextSerial)
    (created : supervisor.create around files handle.spec = (made, ⟨after, effects, .ok ()⟩)) :
    ∃ fresh command, handle.Renews fresh ∧
      supervisor.commandOf handle.id handle.spec = some command ∧
      after.registry = ⟨supervisor.registry.handles ++ [fresh]⟩ ∧
      effects = launchEffects handle.id fresh.serial command handle.config.base.ttl := by
  obtain ⟨other, ready, enlisted⟩ := ready_of_create created
  obtain ⟨config, command, built, free, commanded, rfl, rfl⟩ := enlist_eq_ok enlisted
  have derived := Stream.Identity.derive_of_prepare ready.prepared
  obtain rfl : other = identity :=
    Except.ok.inj (derived.symm.trans admitted.preparable.derived)
  obtain rfl : config = handle.config := Except.ok.inj (built.symm.trans admitted.built)
  rw [← admitted.named] at commanded ⊢
  refine ⟨supervisor.newHandle around.clock other handle.spec handle.config, command, ?_,
    commanded, rfl, rfl⟩
  exact {
    id := admitted.named.symm
    spec := rfl
    config := rfl
    servedRoots := admitted.roots.symm
    serial := older
    phase := rfl
    restart := rfl
    pending := rfl }

/-- That a worker can be launched again as it was: its stream was admitted, and the command
that its spec gives is the one it was launched by. -/
structure Relaunchable (supervisor : Supervisor) (trace : List Effect) (handle : Handle) :
    Prop where
  admitted : ∃ identity, handle.Admitted identity
  commanded : ∃ command, supervisor.commandOf handle.id handle.spec = some command ∧
    .launch handle.id handle.serial command ∈ trace

/-- A worker that stays the same stays relaunchable, whatever is done to the outside. -/
theorem Relaunchable.sameWorker {next : Handle} (kept : supervisor.Relaunchable trace handle)
    (same : handle.SameWorker next) (effects : List Effect) :
    supervisor.Relaunchable (trace ++ effects) next := by
  obtain ⟨⟨identity, admitted⟩, command, commanded, launched⟩ := kept
  refine ⟨⟨identity, same.admitted admitted⟩, command, ?_⟩
  rw [same.id, same.spec, same.serial]
  exact ⟨commanded, List.mem_append_left effects launched⟩

/-- A start that succeeds adds a worker that is relaunchable. -/
theorem relaunchable_of_create {spec : Stream.Spec} (trace : List Effect)
    (created : supervisor.create around files spec = (made, ⟨after, effects, .ok ()⟩)) :
    ∃ fresh, after.registry = ⟨supervisor.registry.handles ++ [fresh]⟩ ∧
      supervisor.Relaunchable (trace ++ effects) fresh := by
  obtain ⟨identity, ready, enlisted⟩ := ready_of_create created
  obtain ⟨config, command, built, free, commanded, rfl, rfl⟩ := enlist_eq_ok enlisted
  have admitted : (supervisor.newHandle around.clock identity spec config).Admitted identity := {
    valid := ready.valid
    preparable := .of_prepare ready.prepared
    built
    named := rfl
    roots := rfl }
  exact ⟨_, rfl, ⟨identity, admitted⟩, command, commanded,
    List.mem_append_right trace List.mem_cons_self⟩

/-- What holds of a supervisor together with the trace of all that was done to the outside,
so that every worker can be launched again. -/
structure Renewable (supervisor : Supervisor) (trace : List Effect) : Prop
    extends Lifecycle supervisor trace where
  kept : ∀ handle ∈ supervisor.registry.handles, supervisor.Relaunchable trace handle
  /-- A supervisor that accepts nothing is closed, and has no worker to launch again. -/
  opened : supervisor.accepting = true ∨ supervisor.Closed

namespace Renewable

/-- A supervisor without workers has none to launch again. -/
theorem initial (settings : Settings) : Renewable (.ofSettings settings) [] where
  toLifecycle := .initial settings
  kept := by simp [ofSettings]
  opened := .inl rfl

/-- An operation leaves every worker relaunchable, because a start that succeeds adds one
that has just passed every check, and nothing else changes what a worker was launched for. -/
theorem kept_step (renewable : Renewable supervisor trace) (operation : Operation) :
    ∀ handle ∈ (supervisor.step operation).fst.registry.handles,
      supervisor.Relaunchable (trace ++ (supervisor.step operation).snd) handle := by
  by_cases starts : ∃ around files spec, operation = .create around files spec
  · obtain ⟨around, files, spec, rfl⟩ := starts
    rcases created : supervisor.create around files spec with ⟨made, after, effects, outcome⟩
    simp only [Supervisor.step, created]
    cases outcome with
    | error fault =>
      obtain ⟨rfl, rfl, -⟩ := create_eq_error created
      simpa using renewable.kept
    | ok =>
      obtain ⟨fresh, registry, relaunchable⟩ := relaunchable_of_create trace created
      rw [registry]
      intro handle member
      rcases List.mem_append.mp member with registered | isNew
      · exact (renewable.kept handle registered).sameWorker ⟨rfl, rfl, rfl, rfl, rfl, rfl⟩ _
      · exact List.mem_singleton.mp isNew ▸ relaunchable
  · have outcome := step_outcome renewable.distinct operation
    generalize (supervisor.step operation).fst = next,
      (supervisor.step operation).snd = effects at outcome ⊢
    intro after member
    cases outcome with
    | launched created => exact absurd ⟨_, _, _, created⟩ starts
    | removed ended found =>
      exact (renewable.kept after (List.mem_of_mem_filter member)).sameWorker
        ⟨rfl, rfl, rfl, rfl, rfl, rfl⟩ _
    | reacted reactions =>
      obtain ⟨handle, registered, own, reaction⟩ := reactions.origin after member
      exact (renewable.kept handle registered).sameWorker reaction.sameWorker _

/-- Only the stopping of all workers ends the accepting, and it closes the supervisor. -/
theorem opened_step (renewable : Renewable supervisor trace) (operation : Operation) :
    (supervisor.step operation).fst.accepting = true ∨
      (supervisor.step operation).fst.Closed := by
  have outcome := step_outcome renewable.distinct operation
  rcases renewable.opened with accepting | closed
  · cases closes : operation.closes with
    | true =>
      cases operation with
      | stopAll outbox => exact .inr (.of_stopAll supervisor outbox)
      | _ => cases closes
    | false =>
      generalize (supervisor.step operation).fst = next,
        (supervisor.step operation).snd = effects at outcome ⊢
      cases outcome with
      | launched => exact .inl accepting
      | removed => exact .inl accepting
      | reacted => exact .inl (by simp [accepting, closes])
  · exact .inr (closed.step renewable.toLifecycle outcome).closed

/-- Every operation keeps the invariant. -/
theorem step (renewable : Renewable supervisor trace) (operation : Operation) :
    Renewable (supervisor.step operation).fst (trace ++ (supervisor.step operation).snd) where
  toLifecycle := renewable.toLifecycle.step (step_outcome renewable.distinct operation)
  kept := by
    intro handle member
    obtain ⟨admitted, commanded⟩ := renewable.kept_step operation handle member
    exact ⟨admitted, commandOf_step renewable.distinct operation ▸ commanded⟩
  opened := renewable.opened_step operation

/-- Hence every run does. -/
theorem run (renewable : Renewable supervisor trace) (operations : List Operation) :
    Renewable (supervisor.run operations).fst (trace ++ (supervisor.run operations).snd) := by
  induction operations generalizing supervisor trace with
  | nil => simpa using renewable
  | cons operation rest inductionHypothesis =>
    simpa [List.append_assoc] using inductionHypothesis (renewable.step operation)

/-- A worker that is to be launched again keeps the supervisor open. -/
theorem accepting_of_restart (renewable : Renewable supervisor trace)
    (registered : handle ∈ supervisor.registry.handles) (again : handle.restart = true) :
    supervisor.accepting = true := by
  rcases renewable.opened with accepting | closed
  · exact accepting
  · exact absurd (again.symm.trans (closed.ending handle registered).2) (by simp)

/-- When the worker of a handle that is to be launched again has been taken off, its stream is
renewed by the command that the worker was launched by, unless the machine prevents it. -/
theorem renewed_or_prevented (renewable : Renewable supervisor trace)
    (found : supervisor.registry.getSerial? handle.id handle.serial = some handle)
    (again : handle.restart = true) (around : Surroundings) (files : FileTree) :
    let outcome := ((supervisor.exited handle.id handle.serial).fst.create around files
      handle.spec).snd
    (∃ after fresh command,
      outcome =
        ⟨after, launchEffects handle.id fresh.serial command handle.config.base.ttl, .ok ()⟩ ∧
      handle.Renews fresh ∧ after.registry.getSerial? handle.id fresh.serial = some fresh ∧
      supervisor.commandOf handle.id handle.spec = some command ∧
      .launch handle.id handle.serial command ∈ trace) ∨
    ∃ fault, outcome = ⟨(supervisor.exited handle.id handle.serial).fst, [], .error fault⟩ ∧
      fault.OfMachine := by
  intro outcome
  obtain ⟨registered, -⟩ := Registry.getSerial?_eq_some_iff.mp found
  have present := (Registry.mem_of_get? registered).1
  obtain ⟨⟨identity, admitted⟩, command, commanded, launched⟩ := renewable.kept handle present
  have removal := exited_of_getSerial? found
  have free : handle.id ∉ (supervisor.exited handle.id handle.serial).fst.registry.ids := by
    simp [removal, withRegistry, Registry.ids]
  have accepting : (supervisor.exited handle.id handle.serial).fst.accepting = true := by
    rw [removal]
    exact renewable.accepting_of_restart present again
  have older : handle.serial < (supervisor.exited handle.id handle.serial).fst.nextSerial := by
    rw [removal]
    exact renewable.below handle present
  have sameCommand : (supervisor.exited handle.id handle.serial).fst.commandOf handle.id
      handle.spec = some command := by
    rw [removal]
    exact commanded
  rcases created : (supervisor.exited handle.id handle.serial).fst.create around files
    handle.spec with ⟨made, after, effects, result⟩
  simp only [outcome, created]
  cases result with
  | error fault =>
    obtain ⟨rfl, rfl, declined⟩ := create_eq_error created
    exact .inr ⟨fault, rfl, ofMachine_of_declined admitted accepting free declined⟩
  | ok =>
    obtain ⟨fresh, words, renews, known, registry, rfl⟩ :=
      renews_of_create admitted older created
    obtain rfl : words = command := Option.some.inj (known.symm.trans sameCommand)
    have first : after.registry.get? fresh.id = some fresh := by
      rw [registry]
      exact Registry.get?_append_of_free (renews.id ▸ free)
    exact .inl ⟨after, fresh, words, rfl, renews,
      Registry.getSerial?_eq_some_iff.mpr ⟨renews.id ▸ first, rfl⟩, commanded, launched⟩

end Renewable
end Supervisor
end Worker
end MediaNode
