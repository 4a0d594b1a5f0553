import MediaNode.Proofs.Worker.Lifecycle

/-!
# Starting a stream: all or nothing

A start that succeeds launches one process and registers one handle. A start that fails hands
back the supervisor that it was asked of, the next serial number and all, and has launched
nothing. Of the starts of a stream that has a worker none launches a process.
-/
namespace MediaNode.Worker.Supervisor

variable {supervisor after : Supervisor} {around : Surroundings} {files made : FileTree}
  {spec : Stream.Spec} {identity : Stream.Identity} {config : Stream.Config}
  {effects : List Effect} {fault : Fault}

/-- What a start that succeeded did: the handle that it made is the only difference besides
the next serial number, and its launch is the only one. -/
structure Started (supervisor : Supervisor) (spec : Stream.Spec) (handle : Handle)
    (after : Supervisor) (effects : List Effect) : Prop where
  named : spec.id? = some handle.id
  /-- No worker had the id before. -/
  free : handle.id ∉ supervisor.registry.ids
  kept : handle.spec = spec
  built : Stream.build spec = .ok handle.config
  serial : handle.serial = supervisor.nextSerial
  phase : handle.phase = .starting
  restart : handle.restart = false
  pending : handle.pending = []
  after : after = { supervisor with
    nextSerial := supervisor.nextSerial + 1
    registry := ⟨supervisor.registry.handles ++ [handle]⟩ }
  launched : ∃ command, supervisor.commandOf handle.id spec = some command ∧
    effects = launchEffects handle.id handle.serial command handle.config.base.ttl
  launches : launchedSerials effects = [handle.serial]

/-- That a start comes to the launch of a process, and the process runs. -/
def Launches (supervisor : Supervisor) (around : Surroundings) (files : FileTree)
    (spec : Stream.Spec) : Prop :=
  ∃ made identity config command, supervisor.Ready files spec made identity ∧
    Stream.build spec = .ok config ∧ identity.id ∉ supervisor.registry.ids ∧
    supervisor.commandOf identity.id spec = some command ∧ around.launch made command = .ok ()

/-- A start that succeeds makes a handle of a new worker. -/
theorem started_of_create
    (created : supervisor.create around files spec = (made, ⟨after, effects, .ok ()⟩)) :
    ∃ handle, supervisor.Started spec handle after effects := by
  obtain ⟨identity, ready, enlisted⟩ := ready_of_create created
  obtain ⟨config, command, built, free, commanded, rfl, rfl⟩ := enlist_eq_ok enlisted
  have derived := Stream.Identity.derive_of_prepare ready.prepared
  exact ⟨supervisor.newHandle around.clock identity spec config, {
    named := Stream.Identity.id?_of_derive derived
    free
    kept := rfl
    built
    serial := rfl
    phase := rfl
    restart := rfl
    pending := rfl
    after := rfl
    launched := ⟨command, commanded, rfl⟩
    launches := Lifecycle.launchedSerials_append_launch identity.id _ command config.base.ttl [] }⟩

/-- A start succeeds exactly when its process runs. -/
theorem launches_iff :
    supervisor.Launches around files spec ↔
      (supervisor.create around files spec).snd.result = .ok () := by
  constructor
  · rintro ⟨made, identity, config, command, ready, built, free, commanded, launched⟩
    have contained := Registry.contains_eq_false_iff.mpr free
    obtain ⟨next, effects, handle, spawned⟩ : ∃ next effects handle,
        supervisor.spawn around made identity spec config = ⟨next, effects, .ok handle⟩ := by
      simp [spawn, commanded, launched]
    rw [create_of_ready ready]
    simp only [enlist, built, contained, spawned, insert_of_spawn free spawned,
      Bool.false_eq_true, if_false]
  · intro succeeded
    rcases created : supervisor.create around files spec with ⟨made, after, effects, result⟩
    rw [created] at succeeded
    subst succeeded
    obtain ⟨identity, ready, enlisted⟩ := ready_of_create created
    obtain ⟨config, command, built, free, commanded, -, -⟩ := enlist_eq_ok enlisted
    have contained := Registry.contains_eq_false_iff.mpr free
    refine ⟨made, identity, config, command, ready, built, free, commanded, ?_⟩
    cases launched : around.launch made command with
    | ok => rfl
    | error reason => simp [enlist, built, contained, spawn, commanded, launched] at enlisted

/-- What a start comes to: one new worker, or the very supervisor that was asked, nothing done
to the outside, and no process. -/
inductive Attempt (supervisor : Supervisor) (around : Surroundings) (files : FileTree)
    (spec : Stream.Spec) : FileTree × Trial Unit → Prop where
  | succeeded {made : FileTree} {after : Supervisor} {effects : List Effect} (handle : Handle)
      (started : supervisor.Started spec handle after effects) :
      Attempt supervisor around files spec (made, ⟨after, effects, .ok ()⟩)
  | failed {made : FileTree} {after : Supervisor} {effects : List Effect} {fault : Fault}
      (declined : Declined supervisor around files spec made fault)
      (unchanged : after = supervisor) (silent : effects = [])
      (idle : ¬ supervisor.Launches around files spec) :
      Attempt supervisor around files spec (made, ⟨after, effects, .error fault⟩)

/-- Every start comes to one of the two. -/
theorem attempt (supervisor : Supervisor) (around : Surroundings) (files : FileTree)
    (spec : Stream.Spec) :
    Attempt supervisor around files spec (supervisor.create around files spec) := by
  rcases created : supervisor.create around files spec with ⟨made, after, effects, outcome⟩
  cases outcome with
  | ok =>
    obtain ⟨handle, started⟩ := started_of_create created
    exact .succeeded handle started
  | error fault =>
    obtain ⟨unchanged, silent, declined⟩ := create_eq_error created
    refine .failed declined unchanged silent ?_
    rw [launches_iff, created]
    simp

/-- None launches a process. -/
theorem not_launches_of_taken {id : String} (named : spec.id? = some id)
    (taken : id ∈ supervisor.registry.ids) : ¬ supervisor.Launches around files spec := by
  rintro ⟨made, identity, config, command, ready, -, free, -⟩
  have own := Stream.Identity.id?_of_derive (Stream.Identity.derive_of_prepare ready.prepared)
  exact free (Option.some.inj (named.symm.trans own) ▸ taken)

/-- One that has passed all checks before is declined because of that worker. -/
theorem Declined.eq_streamExists {tree : FileTree}
    (declined : Declined supervisor around files spec tree fault)
    (ready : supervisor.Ready files spec made identity) (built : Stream.build spec = .ok config)
    (taken : identity.id ∈ supervisor.registry.ids) : fault = .streamExists identity.id := by
  have one : ∀ {tree other}, supervisor.Ready files spec tree other → other = identity :=
    fun reached => by
      have same := reached.prepared.symm.trans ready.prepared
      simp only [Prod.mk.injEq, Except.ok.injEq] at same
      exact same.2
  cases declined with
  | closed refusing => exact absurd (ready.accepting.symm.trans refusing) (by simp)
  | invalid accepting invalid => exact absurd (ready.valid.symm.trans invalid) (by simp)
  | unprepared accepting valid failed =>
    exact absurd (ready.prepared.symm.trans failed) (by simp)
  | unbuildable reached failed => exact absurd (built.symm.trans failed) (by simp)
  | taken reached => rw [one reached]
  | uncommanded reached free => exact absurd (one reached ▸ taken) free
  | unlaunched reached free => exact absurd (one reached ▸ taken) free

end MediaNode.Worker.Supervisor
