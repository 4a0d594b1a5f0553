import MediaNode.Proofs.Stream.Identity
import MediaNode.Proofs.Worker.Registry
import MediaNode.Worker.Supervisor

/-!
# What a start comes to

A start can fail at seven places, and the last of them, the registration, comes after the
launch: a failure there would leave a process that nobody follows and a serial number that is
used up. It cannot happen, because the id was looked for before and the launch adds no handle
(`insert_of_spawn`). So every failure comes before the launch or is that of the launch
(`Declined`), the supervisor that it hands back is the one that was asked, and nothing was
done to the outside.
-/
namespace MediaNode.Worker

/-- What is done when a worker is launched: its process runs, and its time is set. -/
def launchEffects (id : String) (serial : Nat) (command : List String) (ttl : Option Nat) :
    List Effect :=
  .launch id serial command :: (ttl.map (.expireAfter id serial)).toList

namespace Supervisor

variable {supervisor after : Supervisor} {around : Surroundings} {files made : FileTree}
  {spec : Stream.Spec} {identity : Stream.Identity} {config : Stream.Config} {handle : Handle}
  {effects : List Effect} {fault : Fault}

/-- That a start has come as far as to the configuration of the stream: the supervisor
accepts, the spec is valid, and its directories are ready. -/
structure Ready (supervisor : Supervisor) (files : FileTree) (spec : Stream.Spec)
    (made : FileTree) (identity : Stream.Identity) : Prop where
  accepting : supervisor.accepting = true
  valid : (Stream.validate spec).snd = .ok ()
  prepared : Stream.Identity.prepare files spec true = (made, .ok identity)

/-- Why a stream is not started, in the order in which it is found out, and the files that
are left then. -/
inductive Declined (supervisor : Supervisor) (around : Surroundings) (files : FileTree)
    (spec : Stream.Spec) : FileTree → Fault → Prop where
  | closed (refusing : supervisor.accepting = false) :
      Declined supervisor around files spec files .shutdownInProgress
  | invalid {cause : Stream.ValidationError} (accepting : supervisor.accepting = true)
      (invalid : (Stream.validate spec).snd = .error cause) :
      Declined supervisor around files spec files (.config (.validation cause))
  /-- The spec names no identity, or a directory cannot be made. -/
  | unprepared {made : FileTree} {cause : Stream.ConfigError}
      (accepting : supervisor.accepting = true) (valid : (Stream.validate spec).snd = .ok ())
      (failed : Stream.Identity.prepare files spec true = (made, .error cause)) :
      Declined supervisor around files spec made (.config cause)
  | unbuildable {made : FileTree} {identity : Stream.Identity} {cause : Stream.ConfigError}
      (ready : supervisor.Ready files spec made identity)
      (failed : Stream.build spec = .error cause) :
      Declined supervisor around files spec made (.config cause)
  | taken {made : FileTree} {identity : Stream.Identity} {config : Stream.Config}
      (ready : supervisor.Ready files spec made identity) (built : Stream.build spec = .ok config)
      (taken : identity.id ∈ supervisor.registry.ids) :
      Declined supervisor around files spec made (.streamExists identity.id)
  /-- There is no program. -/
  | uncommanded {made : FileTree} {identity : Stream.Identity}
      (ready : supervisor.Ready files spec made identity)
      (free : identity.id ∉ supervisor.registry.ids)
      (missing : supervisor.commandOf identity.id spec = none) :
      Declined supervisor around files spec made (.spawn "Empty worker command")
  /-- The program cannot be run. -/
  | unlaunched {made : FileTree} {identity : Stream.Identity} {command : List String}
      {reason : String} (ready : supervisor.Ready files spec made identity)
      (free : identity.id ∉ supervisor.registry.ids)
      (commanded : supervisor.commandOf identity.id spec = some command)
      (failed : around.launch made command = .error reason) :
      Declined supervisor around files spec made (.spawn reason)

/-- What it takes to launch a process, and what that leaves. -/
theorem spawn_eq_ok
    (spawned : supervisor.spawn around files identity spec config =
      ⟨after, effects, .ok handle⟩) :
    after = { supervisor with nextSerial := supervisor.nextSerial + 1 } ∧
      handle = supervisor.newHandle around.clock identity spec config ∧
      ∃ command, supervisor.commandOf identity.id spec = some command ∧
        effects = launchEffects identity.id supervisor.nextSerial command config.base.ttl := by
  unfold spawn at spawned
  split at spawned
  · cases spawned
  next command commanded =>
  split at spawned
  · cases spawned
  next launchable =>
  cases spawned
  refine ⟨rfl, rfl, command, commanded, ?_⟩
  cases config.base.ttl <;> rfl

/-- A launch fails without a program, or when the program cannot be run. Neither leaves
anything. -/
theorem spawn_eq_error
    (failed : supervisor.spawn around files identity spec config =
      ⟨after, effects, .error fault⟩) :
    after = supervisor ∧ effects = [] ∧
      ((supervisor.commandOf identity.id spec = none ∧ fault = .spawn "Empty worker command") ∨
        ∃ command reason, supervisor.commandOf identity.id spec = some command ∧
          around.launch files command = .error reason ∧ fault = .spawn reason) := by
  unfold spawn at failed
  split at failed
  next missing =>
    cases failed
    exact ⟨rfl, rfl, .inl ⟨missing, rfl⟩⟩
  next command commanded =>
    split at failed
    next reason launch =>
      cases failed
      exact ⟨rfl, rfl, .inr ⟨command, reason, commanded, launch, rfl⟩⟩
    next => cases failed

/-- A worker that was launched for a free id can be registered. -/
theorem insert_of_spawn (free : identity.id ∉ supervisor.registry.ids)
    (launched : supervisor.spawn around files identity spec config =
      ⟨after, effects, .ok handle⟩) :
    after.registry.insert handle = .ok ⟨supervisor.registry.handles ++ [handle]⟩ := by
  obtain ⟨rfl, rfl, -⟩ := spawn_eq_ok launched
  exact Registry.insert_eq_ok_iff.mpr ⟨free, rfl⟩

/-- What it takes to register a worker for a spec whose directories are ready. -/
theorem enlist_eq_ok
    (enlisted : supervisor.enlist around files identity spec = ⟨after, effects, .ok ()⟩) :
    ∃ config command, Stream.build spec = .ok config ∧ identity.id ∉ supervisor.registry.ids ∧
      supervisor.commandOf identity.id spec = some command ∧
      after = { supervisor with
        nextSerial := supervisor.nextSerial + 1
        registry := ⟨supervisor.registry.handles ++
          [supervisor.newHandle around.clock identity spec config]⟩ } ∧
      effects = launchEffects identity.id supervisor.nextSerial command config.base.ttl := by
  unfold enlist at enlisted
  split at enlisted
  · cases enlisted
  next config built =>
  split at enlisted
  · cases enlisted
  next taken =>
  split at enlisted
  · cases enlisted
  next spawned launched handle spawning =>
  obtain ⟨rfl, rfl, command, commanded, rfl⟩ := spawn_eq_ok spawning
  split at enlisted
  · cases enlisted
  next registry inserted =>
  obtain ⟨free, rfl⟩ := Registry.insert_eq_ok_iff.mp inserted
  cases enlisted
  exact ⟨config, command, built, free, commanded, rfl, rfl⟩

/-- Once the directories are ready, a failure comes before the launch or is that of the
launch, and leaves nothing. -/
theorem enlist_eq_error (ready : supervisor.Ready files spec made identity)
    (failed : supervisor.enlist around made identity spec = ⟨after, effects, .error fault⟩) :
    after = supervisor ∧ effects = [] ∧ Declined supervisor around files spec made fault := by
  unfold enlist at failed
  split at failed
  next cause built =>
    cases failed
    exact ⟨rfl, rfl, .unbuildable ready built⟩
  next config built =>
  split at failed
  next taken =>
    cases failed
    exact ⟨rfl, rfl, .taken ready built (Registry.contains_iff.mp taken)⟩
  next untaken =>
  have free : identity.id ∉ supervisor.registry.ids :=
    Registry.contains_eq_false_iff.mp (by simpa using untaken)
  split at failed
  next spawned launched cause spawning =>
    obtain ⟨rfl, rfl, because⟩ := spawn_eq_error spawning
    cases failed
    refine ⟨rfl, rfl, ?_⟩
    obtain ⟨missing, rfl⟩ | ⟨command, reason, commanded, refused, rfl⟩ := because
    · exact .uncommanded ready free missing
    · exact .unlaunched ready free commanded refused
  next spawned launched handle spawning =>
    -- nothing is left that could fail
    rw [insert_of_spawn free spawning] at failed
    cases failed

/-- A start that has come to the configuration is left to the registration of its worker. -/
theorem create_of_ready (ready : supervisor.Ready files spec made identity) :
    supervisor.create around files spec = (made, supervisor.enlist around made identity spec) := by
  simp only [create, ready.accepting, ready.valid, ready.prepared, Bool.not_true,
    Bool.false_eq_true, if_false]

/-- A start that succeeds has come to the configuration, and registers a worker then. -/
theorem ready_of_create
    (created : supervisor.create around files spec = (made, ⟨after, effects, .ok ()⟩)) :
    ∃ identity, supervisor.Ready files spec made identity ∧
      supervisor.enlist around made identity spec = ⟨after, effects, .ok ()⟩ := by
  unfold create at created
  split at created
  · cases created
  next accepting =>
  split at created
  · cases created
  next valid =>
  split at created
  · cases created
  next ready identity prepared =>
  obtain ⟨rfl, enlisted⟩ := Prod.mk.inj created
  exact ⟨identity, ⟨by simpa using accepting, valid, prepared⟩, enlisted⟩

/-- A start that fails fails for one of these reasons, and leaves the supervisor as it was and
no process. -/
theorem create_eq_error
    (failed : supervisor.create around files spec = (made, ⟨after, effects, .error fault⟩)) :
    after = supervisor ∧ effects = [] ∧ Declined supervisor around files spec made fault := by
  unfold create at failed
  split at failed
  next refusing =>
    cases failed
    exact ⟨rfl, rfl, .closed (by simpa using refusing)⟩
  next open_ =>
  have accepting : supervisor.accepting = true := by simpa using open_
  split at failed
  next cause invalid =>
    cases failed
    exact ⟨rfl, rfl, .invalid accepting invalid⟩
  next valid =>
  split at failed
  next tree cause prepared =>
    cases failed
    exact ⟨rfl, rfl, .unprepared accepting valid prepared⟩
  next tree identity prepared =>
    obtain ⟨rfl, declined⟩ := Prod.mk.inj failed
    exact enlist_eq_error ⟨accepting, valid, prepared⟩ declined

end Supervisor
end MediaNode.Worker
