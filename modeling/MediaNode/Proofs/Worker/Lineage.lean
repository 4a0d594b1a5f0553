import MediaNode.Proofs.Worker.Closing
import MediaNode.Proofs.Worker.Creation

/-!
# What a worker was launched for

A worker is registered with the spec that it was launched for, and nothing that happens to it
changes the spec. So what is once known of the spec of a worker is known for good, whatever comes
before and after: other starts under its id, its restart, and its end.
-/
namespace MediaNode.Worker.Supervisor

variable {supervisor after : Supervisor} {operation : Operation} {serial : Nat}
  {Fits : Stream.Spec → Prop}

/-- That the worker with a serial number, which was launched before, was launched for a fitting
spec. It may have ended since. -/
structure Carries (supervisor : Supervisor) (serial : Nat) (Fits : Stream.Spec → Prop) : Prop where
  below : serial < supervisor.nextSerial
  fits : ∀ handle ∈ supervisor.registry.handles, handle.serial = serial → Fits handle.spec

/-- Starts of this worker's stream and of others bring in workers with new serial numbers, and
whatever else is done leaves the specs alone. -/
theorem Carries.step (carries : supervisor.Carries serial Fits)
    (distinct : supervisor.registry.ids.Nodup) (operation : Operation) :
    (supervisor.step operation).fst.Carries serial Fits := by
  have outcome := step_outcome distinct operation
  generalize (supervisor.step operation).fst = after,
    (supervisor.step operation).snd = effects at outcome
  cases outcome with
  | launched created accepted valid derived built free commanded =>
    refine ⟨Nat.lt_succ_of_lt carries.below, fun handle member own => ?_⟩
    rcases List.mem_append.mp member with registered | isNew
    · exact carries.fits handle registered own
    · have number : handle.serial = supervisor.nextSerial := by
        rw [List.mem_singleton.mp isNew]
        rfl
      have below := carries.below
      omega
  | removed ended found =>
    exact ⟨carries.below, fun handle member => carries.fits handle (List.mem_of_mem_filter member)⟩
  | reacted reactions =>
    refine ⟨carries.below, fun handle member own => ?_⟩
    obtain ⟨before, registered, effects, reaction⟩ := reactions.origin handle member
    have same := reaction.sameWorker
    rw [same.spec]
    exact carries.fits before registered (same.serial.symm.trans own)

/-- Hence no run takes it back. -/
theorem Carries.run (carries : supervisor.Carries serial Fits)
    (distinct : supervisor.registry.ids.Nodup) (operations : List Operation) :
    (supervisor.run operations).fst.Carries serial Fits := by
  induction operations generalizing supervisor with
  | nil => exact carries
  | cons operation rest inductionHypothesis =>
    exact inductionHypothesis (carries.step distinct operation)
      ((turnover distinct operation).distinct distinct)

/-- A start that succeeds brings in a worker of its spec. -/
theorem Started.carries {spec : Stream.Spec} {handle : Handle} {effects trace : List Effect}
    (started : supervisor.Started spec handle after effects)
    (life : Lifecycle supervisor trace) (fits : Fits spec) : after.Carries handle.serial Fits := by
  rw [started.after]
  constructor
  · rw [started.serial]
    exact Nat.lt_succ_self _
  · intro other member own
    rcases List.mem_append.mp member with registered | isNew
    · have below := life.below other registered
      have number := started.serial
      omega
    · rw [List.mem_singleton.mp isNew, started.kept]
      exact fits

end MediaNode.Worker.Supervisor

namespace MediaNode.Stream

/-- A configuration removes chunks at the end of its worker only if its spec says so. -/
theorem cleanupTs_of_configOf {spec : Spec} {av : Av} {config : Config}
    (made : configOf spec av = .ok config) (kept : spec.bool? "cleanup_ts" = some false) :
    config.cleanupTs = false := by
  unfold configOf at made
  rw [kept] at made
  cases kind : av.base.kind with
  | timeshiftRecorder | catchup =>
    simp only [kind] at made
    cases read : positiveField spec "timeshift_chunk_duration" defaultChunkDuration
      .chunkDuration <;> simp only [read, Except.map] at made
    · cases made
    · cases made
      rfl
  | proxy | vodProxy =>
    simp only [kind] at made
    cases made
  | _ =>
    simp only [kind] at made
    cases made
    rfl

/-- So does the configuration that is built from a spec. -/
theorem cleanupTs_of_build {spec : Spec} {config : Config} (built : build spec = .ok config)
    (kept : spec.bool? "cleanup_ts" = some false) : config.cleanupTs = false := by
  simp only [build, bind_eq_ok_iff, check_eq_ok_iff] at built
  obtain ⟨number, -, kind, -, -, input, -, output, -, attempts, -, made⟩ := built
  exact cleanupTs_of_configOf made kept

end MediaNode.Stream
