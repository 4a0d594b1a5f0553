import MediaNode.Proofs.Stream.Identity
import MediaNode.Stream.Config
import Mathlib.Data.List.Basic

/-!
# Which specs have a configuration

`Refuses` says of each error when it is the one that a spec is refused with: the conditions are
those of the errors before it and its own, so that at most one of them applies. `Carries` says
what a configuration has of the numbers in its spec.

A spec is refused exactly with the error that applies, and has a configuration that carries its
numbers if none does. Both follow from one case analysis (`refuses_or_builds`), because
what refuses a spec also decides what building it comes to (`build_of_refuses`).

A number that has to be positive is kept in 32 bits. One that needs more is refused like one that
is not positive.
-/
namespace MediaNode.Stream

/-- Whether a number is positive and has 32 bits. -/
def Fits (n : Int) : Prop := 0 < n ∧ n < 4294967296

/-- A positive number of 32 bits is kept as it is, and nothing is made of any other. -/
theorem positive32?_of_fits {n : Int} (fits : Fits n) : positive32? n = some n.toNat := if_pos fits

theorem positive32?_of_not_fits {n : Int} (misfit : ¬ Fits n) : positive32? n = none :=
  if_neg misfit

/-- The items of a field that is an array. -/
def Spec.items? (spec : Spec) (key : String) : Option (List Json) :=
  (spec.get? key).bind Json.asArr

/-- A kind is found under its number. -/
theorem Kind.ofInt?_number (kind : Kind) : ofInt? kind.number = some kind := by
  cases kind <;> rfl

/-- What is found has the number that was asked for. -/
theorem Kind.number_of_ofInt? {n : Int} {kind : Kind} (found : ofInt? n = some kind) :
    n = kind.number := by
  rw [ofInt?] at found
  have same := List.find?_some found
  exact (of_decide_eq_true same).symm

/-- There is a kind for each number from zero to thirteen, and no other. -/
theorem Kind.ofInt?_eq_none_iff {n : Int} : ofInt? n = none ↔ n < 0 ∨ 13 < n := by
  have numbers : all.map Kind.number = List.range 14 := by decide
  rw [ofInt?, List.find?_eq_none]
  constructor
  · intro unused
    by_contra inside
    have named : n.toNat ∈ all.map Kind.number := by
      rw [numbers, List.mem_range]
      omega
    obtain ⟨kind, member, same⟩ := List.mem_map.1 named
    exact unused kind member (decide_eq_true (by omega))
  · intro outside kind member same
    have below : kind.number ∈ List.range 14 := numbers ▸ List.mem_map_of_mem member
    have same : (kind.number : Int) = n := of_decide_eq_true same
    rw [List.mem_range] at below
    omega

/-- Two kinds only pass a stream on. -/
theorem Kind.isProxy_iff {kind : Kind} : kind.isProxy = true ↔ kind = .proxy ∨ kind = .vodProxy := by
  simp [isProxy]

/-- That a spec has the number of a kind whose streams have workers. -/
structure Works (spec : Spec) (kind : Kind) : Prop where
  number : spec.int? "type" = some (kind.number : Int)
  worker : kind.isProxy = false

/-- That it has inputs and outputs, too. -/
structure Supplied (spec : Spec) (kind : Kind) : Prop extends Works spec kind where
  input : (spec.items? "input").isSome = true
  output : (spec.items? "output").isSome = true

/-- That a field is no integer, or one that is positive and has 32 bits. -/
def Spec.Within (spec : Spec) (key : String) : Prop := ∀ n, spec.int? key = some n → Fits n

/-- When a spec is refused, and with which error. -/
inductive Refuses (spec : Spec) : ConfigError → Prop where
  /-- The type is no integer. -/
  | untyped (type : spec.int? "type" = none) : Refuses spec (.missing "type")
  /-- There is no kind of this number. -/
  | unknown (n : Int) (type : spec.int? "type" = some n) (outside : n < 0 ∨ 13 < n) :
      Refuses spec (.unknownType n)
  /-- The kind has no worker. -/
  | proxy (kind : Kind) (type : spec.int? "type" = some (kind.number : Int))
      (passes : kind = .proxy ∨ kind = .vodProxy) : Refuses spec .proxyUnsupported
  | inputless (kind : Kind) (works : Works spec kind) (input : spec.items? "input" = none) :
      Refuses spec (.missing "input")
  | outputless (kind : Kind) (works : Works spec kind)
      (input : (spec.items? "input").isSome = true) (output : spec.items? "output" = none) :
      Refuses spec (.missing "output")
  | attempts (kind : Kind) (supplied : Supplied spec kind) (n : Int)
      (given : spec.int? "restart_attempts" = some n) (misfit : ¬ Fits n) :
      Refuses spec (.restartAttempts n)
  /-- Only a recorder has chunks. -/
  | duration (kind : Kind) (supplied : Supplied spec kind)
      (recorder : kind = .timeshiftRecorder ∨ kind = .catchup)
      (attempts : spec.Within "restart_attempts") (n : Int)
      (given : spec.int? "timeshift_chunk_duration" = some n) (misfit : ¬ Fits n) :
      Refuses spec (.chunkDuration n)

/-- What a configuration has of the numbers in its spec. -/
structure Carries (spec : Spec) (config : Config) : Prop where
  number : spec.int? "type" = some (config.kind.number : Int)
  /-- The restart count, or ten where there is none. -/
  attempts : (config.base.maxRestartAttempts : Int) = (spec.int? "restart_attempts").getD 10
  /-- Exactly the recorders have the length of a chunk: the one in the spec, or two minutes. -/
  recorder : (∃ relay duration, config = .timeshift relay duration) ↔
    config.kind = .timeshiftRecorder ∨ config.kind = .catchup
  duration : ∀ relay duration, config = .timeshift relay duration →
    (duration : Int) = (spec.int? "timeshift_chunk_duration").getD 120

section
variable {spec : Spec} {key : String} {initial : Nat} {refuse : Int → ConfigError}

/-- A field with a number that does not fit is refused. -/
theorem positiveField_of_not_fits {n : Int} (given : spec.int? key = some n) (misfit : ¬ Fits n) :
    positiveField spec key initial refuse = .error (refuse n) := by
  simp only [positiveField, given, positive32?_of_not_fits misfit]

/-- Any other gives its number, or the initial one where it has none. -/
theorem positiveField_of_within (within : spec.Within key) :
    ∃ m : Nat, positiveField spec key initial refuse = .ok m ∧
      (m : Int) = (spec.int? key).getD initial := by
  cases given : spec.int? key with
  | none => exact ⟨initial, by simp only [positiveField, given], rfl⟩
  | some n =>
    have fits : Fits n := within n given
    refine ⟨n.toNat, ?_, Int.toNat_of_nonneg (Int.le_of_lt fits.1)⟩
    simp only [positiveField, given, positive32?_of_fits fits]

/-- A field is within the bounds, or has a number that is not. -/
theorem within_or_misfit (spec : Spec) (key : String) :
    spec.Within key ∨ ∃ n, spec.int? key = some n ∧ ¬ Fits n := by
  by_cases within : spec.Within key
  · exact .inl within
  · right
    simpa only [Spec.Within, not_forall, exists_prop] using within

end

variable {spec : Spec} {kind : Kind} {av : Av}

/-- Only recorders have the length of a chunk, and no other kind with a worker is refused. -/
theorem configOf_of_others (same : av.base.kind = kind) (worker : kind.isProxy = false)
    (others : ¬ (kind = .timeshiftRecorder ∨ kind = .catchup)) :
    ∃ config, configOf spec av = .ok config ∧ config.av = av ∧
      ∀ relay duration, config ≠ .timeshift relay duration := by
  unfold configOf
  rw [same]
  cases kind with
  | proxy => cases worker
  | vodProxy => cases worker
  | timeshiftRecorder => exact absurd (.inl rfl) others
  | catchup => exact absurd (.inr rfl) others
  | _ => exact ⟨_, rfl, rfl, by simp⟩

/-- A recorder has the length of its chunks. -/
theorem configOf_of_recorder (same : av.base.kind = kind)
    (recorder : kind = .timeshiftRecorder ∨ kind = .catchup) :
    configOf spec av =
      (positiveField spec "timeshift_chunk_duration" defaultChunkDuration .chunkDuration).map
        (.timeshift (relayOf spec av)) := by
  unfold configOf
  rw [same]
  rcases recorder with rfl | rfl <;> rfl

/-- What every stream with pictures and sound has by its spec. -/
def avOf (spec : Spec) (kind : Kind) (input : List Input) (output : List Output) (attempts : Nat) :
    Av :=
  { base := { kind, maxRestartAttempts := attempts, input, output, ttl := ttlOf spec }
    haveVideo := (spec.bool? "have_video").getD true
    haveAudio := (spec.bool? "have_audio").getD true
    haveSubtitle := (spec.bool? "have_subtitle").getD false
    audioSelect := spec.int? "audio_select"
    looped := (spec.bool? "loop").getD false }

/-- What is left to build once the kind is known. -/
theorem build_of_works (works : Works spec kind) :
    build spec = (do
      let input ← require (.missing "input") (readInput spec)
      let output ← require (.missing "output") (readOutput spec)
      let attempts ←
        positiveField spec "restart_attempts" defaultRestartAttempts .restartAttempts
      configOf spec (avOf spec kind input output attempts)) := by
  simp only [build, require, works.number, Kind.ofInt?_number, works.worker, bind, Except.bind]
  rfl

/-- What is left once the inputs and outputs are known, too. -/
theorem build_of_supplied (supplied : Supplied spec kind) :
    ∃ input output, build spec = (do
      let attempts ←
        positiveField spec "restart_attempts" defaultRestartAttempts .restartAttempts
      configOf spec (avOf spec kind input output attempts)) := by
  obtain ⟨input, inputs⟩ := Option.isSome_iff_exists.1 supplied.input
  obtain ⟨output, outputs⟩ := Option.isSome_iff_exists.1 supplied.output
  rw [Spec.items?] at inputs outputs
  rw [build_of_works supplied.toWorks, readInput, inputs, readOutput, outputs]
  exact ⟨_, _, rfl⟩

/-- What refuses a spec decides what building it comes to. -/
theorem build_of_refuses {cause : ConfigError} (refuses : Refuses spec cause) :
    build spec = .error cause := by
  cases refuses with
  | untyped type => simp only [build, require, type, bind, Except.bind]
  | unknown n type outside =>
    simp only [build, require, type, Kind.ofInt?_eq_none_iff.2 outside, bind, Except.bind]
  | proxy kind type passes =>
    simp only [build, require, type, Kind.ofInt?_number, Kind.isProxy_iff.2 passes, bind,
      Except.bind]
    rfl
  | inputless kind works input =>
    rw [Spec.items?] at input
    rw [build_of_works works, readInput, input]
    rfl
  | outputless kind works input output =>
    obtain ⟨items, inputs⟩ := Option.isSome_iff_exists.1 input
    rw [Spec.items?] at inputs output
    rw [build_of_works works, readInput, inputs, readOutput, output]
    rfl
  | attempts kind supplied n given misfit =>
    obtain ⟨input, output, built⟩ := build_of_supplied supplied
    rw [built, positiveField_of_not_fits given misfit]
    rfl
  | duration kind supplied recorder attempts n given misfit =>
    obtain ⟨input, output, built⟩ := build_of_supplied supplied
    obtain ⟨m, counted, -⟩ := positiveField_of_within attempts
    have chunkless : configOf spec (avOf spec kind input output m) = .error (.chunkDuration n) := by
      rw [configOf_of_recorder rfl recorder, positiveField_of_not_fits given misfit]
      rfl
    rw [built, counted]
    exact chunkless

/-- A spec that is supplied and has a restart count within the bounds is built, unless it is the
length of the chunks that refuses it. -/
theorem refuses_or_builds_of_within (supplied : Supplied spec kind)
    (attempts : spec.Within "restart_attempts") :
    (∃ cause, Refuses spec cause) ∨ ∃ config, build spec = .ok config ∧ Carries spec config := by
  obtain ⟨input, output, built⟩ := build_of_supplied supplied
  obtain ⟨n, counted, carried⟩ := positiveField_of_within attempts
  generalize kept : avOf spec kind input output n = av
  have built : build spec = configOf spec av := by
    rw [built, counted, ← kept]
    rfl
  have same : av.base.kind = kind := by rw [← kept, avOf]
  have number : av.base.maxRestartAttempts = n := by rw [← kept, avOf]
  have carries {config : Config} (whole : config.av = av)
      (recorder : (∃ relay duration, config = .timeshift relay duration) ↔
        kind = .timeshiftRecorder ∨ kind = .catchup)
      (duration : ∀ relay duration, config = .timeshift relay duration →
        (duration : Int) = (spec.int? "timeshift_chunk_duration").getD 120) :
      Carries spec config := by
    have kinds : config.kind = kind := by rw [Config.kind, Config.base, whole, same]
    refine ⟨?_, ?_, ?_, duration⟩
    · rw [kinds]
      exact supplied.number
    · rw [Config.base, whole, number]
      exact carried
    · rw [kinds]
      exact recorder
  by_cases recorder : kind = .timeshiftRecorder ∨ kind = .catchup
  · rcases within_or_misfit spec "timeshift_chunk_duration" with within | ⟨m, given, misfit⟩
    · obtain ⟨m, measured, duration⟩ := positiveField_of_within within
      refine .inr ⟨.timeshift (relayOf spec av) m, ?_, carries rfl ?_ ?_⟩
      · rw [built, configOf_of_recorder same recorder, measured]
        rfl
      · exact iff_of_true ⟨_, _, rfl⟩ recorder
      · rintro relay _ ⟨⟩
        exact duration
    · exact .inl ⟨_, .duration kind supplied recorder attempts m given misfit⟩
  · obtain ⟨config, configured, whole, chunkless⟩ :=
      configOf_of_others same supplied.worker recorder
    refine .inr ⟨config, built.trans configured, carries whole ?_ ?_⟩
    · exact iff_of_false (fun ⟨relay, duration, timeshift⟩ => chunkless relay duration timeshift)
        recorder
    · exact fun relay duration timeshift => absurd timeshift (chunkless relay duration)

/-- Every spec is refused, or built into a configuration that carries its numbers. -/
theorem refuses_or_builds (spec : Spec) :
    (∃ cause, Refuses spec cause) ∨ ∃ config, build spec = .ok config ∧ Carries spec config := by
  cases type : spec.int? "type" with
  | none => exact .inl ⟨_, .untyped type⟩
  | some n =>
    cases known : Kind.ofInt? n with
    | none => exact .inl ⟨_, .unknown n type (Kind.ofInt?_eq_none_iff.1 known)⟩
    | some kind =>
      have number : spec.int? "type" = some (kind.number : Int) := by
        rw [type, Kind.number_of_ofInt? known]
      cases proxy : kind.isProxy with
      | true => exact .inl ⟨_, .proxy kind number (Kind.isProxy_iff.1 proxy)⟩
      | false =>
        have works : Works spec kind := ⟨number, proxy⟩
        cases input : spec.items? "input" with
        | none => exact .inl ⟨_, .inputless kind works input⟩
        | some inputs =>
          have input : (spec.items? "input").isSome = true := by rw [input]; rfl
          cases output : spec.items? "output" with
          | none => exact .inl ⟨_, .outputless kind works input output⟩
          | some outputs =>
            have supplied : Supplied spec kind := ⟨works, input, by rw [output]; rfl⟩
            rcases within_or_misfit spec "restart_attempts" with within | ⟨m, given, misfit⟩
            · exact refuses_or_builds_of_within supplied within
            · exact .inl ⟨_, .attempts kind supplied m given misfit⟩

/-- A configuration that is built carries the numbers of its spec. -/
theorem carries_of_build {config : Config} (built : build spec = .ok config) :
    Carries spec config := by
  rcases refuses_or_builds spec with ⟨cause, refuses⟩ | ⟨other, same, carries⟩
  · rw [build_of_refuses refuses] at built
    cases built
  · rw [built] at same
    cases same
    exact carries

/-- A spec is refused exactly with the error that applies, and a configuration that is built
carries the numbers of its spec. -/
theorem build_refuses_iff (spec : Spec) :
    (∀ cause, build spec = .error cause ↔ Refuses spec cause) ∧
      ∀ config, build spec = .ok config → Carries spec config := by
  refine ⟨fun cause => ⟨fun failed => ?_, build_of_refuses⟩, fun config => carries_of_build⟩
  rcases refuses_or_builds spec with ⟨other, refuses⟩ | ⟨config, built, -⟩
  · have refused := build_of_refuses refuses
    rw [failed] at refused
    cases refused
    exact refuses
  · rw [failed] at built
    cases built

/-- A recorder keeps the length of its chunks up to 32 bits, and is refused with none. -/
theorem build_refuses_iff_recorder :
    let recorder (duration : Int) : Spec :=
      ⟨[("input", .arr []), ("output", .arr []), ("restart_attempts", .int 5),
        ("timeshift_chunk_duration", .int duration), ("type", .int 5)]⟩
    (∃ config, build (recorder 4294967295) = .ok config ∧ Carries (recorder 4294967295) config) ∧
      build (recorder 0) = .error (.chunkDuration 0) := by
  intro recorder
  constructor
  · have succeeds : (build (recorder 4294967295)).isOk = true := by decide +kernel
    cases built : build (recorder 4294967295) with
    | error cause =>
      rw [built] at succeeds
      cases succeeds
    | ok config => exact ⟨config, rfl, (build_refuses_iff _).2 config built⟩
  · have supplied : Supplied (recorder 0) .timeshiftRecorder := ⟨⟨rfl, rfl⟩, rfl, rfl⟩
    have attempts : (recorder 0).Within "restart_attempts" := by
      intro n given
      cases given
      exact ⟨by decide, by decide⟩
    have misfit : ¬ Fits 0 := fun fits => absurd fits.1 (by decide)
    exact ((build_refuses_iff _).1 _).2 (.duration _ supplied (.inl rfl) attempts 0 rfl misfit)

/-- A restart count and a length of chunks of more than 32 bits are positive, and refused as if
they were not. -/
theorem positive_refused :
    build ⟨[("input", .arr []), ("output", .arr []), ("restart_attempts", .int 4294967296),
        ("type", .int 2)]⟩ = .error (.restartAttempts 4294967296) ∧
      build ⟨[("input", .arr []), ("output", .arr []),
        ("timeshift_chunk_duration", .int 4294967296), ("type", .int 5)]⟩ =
          .error (.chunkDuration 4294967296) ∧
      (ConfigError.restartAttempts 4294967296).message =
        "restart_attempts must be positive, got 4294967296" := by
  refine ⟨by decide +kernel, by decide +kernel, by decide +kernel⟩

end MediaNode.Stream
