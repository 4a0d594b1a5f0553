import MediaNode.Proofs.Stream.Config
import MediaNode.Proofs.Stream.Validation

/-!
# Where building and validating agree on a field

A configuration reads a field as a value of one type and ignores one of any other type.
`fieldsRead` lists, for each kind, what is read and as what; `build_congr` says that a
configuration depends on nothing else, so that a field which does not have its type might as well
be absent.

The rule that a field is checked by may be laxer than that: the flags and the logos may have any
value. For every other field that is read, the rule ensures the type, so that whatever
the configuration ignores is warned of, unless the validation ended before.
-/
namespace MediaNode.Stream

/-- What a field is read as. -/
inductive ValueType where
  | boolean
  | integer
  | natural
  | number
  | text
  | object
deriving DecidableEq

/-- Whether a value has a type. -/
def ValueType.fits : ValueType → Json → Bool
  | .boolean, value => value.asBool.isSome
  | .integer, value => value.asInt64.isSome
  | .natural, value => value.asNat.isSome
  | .number, value => value.asDouble.isSome
  | .text, value => value.asStr.isSome
  | .object, value => value.isObj

/-- What is read for every kind. -/
def commonFields : List (String × ValueType) :=
  [("restart_attempts", .integer), ("auto_exit_time", .natural), ("have_video", .boolean),
   ("have_audio", .boolean), ("have_subtitle", .boolean), ("audio_select", .integer),
   ("loop", .boolean)]

/-- What is read for a stream that is passed on. -/
def relayFields : List (String × ValueType) := [("video_parser", .text), ("audio_parser", .text)]

/-- What is read for a stream that is encoded anew. -/
def encodeFields : List (String × ValueType) :=
  [("relay_audio", .boolean), ("relay_video", .boolean), ("deinterlace", .boolean),
   ("framerate", .integer), ("volume", .number), ("video_codec", .text), ("audio_codec", .text),
   ("audio_channels", .integer), ("size", .text), ("video_bitrate", .integer),
   ("audio_bitrate", .integer), ("logo", .object), ("rsvg_logo", .object),
   ("aspect_ratio", .text), ("decklink_video_mode", .integer)]

/-- What is read for a stream of a library. -/
def libraryFields : List (String × ValueType) := [("cleanup_ts", .boolean)]

/-- What is read for a recorder. -/
def recorderFields : List (String × ValueType) := [("timeshift_chunk_duration", .integer)]

/-- The optional fields that are read for a kind, each with what it is read as. The parameters of
encoders are not among them. -/
def fieldsRead : Kind → List (String × ValueType)
  | .proxy | .vodProxy => []
  | .screen => commonFields
  | .relay | .timeshiftPlayer | .testLife | .codRelay => commonFields ++ relayFields
  | .vodRelay => commonFields ++ relayFields ++ libraryFields
  | .encode | .codEncode | .event => commonFields ++ encodeFields
  | .vodEncode => commonFields ++ encodeFields ++ libraryFields
  | .timeshiftRecorder | .catchup => commonFields ++ relayFields ++ recorderFields

/-- The fields that may have any value. -/
def freeFields : List String :=
  ["have_video", "have_audio", "have_subtitle", "loop", "relay_audio", "relay_video",
   "deinterlace", "logo", "rsvg_logo"]

/-- All that is read for any kind. -/
def allFields : List (String × ValueType) :=
  commonFields ++ relayFields ++ encodeFields ++ libraryFields ++ recorderFields

theorem fieldsRead_subset (kind : Kind) : fieldsRead kind ⊆ allFields := by
  cases kind <;> decide

/-- The value of a field, if it has the type that it is read as. -/
def Spec.reading (spec : Spec) (field : String × ValueType) : Option Json :=
  (spec.get? field.1).filter field.2.fits

section
variable {spec : Spec} {key : String}

/-- What is read from a field comes from a value of its type. -/
theorem Spec.bind_reading {α : Type} (type : ValueType) (read : Json → Option α)
    (typed : ∀ value, (read value).isSome = true → type.fits value = true) :
    (spec.get? key).bind read = (spec.reading (key, type)).bind read := by
  simp only [Spec.reading]
  cases spec.get? key with
  | none => rfl
  | some value =>
    cases fits : type.fits value with
    | true => simp [Option.filter, fits]
    | false =>
      have unread : read value = none := by
        rw [← Option.not_isSome_iff_eq_none]
        intro found
        rw [typed value found] at fits
        cases fits
      simp [Option.filter, fits, unread]

theorem Spec.bool?_eq : spec.bool? key = (spec.reading (key, .boolean)).bind Json.asBool :=
  bind_reading .boolean Json.asBool fun _ found => found

theorem Spec.int?_eq : spec.int? key = (spec.reading (key, .integer)).bind Json.asInt64 :=
  bind_reading .integer Json.asInt64 fun _ found => found

theorem Spec.double?_eq : spec.double? key = (spec.reading (key, .number)).bind Json.asDouble :=
  bind_reading .number Json.asDouble fun _ found => found

theorem Spec.str?_eq : spec.str? key = (spec.reading (key, .text)).bind Json.asStr :=
  bind_reading .text Json.asStr fun _ found => found

theorem logo?_eq : logo? spec key = (spec.reading (key, .object)).bind fun value =>
    if value.isObj then (logoOf value).toOption else none :=
  Spec.bind_reading .object _ fun value found => by
    cases object : value.isObj with
    | true => exact object
    | false => simp [object] at found

end

/-- That two specs have the same in fields of certain types. -/
def SameReadings (fields : List (String × ValueType)) (spec other : Spec) : Prop :=
  ∀ field ∈ fields, spec.reading field = other.reading field

/-- That two specs have the same in what is read apart from these fields. -/
structure SameFrame (spec other : Spec) : Prop where
  type : spec.get? "type" = other.get? "type"
  input : spec.get? "input" = other.get? "input"
  output : spec.get? "output" = other.get? "output"
  encoderArgs : encoderArgs spec = encoderArgs other
  encoderStrArgs : encoderStrArgs spec = encoderStrArgs other

section
variable {spec other : Spec} {kind : Kind} {av : Av} {fields : List (String × ValueType)}

theorem SameReadings.eq (same : SameReadings fields spec other) {field : String × ValueType}
    (member : field ∈ fields) : spec.reading field = other.reading field := same field member

theorem SameReadings.mono {fewer : List (String × ValueType)}
    (same : SameReadings fields spec other) (among : fewer ⊆ fields) :
    SameReadings fewer spec other := fun field member => same field (among member)

/-- A stream that is passed on depends on its parsers. -/
theorem relayOf_congr (same : SameReadings relayFields spec other) :
    relayOf spec av = relayOf other av := by
  simp (disch := decide) only [relayOf, Spec.str?_eq, same.eq]

/-- A stream that is encoded anew depends on its own fields and on the parameters of encoders. -/
theorem encodeOf_congr (frame : SameFrame spec other)
    (same : SameReadings encodeFields spec other) : encodeOf spec av = encodeOf other av := by
  simp (disch := decide) only [encodeOf, nat32?, Spec.bool?_eq, Spec.int?_eq, Spec.double?_eq,
    Spec.str?_eq, logo?_eq, frame.encoderArgs, frame.encoderStrArgs, same.eq]

theorem positiveField_congr {key : String} (initial : Nat) (refuse : Int → ConfigError)
    (same : spec.reading (key, .integer) = other.reading (key, .integer)) :
    positiveField spec key initial refuse = positiveField other key initial refuse := by
  simp only [positiveField, Spec.int?_eq, same]

/-- The configuration of a kind depends on what is read for the kind. -/
theorem configOf_congr (own : av.base.kind = kind) (frame : SameFrame spec other)
    (same : SameReadings (fieldsRead kind) spec other) : configOf spec av = configOf other av := by
  unfold configOf
  rw [own]
  cases kind with
  | proxy | vodProxy | screen => rfl
  | relay | timeshiftPlayer | testLife | codRelay =>
    simp only [relayOf_congr (same.mono (by decide))]
  | vodRelay =>
    simp (disch := decide) only [relayOf_congr (same.mono (by decide)), Spec.bool?_eq, same.eq]
  | encode | codEncode | event =>
    simp only [encodeOf_congr frame (same.mono (by decide))]
  | vodEncode =>
    simp (disch := decide) only [encodeOf_congr frame (same.mono (by decide)), Spec.bool?_eq,
      same.eq]
  | timeshiftRecorder | catchup =>
    simp only [relayOf_congr (same.mono (by decide)),
      positiveField_congr _ _ (same ("timeshift_chunk_duration", .integer) (by decide))]

/-- The seconds until a stream ends by itself are read as a natural number. -/
theorem ttlOf_eq : ttlOf spec =
    ((spec.reading ("auto_exit_time", .natural)).bind Json.asNat).filter (0 < ·) := by
  rw [ttlOf, Spec.bind_reading .natural Json.asNat fun _ found => found]

/-- What every stream has depends on the fields that are read for every kind. -/
theorem avOf_congr {input : List Input} {output : List Output} {attempts : Nat}
    (same : SameReadings commonFields spec other) :
    avOf spec kind input output attempts = avOf other kind input output attempts := by
  simp (disch := decide) only [avOf, ttlOf_eq, Spec.bool?_eq, Spec.int?_eq, same.eq]

/-- The whole configuration depends on the frame and on what is read for the kind. -/
theorem build_congr (frame : SameFrame spec other)
    (same : ∀ kind, spec.kind? = some kind → SameReadings (fieldsRead kind) spec other) :
    build spec = build other := by
  have type : spec.int? "type" = other.int? "type" := by rw [Spec.int?, frame.type, Spec.int?]
  have alike {cause : ConfigError} (refuses : Refuses spec cause) (also : Refuses other cause) :
      build spec = build other := by rw [build_of_refuses refuses, build_of_refuses also]
  cases number : spec.int? "type" with
  | none => exact alike (.untyped number) (.untyped (type ▸ number))
  | some n =>
    cases known : Kind.ofInt? n with
    | none =>
      have outside := Kind.ofInt?_eq_none_iff.1 known
      exact alike (.unknown n number outside) (.unknown n (type ▸ number) outside)
    | some kind =>
      have same : SameReadings (fieldsRead kind) spec other :=
        same kind (by rw [Spec.kind?, number]; exact known)
      rw [Kind.number_of_ofInt? known] at number
      cases proxy : kind.isProxy with
      | true =>
        have passes := Kind.isProxy_iff.1 proxy
        exact alike (.proxy kind number passes) (.proxy kind (type ▸ number) passes)
      | false =>
        have common : SameReadings commonFields spec other :=
          same.mono (by revert proxy; cases kind <;> decide)
        have attempts := positiveField_congr defaultRestartAttempts .restartAttempts
          (common ("restart_attempts", .integer) (by decide))
        have configs input output n : configOf spec (avOf spec kind input output n) =
            configOf other (avOf other kind input output n) := by
          rw [avOf_congr common, configOf_congr rfl frame same]
        rw [build_of_works ⟨number, proxy⟩, build_of_works ⟨type ▸ number, proxy⟩, readInput,
          frame.input, readOutput, frame.output, attempts]
        simp only [configs, readInput, readOutput]

end

/-- The spec without a field. -/
def Spec.without (spec : Spec) (key : String) : Spec := ⟨spec.members.filter (·.fst ≠ key)⟩

section
variable {spec : Spec} {key : String}

/-- Every other field is still there. -/
theorem Spec.get?_without (asked : String) :
    (spec.without key).get? asked = if asked = key then none else spec.get? asked := by
  obtain ⟨members⟩ := spec
  simp only [get?, without]
  induction members with
  | nil => simp [Json.lookup]
  | cons member rest inductionHypothesis =>
    obtain ⟨k, v⟩ := member
    by_cases gone : k = key
    · rw [List.filter_cons_of_neg (by simpa using gone), inductionHypothesis]
      by_cases own : asked = key
      · rw [if_pos own, if_pos own]
      · rw [if_neg own, if_neg own, Json.lookup, if_neg fun same => own (same.symm.trans gone)]
    · rw [List.filter_cons_of_pos (by simpa using gone), Json.lookup, Json.lookup,
        inductionHypothesis]
      by_cases found : k = asked
      · rw [if_pos found, if_pos found, if_neg fun own => gone (found.trans own)]
      · rw [if_neg found, if_neg found]

/-- A field that is no parameter of an encoder takes none away. -/
theorem filterMap_without {α : Type} {read : String × Json → Option α}
    (unread : ∀ value, read (key, value) = none) :
    (spec.without key).members.filterMap read = spec.members.filterMap read := by
  rw [Spec.without, List.filterMap_filter]
  refine List.filterMap_congr fun member _ => ?_
  obtain ⟨k, v⟩ := member
  by_cases gone : k = key
  · rw [gone, unread]
    simp
  · simp [gone]

/-- Taking away a field that is read leaves the frame. -/
theorem sameFrame_without {type : ValueType} (read : (key, type) ∈ allFields) :
    SameFrame spec (spec.without key) := by
  have outside : ∀ field ∈ allFields, field.1 ≠ "type" ∧ field.1 ≠ "input" ∧
      field.1 ≠ "output" ∧ isEncoderField field.1 = false := by decide
  obtain ⟨noType, noInput, noOutput, plain⟩ := outside (key, type) read
  constructor
  · rw [Spec.get?_without, if_neg noType.symm]
  · rw [Spec.get?_without, if_neg noInput.symm]
  · rw [Spec.get?_without, if_neg noOutput.symm]
  · exact (filterMap_without fun value => by simp [plain]).symm
  · exact (filterMap_without fun value => by simp [plain]).symm

/-- Every field is read as one type. -/
theorem type_unique {first second : ValueType} (one : (key, first) ∈ allFields)
    (other : (key, second) ∈ allFields) : first = second := by
  have unique : ∀ field ∈ allFields, ∀ again ∈ allFields,
      field.1 = again.1 → field.2 = again.2 := by decide
  exact unique (key, first) one (key, second) other rfl

/-- A field that does not have its type might as well be absent. -/
theorem build_without {type : ValueType} (read : (key, type) ∈ allFields)
    (misfit : ∀ value, spec.get? key = some value → type.fits value = false) :
    build (spec.without key) = build spec := by
  refine (build_congr (sameFrame_without read) fun kind _ field member => ?_).symm
  obtain ⟨name, other⟩ := field
  simp only [Spec.reading, Spec.get?_without]
  by_cases own : name = key
  · subst own
    obtain rfl := type_unique read (fieldsRead_subset kind member)
    cases present : spec.get? name with
    | none => simp
    | some value => simp [Option.filter, misfit value present]
  · rw [if_neg own]

end

/-- Whether every value that a rule accepts has a type. -/
def Rule.ensures : Rule → ValueType → Bool
  | .intRange min _, .natural => decide (0 ≤ min)
  | .intRange _ _, .integer | .intSet _, .integer | .integer, .integer => true
  | .floatRange _ _, .number => true
  | .strSet _, .text | .path, .text | .nonEmptyString, .text | .size, .text | .ratio, .text => true
  | .bool, .boolean => true
  | _, _ => false

/-- What holds of a value in an option needs the value. -/
theorem isSome_of_holds {α : Type} {value : Option α} {property : α → Bool}
    (held : holds value property = true) : value.isSome = true := by
  cases value with
  | none => cases held
  | some x => rfl

/-- An integer of 64 bits that is not negative is a natural number. -/
theorem isSome_asNat {value : Json} {property : Int → Bool}
    (positive : ∀ n, property n = true → 0 ≤ n)
    (held : holds value.asInt64 property = true) : value.asNat.isSome = true := by
  cases value with
  | int n =>
    simp only [Json.asInt64] at held
    split at held
    · simp only [Json.asNat, if_pos (positive n held), Option.isSome_some]
    · cases held
  | _ => cases held

/-- What a rule accepts has the types that it ensures. -/
theorem Rule.fits_of_accepts {rule : Rule} {type : ValueType} {value : Json}
    (ensured : rule.ensures type = true) (accepted : rule.accepts value = true) :
    type.fits value = true := by
  cases rule with
  | intRange min max =>
    cases type with
    | integer => exact isSome_of_holds accepted
    | natural =>
      have least : 0 ≤ min := of_decide_eq_true ensured
      refine isSome_asNat (fun n inside => ?_) accepted
      simp only [Bool.and_eq_true, decide_eq_true_eq] at inside
      omega
    | _ => cases ensured
  | floatRange min max =>
    cases type with
    | number => exact isSome_of_holds accepted
    | _ => cases ensured
  | intSet allowed =>
    cases type with
    | integer => exact isSome_of_holds accepted
    | _ => cases ensured
  | integer =>
    cases type with
    | integer => exact accepted
    | _ => cases ensured
  | bool =>
    cases type with
    | boolean => exact accepted
    | _ => cases ensured
  | strSet allowed | path | nonEmptyString | size =>
    cases type with
    | text => exact isSome_of_holds accepted
    | _ => cases ensured
  | ratio =>
    cases type with
    | text => exact Option.isSome_of_isSome_bind (isSome_of_holds accepted)
    | _ => cases ensured
  | array | any => cases ensured

/-- The rule of a field that is read ensures what it is read as and is not fatal, unless the
field may have any value. -/
theorem rule_ensures {key : String} {type : ValueType} (read : (key, type) ∈ allFields)
    (checked : key ∉ freeFields) :
    ∃ rule, FieldTable.builtin.get? key = some ⟨rule, .warn⟩ ∧ rule.ensures type = true := by
  have ruled : ∀ field ∈ allFields, field.1 ∉ freeFields →
      (FieldTable.builtin.get? field.1).any (fun own =>
        own.rule.ensures field.2 && decide (own.severity = .warn)) = true := by
    decide +kernel
  obtain ⟨⟨rule, severity⟩, found, strict⟩ :=
    (Option.any_eq_true _ _).mp (ruled (key, type) read checked)
  simp only [Bool.and_eq_true, decide_eq_true_eq] at strict
  obtain ⟨ensured, rfl⟩ := strict
  exact ⟨rule, found, ensured⟩

/-- So a value that a configuration ignores deserves a warning. -/
theorem check_of_misfit {key : String} {type : ValueType} {value : Json}
    (read : (key, type) ∈ allFields) (checked : key ∉ freeFields)
    (misfit : type.fits value = false) :
    FieldTable.builtin.check key value = .ok (some (.invalid key value)) := by
  obtain ⟨rule, found, ensured⟩ := rule_ensures read checked
  have refused : rule.accepts value = false := by
    rw [Bool.eq_false_iff]
    intro accepted
    rw [Rule.fits_of_accepts ensured accepted] at misfit
    cases misfit
  simp only [FieldTable.check, found, FieldRule.evaluate, refused, ite_self]
  rfl

/-- What ends the validation of a spec that is built is a directory that is no path. -/
theorem ended_at_directory {spec : Spec} {config : Config} (built : build spec = .ok config)
    {cause : ValidationError} {value : Json} (present : spec.get? cause.key = some value)
    (broken : FieldTable.builtin.check cause.key value = .error cause) :
    cause.key = "timeshift_dir" ∧ ∃ text, value = .str text ∧ isValidPath text = false := by
  obtain ⟨rule, listed, refused, path⟩ := FieldTable.rule_of_check broken
  rcases FieldTable.fatal_of_mem_builtin listed with ⟨named, rfl⟩ | ⟨named, rfl⟩
  · -- the type of the stream is known, or nothing would have been built
    have number := (carries_of_build built).number
    rw [named] at present
    rw [Spec.int?, present, Option.bind_some] at number
    simp only [Rule.accepts, number, holds] at refused
    have bound : config.kind.number ≤ 13 := by cases config.kind <;> decide
    simp only [Bool.and_eq_false_iff, decide_eq_false_iff_not] at refused
    omega
  · refine ⟨named, ?_⟩
    cases value with
    | str text => exact ⟨text, rfl, refused⟩
    | _ => cases path rfl

/-- A configuration ignores a value that does not have the type that its field is read as, as if
the field were absent, and the validation warns of the value. The warning can only be missing where
the field may have any value, or where the validation ended before it came to the field, because
the directory of the time shifts is no path. -/
theorem ignored_warned {spec : Spec} (ordered : Json.OrderedMembers spec.members)
    {config : Config} (built : build spec = .ok config) {field : String} {type : ValueType}
    (read : (field, type) ∈ fieldsRead config.kind) {value : Json}
    (present : spec.get? field = some value) (misfit : type.fits value = false) :
    build (spec.without field) = .ok config ∧
      (field ∉ freeFields → Warning.invalid field value ∈ (validate spec).fst ∨
        ∃ text, spec.get? "timeshift_dir" = some (.str text) ∧ isValidPath text = false ∧
          "timeshift_dir" < field) := by
  have known := fieldsRead_subset config.kind read
  constructor
  · rw [build_without known fun other same => ?_, built]
    rw [present] at same
    cases same
    exact misfit
  · intro checked
    have deserved := check_of_misfit known checked misfit
    rcases FieldTable.warned_or_ended ordered present deserved with
      warned | ⟨cause, -, before, other, reached, broken⟩
    · exact .inl warned
    · obtain ⟨named, text, rfl, noPath⟩ := ended_at_directory built reached broken
      rw [named] at reached before
      exact .inr ⟨text, reached, noPath, before⟩

/-- The frame rate of an encoder is no number, and the validation says so. -/
theorem ignored_warned_framerate :
    let spec : Spec := ⟨[("framerate", .str "fast"), ("input", .arr []), ("output", .arr []),
      ("type", .int 3)]⟩
    ∃ config, build spec = .ok config ∧ build (spec.without "framerate") = .ok config ∧
      Warning.invalid "framerate" (.str "fast") ∈ (validate spec).fst := by
  intro spec
  have ordered : Json.OrderedMembers spec.members := by
    rw [Json.OrderedMembers]
    decide +kernel
  have kind : (build spec).map Config.kind = .ok .encode := by decide +kernel
  cases built : build spec with
  | error cause => simp [built, Except.map] at kind
  | ok config =>
    rw [built] at kind
    have encodes : config.kind = .encode := Except.ok.inj kind
    have read : ("framerate", ValueType.integer) ∈ fieldsRead config.kind := by
      rw [encodes]
      decide
    obtain ⟨same, warned⟩ := ignored_warned ordered built read rfl rfl
    refine ⟨config, rfl, same, ?_⟩
    rcases warned (by decide) with warned | ⟨text, present, -⟩
    · exact warned
    · cases present

/-- A spec for an encoder whose flags, logos and volume have all other types than they are read
as, and whose directory of time shifts is no path. -/
def mistyped : Spec :=
  ⟨[("deinterlace", .str "on"), ("have_audio", .int 1), ("have_subtitle", .str "no"),
    ("have_video", .str "yes"), ("id", .str "s1"), ("input", .arr []), ("logo", .str "a.png"),
    ("loop", .str "true"), ("output", .arr []), ("relay_audio", .int 0),
    ("relay_video", .arr []), ("rsvg_logo", .int 5), ("timeshift_dir", .str "rel"),
    ("type", .int 3), ("volume", .str "loud")]⟩

/-- It is built, and none of these values is warned of. -/
theorem mistyped_unwarned :
    (build mistyped).map Config.kind = .ok .encode ∧ (validate mistyped).fst = [] ∧
      ∀ field ∈ freeFields ++ ["volume"], ∃ type value,
        (field, type) ∈ fieldsRead .encode ∧ mistyped.get? field = some value ∧
          type.fits value = false := by
  have silent : (validate mistyped).fst.isEmpty = true := by decide +kernel
  have misfits : ∀ field ∈ freeFields ++ ["volume"], (fieldsRead .encode).any (fun (name, type) =>
      decide (name = field) && (mistyped.get? field).any (!type.fits ·)) = true := by
    decide +kernel
  refine ⟨by decide +kernel, List.isEmpty_iff.mp silent, fun field listed => ?_⟩
  obtain ⟨⟨name, type⟩, read, misfit⟩ := List.any_eq_true.mp (misfits field listed)
  simp only [Bool.and_eq_true, decide_eq_true_eq] at misfit
  obtain ⟨rfl, misfit⟩ := misfit
  obtain ⟨value, present, misfit⟩ := (Option.any_eq_true _ _).mp misfit
  exact ⟨type, value, read, present, by simpa using misfit⟩

end MediaNode.Stream
