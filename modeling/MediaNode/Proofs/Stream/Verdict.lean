import MediaNode.Proofs.Stream.Validation

/-!
# What is judged by the known fields

Two of the known fields have fatal rules, so that a spec is judged by its type and by its recording
directory alone. The type has to be the number of a kind. The directory may be anything but a string
that is no absolute path; it is looked at before the type.
-/
namespace MediaNode.Stream.FieldTable

variable {spec : Spec}

/-- That a value is the number of a kind. -/
def IsKindNumber (value : Json) : Prop := ∃ n : Int, value = .int n ∧ 0 ≤ n ∧ n ≤ 13

/-- That a text is an absolute path without a zero character. -/
def IsAbsolutePath (text : String) : Prop := text.toList.head? = some '/' ∧ '\x00' ∉ text.toList

/-- The rule for types accepts the numbers of kinds. -/
theorem accepts_kindNumber {value : Json} :
    (Rule.intRange 0 13).accepts value = true ↔ IsKindNumber value := by
  cases value with
  | int n =>
    simp only [Rule.accepts, Json.asInt64, IsKindNumber, Json.int.injEq, exists_eq_left']
    split
    · simp [holds]
    · simp only [holds, Bool.false_eq_true, false_iff, not_and]
      omega
  | _ => simp [Rule.accepts, Json.asInt64, holds, IsKindNumber]

/-- The rule for paths accepts the absolute ones. -/
theorem isValidPath_iff {text : String} : isValidPath text = true ↔ IsAbsolutePath text := by
  simp [isValidPath, Path.isAbsolute, IsAbsolutePath]

/-- The known fields that break fatal rules: a type that is the number of no kind, and a recording
directory that is a string and no absolute path. -/
theorem breaks_builtin_iff {key : String} {value : Json} :
    builtin.Breaks spec key value ↔ spec.get? key = some value ∧
      (key = "type" ∧ ¬ IsKindNumber value ∨
        key = "timeshift_dir" ∧ ∃ text, value = .str text ∧ ¬ IsAbsolutePath text) := by
  have type : builtin.get? "type" = some ⟨.intRange 0 13, .fatal⟩ := by decide +kernel
  have directory : builtin.get? "timeshift_dir" = some ⟨.path, .fatal⟩ := by decide +kernel
  refine and_congr_right fun _ => ⟨?_, ?_⟩
  · rintro ⟨⟨rule, severity⟩, found, fatal⟩
    obtain ⟨rfl, refused, string⟩ := evaluate_eq_fatal_iff.mp fatal
    rcases fatal_of_mem_builtin (mem_of_get? found) with ⟨named, rfl⟩ | ⟨named, rfl⟩
    · refine .inl ⟨named, fun number => ?_⟩
      rw [accepts_kindNumber.mpr number] at refused
      cases refused
    · refine .inr ⟨named, ?_⟩
      cases value with
      | str text =>
        refine ⟨text, rfl, fun path => ?_⟩
        rw [← isValidPath_iff] at path
        simp [Rule.accepts, Json.asStr, holds, path] at refused
      | _ => cases string rfl
  · rintro (⟨rfl, number⟩ | ⟨rfl, text, rfl, path⟩)
    · refine ⟨_, type, evaluate_eq_fatal_iff.mpr ⟨rfl, ?_, fun other => by cases other⟩⟩
      exact Bool.eq_false_iff.mpr (accepts_kindNumber.not.mpr number)
    · refine ⟨_, directory, evaluate_eq_fatal_iff.mpr ⟨rfl, ?_, fun _ => rfl⟩⟩
      exact Bool.eq_false_iff.mpr (isValidPath_iff.not.mpr path)

/-- That a spec has no type, or the number of a kind. -/
def FitType (spec : Spec) : Prop := ∀ value, spec.get? "type" = some value → IsKindNumber value

/-- That a spec has no recording directory, or one that is no string, or an absolute path. -/
def FitDirectory (spec : Spec) : Prop :=
  ∀ text, spec.get? "timeshift_dir" = some (.str text) → IsAbsolutePath text

/-- How a spec is judged. The recording directory is looked at first. -/
inductive Verdict (spec : Spec) : Except ValidationError Unit → Prop where
  | accepted (type : FitType spec) (directory : FitDirectory spec) : Verdict spec (.ok ())
  | directory (text : String) (present : spec.get? "timeshift_dir" = some (.str text))
      (unfit : ¬ IsAbsolutePath text) : Verdict spec (.error ⟨"timeshift_dir", text⟩)
  | type (directory : FitDirectory spec) (value : Json) (present : spec.get? "type" = some value)
      (unfit : ¬ IsKindNumber value) : Verdict spec (.error ⟨"type", displayValue value⟩)

/-- A spec has a verdict. -/
theorem exists_verdict (spec : Spec) : ∃ outcome, Verdict spec outcome := by
  by_cases directory : FitDirectory spec
  · by_cases type : FitType spec
    · exact ⟨_, .accepted type directory⟩
    · simp only [FitType, not_forall] at type
      obtain ⟨value, present, unfit⟩ := type
      exact ⟨_, .type directory value present unfit⟩
  · simp only [FitDirectory, not_forall] at directory
    obtain ⟨text, present, unfit⟩ := directory
    exact ⟨_, .directory text present unfit⟩

/-- The outcome of a validation is the verdict. -/
theorem outcome_of_verdict {result : List Warning × Except ValidationError Unit}
    (judges : builtin.Judges spec result) {outcome : Except ValidationError Unit}
    (verdict : Verdict spec outcome) : result.snd = outcome := by
  cases verdict with
  | accepted type directory =>
    refine judges.accepts.mpr fun key value breaks => ?_
    rcases breaks_builtin_iff.mp breaks with
      ⟨present, ⟨rfl, unfit⟩ | ⟨rfl, text, rfl, unfit⟩⟩
    · exact unfit (type value present)
    · exact unfit (directory text present)
  | directory text present unfit =>
    refine (judges.refuses _).mpr
      ⟨⟨_, breaks_builtin_iff.mpr ⟨present, .inr ⟨rfl, text, rfl, unfit⟩⟩, rfl⟩, ?_⟩
    intro key value breaks
    rcases (breaks_builtin_iff.mp breaks).2 with ⟨rfl, -⟩ | ⟨rfl, -⟩
    · exact .inr (Text.bytes_lt_bytes_iff.mpr (show "timeshift_dir" < "type" by decide))
    · exact .inl rfl
  | type directory value present unfit =>
    refine (judges.refuses _).mpr
      ⟨⟨_, breaks_builtin_iff.mpr ⟨present, .inl ⟨rfl, unfit⟩⟩, rfl⟩, ?_⟩
    intro key other breaks
    rcases breaks_builtin_iff.mp breaks with ⟨present, ⟨rfl, -⟩ | ⟨rfl, text, rfl, unfit⟩⟩
    · exact .inl rfl
    · exact absurd (directory text present) unfit

/-- A validation reads a spec up to the first field that breaks a fatal rule and warns of what it
passes; the known fields judge a spec by its type and its recording directory. -/
theorem validated_in_order (ordered : Json.OrderedMembers spec.members) :
    (∀ table : FieldTable, table.Judges spec (table.validate spec)) ∧
      ∀ outcome, (MediaNode.Stream.validate spec).snd = outcome ↔ Verdict spec outcome := by
  refine ⟨fun table => validate_judges table ordered, fun outcome => ⟨?_, ?_⟩⟩
  · rintro rfl
    obtain ⟨outcome, verdict⟩ := exists_verdict spec
    exact outcome_of_verdict (validate_judges builtin ordered) verdict ▸ verdict
  · exact outcome_of_verdict (validate_judges builtin ordered)

/-- An option nobody knows, a log level that does not exist, and both fatal fields. -/
theorem validated_in_order_unfit :
    let spec : Spec := ⟨[("future_knob", .bool true), ("log_level", .int 99),
      ("timeshift_dir", .str "rel"), ("type", .int 14), ("unknown", .null)]⟩
    Json.OrderedMembers spec.members ∧
      (MediaNode.Stream.validate spec).snd = .error ⟨"timeshift_dir", "rel"⟩ ∧
      Warning.unknown "future_knob" ∈ (MediaNode.Stream.validate spec).fst ∧
      Warning.unknown "unknown" ∉ (MediaNode.Stream.validate spec).fst := by
  intro spec
  have ordered : Json.OrderedMembers spec.members := by
    rw [Json.OrderedMembers]
    decide +kernel
  obtain ⟨judges, verdict⟩ := validated_in_order ordered
  have ended : (MediaNode.Stream.validate spec).snd = .error ⟨"timeshift_dir", "rel"⟩ :=
    (verdict _).mpr (.directory "rel" rfl fun path => absurd path.1 (by decide))
  refine ⟨ordered, ended, ((judges builtin).warns _).mpr ?_, fun warned => ?_⟩
  · refine ⟨("future_knob", .bool true), List.mem_cons_self, .unknown (by decide +kernel), ?_⟩
    intro cause same
    cases ended.symm.trans same
    exact Text.bytes_lt_bytes_iff.mpr (by decide)
  · obtain ⟨member, -, deserves, early⟩ := ((judges builtin).warns _).mp warned
    have before := Text.bytes_lt_bytes_iff.mp (early _ ended)
    rw [← deserves.key] at before
    exact absurd before (by decide)

end MediaNode.Stream.FieldTable
