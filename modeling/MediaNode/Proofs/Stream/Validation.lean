import MediaNode.Proofs.Json.Members
import MediaNode.Proofs.Text.Bytes
import MediaNode.Stream.FieldTable

/-!
# How far a validation comes

A validation goes through the fields in order and ends at the first that breaks a fatal rule. Up to
there it warns of every field that deserves it, and of nothing behind. Since the fields are in the
order of their keys, a warning that is missing is explained by a key: the one the validation ended
at comes before. `Judges` says the same without the order in which the fields are gone through.
-/
namespace MediaNode.Stream

/-- The field that a warning is about. -/
def Warning.key : Warning → String
  | .unknown key => key
  | .invalid key _ => key

namespace FieldTable

variable {table : FieldTable} {members : List (String × Json)}

/-- The warning that a field deserves. -/
def warningOf (table : FieldTable) (member : String × Json) : Option Warning :=
  match table.check member.1 member.2 with
  | .ok warning => warning
  | .error _ => none

/-- How far a validation comes: to the end, or to the first field that breaks a fatal rule. -/
inductive Reaches (table : FieldTable) (members : List (String × Json)) :
    List Warning × Except ValidationError Unit → Prop where
  | whole (passed : ∀ member ∈ members, ∃ warning, table.check member.1 member.2 = .ok warning) :
      Reaches table members (members.filterMap table.warningOf, .ok ())
  | fatal (before : List (String × Json)) (key : String) (value : Json)
      (after : List (String × Json)) (parts : members = before ++ (key, value) :: after)
      (passed : ∀ member ∈ before, ∃ warning, table.check member.1 member.2 = .ok warning)
      (cause : ValidationError) (broken : table.check key value = .error cause) :
      Reaches table members (before.filterMap table.warningOf, .error cause)

/-- A field that passes comes with its warning, and the validation goes on behind it. -/
theorem Reaches.cons {member : String × Json} {warning : Option Warning}
    {result : List Warning × Except ValidationError Unit}
    (first : table.check member.1 member.2 = .ok warning) (rest : table.Reaches members result) :
    table.Reaches (member :: members) (warning.toList ++ result.fst, result.snd) := by
  have own : table.warningOf member = warning := by simp only [warningOf, first]
  have joined (others : List (String × Json)) :
      (member :: others).filterMap table.warningOf =
        warning.toList ++ others.filterMap table.warningOf := by
    cases warning <;> simp [own]
  cases rest with
  | whole passed =>
    rw [← joined]
    exact .whole (List.forall_mem_cons.mpr ⟨⟨warning, first⟩, passed⟩)
  | fatal before key value after parts passed cause broken =>
    rw [← joined]
    exact .fatal (member :: before) key value after (by rw [parts, List.cons_append])
      (List.forall_mem_cons.mpr ⟨⟨warning, first⟩, passed⟩) cause broken

/-- Every validation comes as far as that. -/
theorem checkAll_reaches (table : FieldTable) (members : List (String × Json)) :
    table.Reaches members (table.checkAll members) := by
  induction members with
  | nil => exact .whole fun member absent => absurd absent List.not_mem_nil
  | cons member rest inductionHypothesis =>
    cases checked : table.check member.1 member.2 with
    | error cause =>
      simp only [checkAll, checked]
      exact .fatal [] member.1 member.2 rest rfl
        (fun member absent => absurd absent List.not_mem_nil) cause checked
    | ok warning =>
      simp only [checkAll, checked]
      exact inductionHypothesis.cons checked

/-- A validation ends at a field when its value is fatal, and names both. -/
theorem check_eq_error_iff {key : String} {value : Json} {cause : ValidationError} :
    table.check key value = .error cause ↔
      (∃ field, table.get? key = some field ∧ field.evaluate value = .fatal) ∧
        cause = { key, value := displayValue value } := by
  unfold check
  cases table.get? key with
  | none => simp
  | some field => cases judged : field.evaluate value <;> simp [judged, eq_comm]

/-- An error names the field that it is about. -/
theorem key_of_check {key : String} {value : Json} {cause : ValidationError}
    (broken : table.check key value = .error cause) : cause.key = key := by
  rw [(check_eq_error_iff.mp broken).2]

/-- A value is fatal when its rule is and refuses it, but for a path that is no string. -/
theorem evaluate_eq_fatal_iff {field : FieldRule} {value : Json} :
    field.evaluate value = .fatal ↔
      field.severity = .fatal ∧ field.rule.accepts value = false ∧
        (field.rule = .path → value.isStr = true) := by
  obtain ⟨rule, severity⟩ := field
  unfold FieldRule.evaluate
  cases accepted : rule.accepts value <;> cases severity <;> by_cases path : rule = .path <;>
    cases value.isStr <;> simp [path]

/-- A field that is known is listed. -/
theorem mem_of_get? {key : String} {field : FieldRule} (found : table.get? key = some field) :
    (key, field) ∈ table.rules := by
  obtain ⟨before, later, parts, -⟩ := List.lookup_eq_some_iff.mp found
  rw [parts]
  exact List.mem_append_right _ List.mem_cons_self

/-- Only a value that breaks a fatal rule ends a validation, and a path only if it is a string. -/
theorem rule_of_check {key : String} {value : Json} {cause : ValidationError}
    (broken : table.check key value = .error cause) :
    ∃ rule, (key, ⟨rule, .fatal⟩) ∈ table.rules ∧ rule.accepts value = false ∧
      (rule = .path → value.isStr = true) := by
  obtain ⟨⟨⟨rule, severity⟩, found, fatal⟩, -⟩ := check_eq_error_iff.mp broken
  obtain ⟨rfl, refused, string⟩ := evaluate_eq_fatal_iff.mp fatal
  exact ⟨rule, mem_of_get? found, refused, string⟩

/-- A field that deserves a warning gets it, or the validation ended at a field before it. -/
theorem warned_or_ended {spec : Spec} (ordered : Json.OrderedMembers spec.members) {key : String}
    {value : Json} {warning : Warning} (present : spec.get? key = some value)
    (deserved : table.check key value = .ok (some warning)) :
    warning ∈ (table.validate spec).fst ∨ ∃ cause, (table.validate spec).snd = .error cause ∧
      cause.key < key ∧ ∃ other, spec.get? cause.key = some other ∧
        table.check cause.key other = .error cause := by
  have member : (key, value) ∈ spec.members := Json.mem_of_lookup present
  have own : table.warningOf (key, value) = some warning := by simp only [warningOf, deserved]
  have reaches := table.checkAll_reaches spec.members
  rw [validate]
  generalize table.checkAll spec.members = result at reaches ⊢
  cases reaches with
  | whole passed => exact .inl (List.mem_filterMap.mpr ⟨_, member, own⟩)
  | fatal before last broken after parts passed cause failed =>
    rw [parts] at member
    rcases List.mem_append.mp member with earlier | later
    · exact .inl (List.mem_filterMap.mpr ⟨_, earlier, own⟩)
    · right
      have named : cause.key = last := key_of_check failed
      subst named
      have reached : (cause.key, broken) ∈ spec.members := by
        rw [parts]
        exact List.mem_append_right _ List.mem_cons_self
      have found : spec.get? cause.key = some broken :=
        (Json.lookup_eq_some_iff ordered.distinct).mpr reached
      refine ⟨cause, rfl, ?_, broken, found, failed⟩
      rcases List.mem_cons.mp later with same | behind
      · cases same
        rw [deserved] at failed
        cases failed
      · rw [Json.OrderedMembers, parts, List.map_append, List.map_cons] at ordered
        have tail := (List.pairwise_append.mp ordered).2.1
        exact (List.pairwise_cons.mp tail).1 key (List.mem_map_of_mem behind)

/-- Two of the known fields have fatal rules. -/
theorem fatal_of_mem_builtin {key : String} {rule : Rule}
    (listed : (key, ⟨rule, .fatal⟩) ∈ builtin.rules) :
    key = "type" ∧ rule = .intRange 0 13 ∨ key = "timeshift_dir" ∧ rule = .path := by
  have fatal : ∀ entry ∈ builtin.rules, entry.2.severity = .fatal →
      entry.1 = "type" ∧ entry.2.rule = .intRange 0 13 ∨
        entry.1 = "timeshift_dir" ∧ entry.2.rule = .path := by
    decide +kernel
  exact fatal _ listed rfl

section
variable {spec : Spec}

/-- That a field of a spec is known and its value breaks a fatal rule. -/
def Breaks (table : FieldTable) (spec : Spec) (key : String) (value : Json) : Prop :=
  spec.get? key = some value ∧
    ∃ field, table.get? key = some field ∧ field.evaluate value = .fatal

/-- The warning that a field deserves: it is unknown, or its value is invalid. -/
inductive Deserves (table : FieldTable) : String × Json → Warning → Prop where
  | unknown {key : String} {value : Json} (absent : table.get? key = none) :
      Deserves table (key, value) (.unknown key)
  | invalid {key : String} {value : Json} {field : FieldRule} (known : table.get? key = some field)
      (bad : field.evaluate value = .invalid) : Deserves table (key, value) (.invalid key value)

/-- What a validation has to say about a spec, in the order of the bytes of the keys. -/
structure Judges (table : FieldTable) (spec : Spec)
    (result : List Warning × Except ValidationError Unit) : Prop where
  /-- It ends with an error exactly when a field breaks a fatal rule. -/
  accepts : result.snd = .ok () ↔ ∀ key value, ¬ table.Breaks spec key value
  /-- The error names the first such field and its value. -/
  refuses (cause : ValidationError) : result.snd = .error cause ↔
    (∃ value, table.Breaks spec cause.key value ∧ cause.value = displayValue value) ∧
      ∀ key value, table.Breaks spec key value →
        key = cause.key ∨ Text.bytes cause.key < Text.bytes key
  /-- It warns of the fields in front of the one it ended at that deserve it. -/
  warns (warning : Warning) : warning ∈ result.fst ↔
    ∃ member ∈ spec.members, table.Deserves member warning ∧
      ∀ cause, result.snd = .error cause → Text.bytes member.1 < Text.bytes cause.key
  /-- The warnings are in order, and no field has two. -/
  sorted : (result.fst.map Warning.key).Pairwise fun first second =>
    Text.bytes first < Text.bytes second

/-- The warning of a field is the one that it deserves. -/
theorem warningOf_eq_some_iff {member : String × Json} {warning : Warning} :
    table.warningOf member = some warning ↔ table.Deserves member warning := by
  obtain ⟨key, value⟩ := member
  unfold warningOf check
  constructor
  · intro warned
    cases known : table.get? key with
    | none =>
      simp only [known, Option.some.injEq] at warned
      exact warned ▸ .unknown known
    | some field =>
      cases judged : field.evaluate value <;> simp [known, judged] at warned
      exact warned ▸ .invalid known judged
  · rintro (absent | ⟨known, bad⟩)
    · simp only [absent]
    · simp only [known, bad]

/-- A field deserves a warning about itself. -/
theorem Deserves.key {member : String × Json} {warning : Warning}
    (deserves : table.Deserves member warning) : warning.key = member.1 := by
  cases deserves <;> rfl

/-- The keys of the warnings are some of the keys, in their order. -/
theorem keys_sublist (members : List (String × Json)) :
    ((members.filterMap table.warningOf).map Warning.key).Sublist (members.map Prod.fst) := by
  induction members with
  | nil => exact List.Sublist.slnil
  | cons member rest inductionHypothesis =>
    cases warned : table.warningOf member with
    | none =>
      rw [List.filterMap_cons_none warned]
      exact inductionHypothesis.cons _
    | some warning =>
      rw [List.filterMap_cons_some warned, List.map_cons, List.map_cons,
        (warningOf_eq_some_iff.mp warned).key]
      exact inductionHypothesis.cons_cons _

/-- A field that passes does not break a fatal rule. -/
theorem not_breaks_of_passed {member : String × Json}
    (passed : ∃ warning, table.check member.1 member.2 = .ok warning) :
    ¬ table.Breaks spec member.1 member.2 := by
  rintro ⟨-, fatal⟩
  obtain ⟨warning, passed⟩ := passed
  rw [check_eq_error_iff.mpr ⟨fatal, rfl⟩] at passed
  cases passed

/-- A validation that comes to the end judges the spec. -/
theorem judges_of_whole (ordered : Json.OrderedMembers spec.members)
    (passed : ∀ member ∈ spec.members, ∃ warning, table.check member.1 member.2 = .ok warning) :
    table.Judges spec (spec.members.filterMap table.warningOf, .ok ()) := by
  have whole (key : String) (value : Json) : ¬ table.Breaks spec key value := fun breaks =>
    not_breaks_of_passed (passed (key, value) (Json.mem_of_lookup breaks.1)) breaks
  constructor
  case accepts => exact iff_of_true rfl whole
  case refuses =>
    intro cause
    refine iff_of_false (fun same => ?_) fun ⟨⟨value, breaks, _⟩, _⟩ => whole _ _ breaks
    cases same
  case warns => simp [List.mem_filterMap, warningOf_eq_some_iff]
  case sorted =>
    exact (ordered.sublist (keys_sublist _)).imp Text.bytes_lt_bytes_iff.mpr

/-- A validation that ends at a field judges the spec. -/
theorem judges_of_fatal (ordered : Json.OrderedMembers spec.members)
    {before after : List (String × Json)} {key : String} {value : Json}
    (parts : spec.members = before ++ (key, value) :: after)
    (passed : ∀ member ∈ before, ∃ warning, table.check member.1 member.2 = .ok warning)
    (fatal : ∃ field, table.get? key = some field ∧ field.evaluate value = .fatal) :
    table.Judges spec
      (before.filterMap table.warningOf, .error { key, value := displayValue value }) := by
  have split := ordered
  rw [Json.OrderedMembers, parts, List.map_append, List.map_cons, List.pairwise_append,
    List.pairwise_cons] at split
  obtain ⟨-, ⟨tail, -⟩, apart⟩ := split
  have inFront : ∀ member ∈ before, member.1 < key := fun member early =>
    apart _ (List.mem_map_of_mem early) key List.mem_cons_self
  have behind : ∀ member ∈ after, key < member.1 := fun member late =>
    tail _ (List.mem_map_of_mem late)
  have place {member : String × Json} (present : member ∈ spec.members) :
      member ∈ before ∨ member = (key, value) ∨ member ∈ after := by
    rwa [parts, List.mem_append, List.mem_cons] at present
  have present : spec.get? key = some value :=
    (Json.lookup_eq_some_iff ordered.distinct).mpr (by simp [parts])
  have breaks : table.Breaks spec key value := ⟨present, fatal⟩
  -- whatever else breaks a fatal rule stands behind
  have least {other : String} {found : Json} (also : table.Breaks spec other found) :
      other = key ∧ found = value ∨ key < other := by
    rcases place (Json.mem_of_lookup also.1) with early | same | late
    · exact absurd also (not_breaks_of_passed (passed _ early))
    · exact .inl (Prod.mk.inj same)
    · exact .inr (behind _ late)
  constructor
  case accepts => exact iff_of_false (fun same => by cases same) fun none => none key value breaks
  case refuses =>
    intro cause
    constructor
    · intro same
      cases same
      refine ⟨⟨value, breaks, rfl⟩, fun other found also => ?_⟩
      exact (least also).imp And.left Text.bytes_lt_bytes_iff.mpr
    · rintro ⟨⟨found, also, shown⟩, smallest⟩
      obtain ⟨other, text⟩ := cause
      simp only at also shown smallest
      rcases least also with ⟨rfl, rfl⟩ | later
      · rw [shown]
      · rcases smallest key value breaks with rfl | earlier
        · exact absurd later (lt_irrefl _)
        · exact absurd later (lt_asymm (Text.bytes_lt_bytes_iff.mp earlier))
  case warns =>
    intro warning
    simp only [List.mem_filterMap, warningOf_eq_some_iff, Text.bytes_lt_bytes_iff]
    constructor
    · rintro ⟨member, early, deserves⟩
      refine ⟨member, by simp [parts, early], deserves, fun cause same => ?_⟩
      cases same
      exact inFront member early
    · rintro ⟨member, listed, deserves, early⟩
      replace early : member.1 < key := early _ rfl
      rcases place listed with inside | rfl | late
      · exact ⟨member, inside, deserves⟩
      · exact absurd early (lt_irrefl _)
      · exact absurd early (lt_asymm (behind member late))
  case sorted =>
    have part : before.Sublist spec.members := by
      rw [parts]
      exact List.sublist_append_left _ _
    exact (ordered.sublist ((keys_sublist before).trans (part.map _))).imp
      Text.bytes_lt_bytes_iff.mpr

/-- Every validation judges its spec. -/
theorem validate_judges (table : FieldTable) (ordered : Json.OrderedMembers spec.members) :
    table.Judges spec (table.validate spec) := by
  have reaches := table.checkAll_reaches spec.members
  rw [validate]
  generalize table.checkAll spec.members = result at reaches ⊢
  cases reaches with
  | whole passed => exact judges_of_whole ordered passed
  | fatal before key value after parts passed cause broken =>
    obtain ⟨fatal, rfl⟩ := check_eq_error_iff.mp broken
    exact judges_of_fatal ordered parts passed fatal

end
end FieldTable
end MediaNode.Stream
