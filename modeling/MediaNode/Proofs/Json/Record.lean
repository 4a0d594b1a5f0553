import MediaNode.Proofs.Json.Members
import MediaNode.Json.Shape

/-!
# When an object is taken for a record

The members of an object are checked in the order of their keys and then the fields are
looked for in the order of their declaration. Which cause is reported depends on these
orders; whether there is one does not. An object is taken exactly when every field by
itself accepts what the object has under its name. An array is taken when every field accepts
what stands at its place and no item is left over (`record_iff`).
-/
namespace MediaNode.Json

/-- What one field asks of the members of an object. -/
def Field.Accepts (field : Field) (members : List (String × Json)) : Prop :=
  match lookup field.name members with
  | none => field.absence ≠ .required
  | some value => field.check value = none

/-- No member is refused when each passes the check of its field. -/
theorem firstRefused_eq_none_iff {fields : List Field} {members : List (String × Json)} :
    firstRefused fields members = none ↔
      ∀ member ∈ members, ∀ field, fields.find? (·.name = member.1) = some field →
        field.check member.2 = none := by
  induction members with
  | nil => simp [firstRefused]
  | cons member rest inductionHypothesis =>
    obtain ⟨key, value⟩ := member
    rw [firstRefused, List.forall_mem_cons, ← inductionHypothesis]
    cases fields.find? (·.name = key) with
    | none => simp
    | some field => cases checked : field.check value <;> simp [checked]

/-- No field is missing when every required one is there. -/
theorem firstMissing_eq_none_iff {fields : List Field} {members : List (String × Json)} :
    firstMissing members fields = none ↔
      ∀ field ∈ fields, field.absence = .required → (lookup field.name members).isSome := by
  induction fields with
  | nil => simp [firstMissing]
  | cons field rest inductionHypothesis =>
    rw [firstMissing, List.forall_mem_cons, ← inductionHypothesis]
    by_cases required : field.absence = .required <;>
      cases lookup field.name members <;> simp [required]

/-- With different names, the field of a key is the one that has it as its name. -/
theorem find?_name_eq_some_iff {fields : List Field} (names : (fields.map Field.name).Nodup)
    {key : String} {field : Field} :
    fields.find? (·.name = key) = some field ↔ field ∈ fields ∧ field.name = key := by
  induction fields with
  | nil => simp
  | cons first rest inductionHypothesis =>
    rw [List.map_cons, List.nodup_cons] at names
    rw [List.find?_cons]
    by_cases named : first.name = key
    · have elsewhere (later : field ∈ rest) : field.name ≠ key := fun same =>
        names.1 (List.mem_map.2 ⟨field, later, same.trans named.symm⟩)
      simp only [named, decide_true, Option.some.injEq, List.mem_cons]
      constructor
      · rintro rfl
        exact ⟨.inl rfl, named⟩
      · rintro ⟨rfl | later, same⟩
        · rfl
        · exact absurd same (elsewhere later)
    · simp only [named, decide_false, List.mem_cons]
      rw [inductionHypothesis names.2]
      constructor
      · exact fun ⟨later, same⟩ => ⟨.inr later, same⟩
      · rintro ⟨rfl | later, same⟩
        · exact absurd same named
        · exact ⟨later, same⟩

/-- A field accepts members when it passes the value that it finds, and finds one if it has
to. -/
theorem accepts_iff {field : Field} {members : List (String × Json)} :
    field.Accepts members ↔
      (∀ value, lookup field.name members = some value → field.check value = none) ∧
        (field.absence = .required → (lookup field.name members).isSome) := by
  unfold Field.Accepts
  cases lookup field.name members <;> simp

/-- An object with different keys is taken exactly when every field accepts it, and then its
members are what is taken. -/
theorem record_obj_eq_ok_iff {type : RecordType} {members found : List (String × Json)}
    (distinct : (members.map Prod.fst).Nodup) (names : (type.fields.map Field.name).Nodup) :
    record type (.obj members) = .ok found ↔
      found = members ∧ ∀ field ∈ type.fields, field.Accepts members := by
  have accepted : (firstRefused type.fields members = none ∧
      firstMissing members type.fields = none) ↔ ∀ field ∈ type.fields, field.Accepts members := by
    simp only [firstRefused_eq_none_iff, firstMissing_eq_none_iff, accepts_iff,
      find?_name_eq_some_iff names]
    constructor
    · rintro ⟨passed, there⟩ field declared
      exact ⟨fun value present => passed _ (mem_of_lookup present) field ⟨declared, rfl⟩,
        there field declared⟩
    · intro accepts
      refine ⟨?_, fun field declared => (accepts field declared).2⟩
      rintro ⟨key, value⟩ present field ⟨declared, rfl⟩
      exact (accepts field declared).1 value ((lookup_eq_some_iff distinct).2 present)
  rw [← accepted, record]
  cases firstRefused type.fields members <;> cases firstMissing members type.fields <;>
    simp [eq_comm]

/-- The places of an array give its items to the fields and nothing else. -/
theorem mem_of_placeFields {type : RecordType} {count place : Nat} {fields : List Field}
    {items : List Json} {found : List (String × Json)}
    (placed : placeFields type count place fields items = .ok found) {member : String × Json}
    (present : member ∈ found) : member.2 ∈ items := by
  fun_induction placeFields type count place fields items generalizing found with
  | case1 =>
    cases placed
    cases present
  | case2 | case4 | case5 => cases placed
  | case3 place field fields defaulted inductionHypothesis =>
    exact inductionHypothesis placed present
  | case6 place field fields item items passed inductionHypothesis =>
    cases later : placeFields type count (place + 1) fields items with
    | error cause =>
      rw [later] at placed
      cases placed
    | ok others =>
      rw [later] at placed
      cases placed
      rcases List.mem_cons.1 present with rfl | present
      · exact List.mem_cons_self
      · exact List.mem_cons_of_mem _ (inductionHypothesis later present)

/-- The members of a record are those of an object or the items of an array. -/
theorem record_cases {type : RecordType} {value : Json} {found : List (String × Json)}
    (taken : record type value = .ok found) :
    value = .obj found ∨ ∃ items, value = .arr items ∧ ∀ member ∈ found, member.2 ∈ items := by
  cases value with
  | obj members =>
    rw [record] at taken
    split at taken
    · cases taken
    · split at taken
      · cases taken
      · cases taken
        exact .inl rfl
  | arr items => exact .inr ⟨items, rfl, fun _ present => mem_of_placeFields taken present⟩
  | _ => cases taken

/-- What a value holds for a field: an object what stands under the name, an array what stands at
the place. -/
def held (value : Json) (name : String) (place : Nat) : Option Json :=
  match value with
  | .obj members => lookup name members
  | .arr items => items[place]?
  | _ => none

/-- An object that is built of different members holds each under its name. -/
theorem held_ofMembers {members : List (String × Json)} (distinct : (members.map Prod.fst).Nodup)
    (name : String) (place : Nat) : (ofMembers members).held name place = lookup name members :=
  lookup_orderMembers distinct

/-- That a value is an object, or an array of at most so many items. -/
def IsRecordOf (size : Nat) : Json → Prop
  | .obj _ => True
  | .arr items => items.length ≤ size
  | _ => False

/-- What a field asks of the value that is there for it, or not. -/
def Field.Takes (field : Field) (value : Option Json) : Prop :=
  match value with
  | none => field.absence = .defaulted
  | some value => field.check value = none

/-- The places of an array are taken when there is a field for each and every field takes what is
at its place. -/
theorem placeFields_eq_ok_iff {type : RecordType} {count start : Nat} {fields : List Field}
    {items : List Json} {found : List (String × Json)} :
    placeFields type count start fields items = .ok found ↔
      found = (fields.map Field.name).zip items ∧ items.length ≤ fields.length ∧
        ∀ (place : Nat) field, fields[place]? = some field → field.Takes items[place]? := by
  fun_induction placeFields type count start fields items generalizing found with
  | case1 => simp [eq_comm]
  | case2 => simp
  | case3 start field fields defaulted inductionHypothesis =>
    rw [inductionHypothesis]
    simp only [List.map_cons, List.zip_nil_right, List.length_nil, Nat.zero_le, true_and,
      List.getElem?_nil]
    refine and_congr_right fun _ => ⟨fun takes place => ?_, fun takes place => takes (place + 1)⟩
    cases place with
    | zero =>
      rintro _ ⟨rfl⟩
      exact defaulted
    | succ place => exact takes place
  | case4 start field fields required =>
    simp only [reduceCtorEq, false_iff, not_and]
    exact fun _ _ takes => required (takes 0 field rfl)
  | case5 start field fields item items cause refused =>
    simp only [reduceCtorEq, false_iff, not_and]
    intro _ _ takes
    have passed : field.check item = none := takes 0 field rfl
    rw [refused] at passed
    cases passed
  | case6 start field fields item items passed inductionHypothesis =>
    have split (rest : List (String × Json)) :
        (placeFields type count (start + 1) fields items).map ((field.name, item) :: ·) = .ok rest ↔
          ∃ later, placeFields type count (start + 1) fields items = .ok later ∧
            rest = (field.name, item) :: later := by
      cases placeFields type count (start + 1) fields items <;> simp [Except.map, eq_comm]
    simp only [split, inductionHypothesis, List.map_cons, List.zip_cons_cons, List.length_cons,
      Nat.add_le_add_iff_right]
    constructor
    · rintro ⟨later, ⟨rfl, short, takes⟩, rfl⟩
      refine ⟨rfl, short, fun place => ?_⟩
      cases place with
      | zero =>
        rintro _ ⟨rfl⟩
        exact passed
      | succ place => exact takes place
    · rintro ⟨rfl, short, takes⟩
      exact ⟨_, ⟨rfl, short, fun place => takes (place + 1)⟩, rfl⟩

/-- With different names, what stands under a name is what stands at its place. -/
theorem lookup_zip {names : List String} (distinct : names.Nodup) {place : Nat} {name : String}
    (named : names[place]? = some name) (items : List Json) :
    lookup name (names.zip items) = items[place]? := by
  induction names generalizing place items with
  | nil => simp at named
  | cons first names inductionHypothesis =>
    obtain ⟨fresh, distinct⟩ := List.nodup_cons.mp distinct
    cases items with
    | nil => rfl
    | cons item items =>
      rw [List.zip_cons_cons, lookup]
      cases place with
      | zero =>
        rw [if_pos (Option.some.inj named)]
        rfl
      | succ place =>
        have listed : name ∈ names := List.mem_of_getElem? named
        have other : first ≠ name := fun same => fresh (by rwa [same])
        rw [if_neg other]
        exact inductionHypothesis distinct named items

section

variable {type : RecordType} (names : (type.fields.map Field.name).Nodup)
  (strict : ∀ field ∈ type.fields, field.absence ≠ .optional) {value : Json}
include names strict

/-- A record whose fields may be left out by objects and arrays alike is read from objects and from
arrays that are not too long, if every field takes what they hold for it; and what is read for the
field is that. -/
theorem record_iff (ordered : value.Ordered) :
    (∀ found, record type value = .ok found → ∀ (place : Nat) field,
      type.fields[place]? = some field → lookup field.name found = value.held field.name place) ∧
    ((∃ found, record type value = .ok found) ↔
      IsRecordOf type.fields.length value ∧ ∀ (place : Nat) field,
        type.fields[place]? = some field → field.Takes (value.held field.name place)) := by
  cases value with
  | obj members =>
    have distinct := ordered.1.distinct
    simp only [record_obj_eq_ok_iff distinct names, exists_eq_left, IsRecordOf, true_and, held]
    refine ⟨?_, ?_⟩
    · rintro found ⟨rfl, -⟩ place field -
      rfl
    · have alike (field : Field) (declared : field ∈ type.fields) :
          field.Accepts members ↔ field.Takes (lookup field.name members) := by
        have plain := strict field declared
        unfold Field.Accepts Field.Takes
        cases lookup field.name members with
        | none => cases absence : field.absence <;> simp_all
        | some value => exact Iff.rfl
      constructor
      · intro accepts place field declared
        have declared := List.mem_of_getElem? declared
        exact (alike field declared).mp (accepts field declared)
      · intro takes field declared
        obtain ⟨place, there⟩ := List.getElem?_of_mem declared
        exact (alike field declared).mpr (takes place field there)
  | arr items =>
    simp only [record, placeFields_eq_ok_iff, exists_eq_left, IsRecordOf, held]
    refine ⟨?_, trivial⟩
    rintro found ⟨rfl, -⟩ place field declared
    exact lookup_zip names (by rw [List.getElem?_map, declared, Option.map_some]) items
  | _ => simp [record, IsRecordOf]

end

/-- A required field gives what its shape makes of the value that has to be there. -/
theorem required_iff {α : Type} {name : String} {shape : Json → Shaped α}
    {members : List (String × Json)} {otherwise found : α} :
    (Field.of name .required shape).Accepts members ∧
        (fieldOf members name shape).getD otherwise = found ↔
      ∃ value, lookup name members = some value ∧ shape value = .ok found := by
  unfold Field.Accepts Field.of failure fieldOf
  cases lookup name members with
  | none => simp
  | some value => cases shaped : shape value <;> simp [shaped, Except.toOption]

/-- A field that has a shape has the name it was given. -/
@[simp] theorem Field.name_of {α : Type} (name : String) (absence : Absence)
    (shape : Json → Shaped α) : (Field.of name absence shape).name = name := rfl

/-- A field with a default takes nothing, which is read as the default, or what its shape makes of
the value that is there. -/
theorem defaulted_iff {α : Type} {name : String} {shape : Json → Shaped α} {value : Option Json}
    {default found : α} :
    (Field.of name .defaulted shape).Takes value ∧
        (value.bind fun given => (shape given).toOption).getD default = found ↔
      value = none ∧ found = default ∨ ∃ given, value = some given ∧ shape given = .ok found := by
  unfold Field.Takes Field.of failure
  cases value with
  | none => simp [eq_comm]
  | some given => cases shaped : shape given <;> simp [shaped, Except.toOption]

/-- A field that has to be there takes what its shape makes of its value. -/
theorem required_takes_iff {α : Type} {name : String} {shape : Json → Shaped α}
    {value : Option Json} {otherwise found : α} :
    (Field.of name .required shape).Takes value ∧
        (value.bind fun given => (shape given).toOption).getD otherwise = found ↔
      ∃ given, value = some given ∧ shape given = .ok found := by
  unfold Field.Takes Field.of failure
  cases value with
  | none => simp
  | some given => cases shaped : shape given <;> simp [shaped, Except.toOption]

/-- What an optional field is read as: nothing where it is absent or null, and otherwise what
its shape makes of its value. -/
def ReadsOptional {α : Type} (shape : Json → Shaped α) (value : Option Json) (found : Option α) :
    Prop :=
  match value with
  | none | some .null => found = none
  | some value => ∃ a, shape value = .ok a ∧ found = some a

/-- An optional field gives what it is read as. -/
theorem optional_iff {α : Type} {name : String} {shape : Json → Shaped α}
    {members : List (String × Json)} {found : Option α} :
    (Field.of name .optional (shapeOption shape)).Accepts members ∧
        (fieldOf members name (shapeOption shape)).getD none = found ↔
      ReadsOptional shape (lookup name members) found := by
  unfold Field.Accepts Field.of failure fieldOf ReadsOptional
  cases lookup name members with
  | none => simp [eq_comm]
  | some value =>
    by_cases null : value = .null
    · subst null
      simp [shapeOption, Except.toOption, eq_comm]
    · have shaped : shapeOption shape value = (shape value).map some := by
        cases value <;> first | rfl | exact absurd rfl null
      simp only [Option.bind_some, shaped]
      cases shape value <;> simp [Except.map, Except.toOption, eq_comm]

/-- What an optional field is read as, if it is something, its shape makes of its value. -/
theorem ReadsOptional.given {α : Type} {shape : Json → Shaped α} {value : Option Json} {a : α}
    (reads : ReadsOptional shape value (some a)) : ∃ given, value = some given ∧ shape given = .ok a := by
  unfold ReadsOptional at reads
  split at reads
  · cases reads
  · cases reads
  · obtain ⟨_, shaped, same⟩ := reads
    cases same
    exact ⟨_, rfl, shaped⟩

/-- A 32-bit integer is read from that integer. -/
theorem shapeInt32_eq_ok_iff {value : Json} {n : Int} :
    shapeInt32 value = .ok n ↔ value = .int n ∧ -0x80000000 ≤ n ∧ n ≤ 0x7FFFFFFF := by
  unfold shapeInt32 shapeInt
  split
  · split <;> grind
  · grind

/-- A 64-bit number is read from that number. -/
theorem shapeUInt64_eq_ok_iff {value : Json} {n : Nat} :
    shapeUInt64 value = .ok n ↔ value = .int n ∧ n < 2 ^ 64 := by
  unfold shapeUInt64 shapeInt
  split
  · next k =>
    split
    · next inside =>
      rw [Except.map, Except.ok.injEq, Json.int.injEq]
      omega
    · next outside =>
      rw [Except.map, Json.int.injEq]
      simp only [reduceCtorEq, false_iff, not_and]
      omega
  · next other =>
    rw [Except.map]
    simp only [reduceCtorEq, false_iff, not_and]
    exact fun same => absurd same (other _)

/-- A text is read from that text. -/
theorem shapeStr_eq_ok_iff {value : Json} {text : String} :
    shapeStr value = .ok text ↔ value = .str text := by
  cases value <;> simp [shapeStr]

/-- A text that names a path is read from that text. -/
theorem shapePath_eq_ok_iff {value : Json} {text : String} :
    shapePath value = .ok text ↔ value = .str text := by
  cases value <;> simp [shapePath]

/-- A truth value is read from that truth value. -/
theorem shapeBool_eq_ok_iff {value : Json} {truth : Bool} :
    shapeBool value = .ok truth ↔ value = .bool truth := by
  cases value <;> simp [shapeBool]

end MediaNode.Json
