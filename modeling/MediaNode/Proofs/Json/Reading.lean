import MediaNode.Proofs.Json.Written

/-!
# What the reader gives

What the reader takes at the front of a text is told once, as a relation with a constructor
for each way that a value begins (`Read`), so that what is true of every value that is read is
proved along it. Such a value has the members of its objects in order, whatever their order in
the text, and is not nested deeper than the reader was allowed to go.
-/
namespace MediaNode.Json

mutual
/-- That a value is read at the front of a text, with at most so many levels, and what is left of
the text. -/
inductive Read : Nat → List Char → Json → List Char → Prop where
  | null {levels : Nat} {text behind rest : List Char} (begins : skipSpace text = 'n' :: behind)
      (word : expect "ull".toList behind = some rest) : Read levels text .null rest
  | yes {levels : Nat} {text behind rest : List Char} (begins : skipSpace text = 't' :: behind)
      (word : expect "rue".toList behind = some rest) : Read levels text (.bool true) rest
  | no {levels : Nat} {text behind rest : List Char} (begins : skipSpace text = 'f' :: behind)
      (word : expect "alse".toList behind = some rest) : Read levels text (.bool false) rest
  | str {levels : Nat} {text behind body rest : List Char}
      (begins : skipSpace text = '"' :: behind)
      (quoted : stringBody (behind.length + 1) behind = some (body, rest)) :
      Read levels text (.str (String.ofList body)) rest
  | emptyArr {levels : Nat} {text behind rest : List Char}
      (begins : skipSpace text = '[' :: behind) (closed : skipSpace behind = ']' :: rest) :
      Read (levels + 1) text (.arr []) rest
  | arr {levels : Nat} {text behind rest : List Char} {found : List Json}
      (begins : skipSpace text = '[' :: behind)
      (items : ReadItems levels (skipSpace behind) found rest) :
      Read (levels + 1) text (.arr found) rest
  | emptyObj {levels : Nat} {text behind rest : List Char}
      (begins : skipSpace text = '\x7b' :: behind) (closed : skipSpace behind = '\x7d' :: rest) :
      Read (levels + 1) text (.obj []) rest
  | obj {levels : Nat} {text behind rest : List Char} {found : List (String × Json)}
      (begins : skipSpace text = '\x7b' :: behind)
      (members : ReadMembers levels (skipSpace behind) found rest) :
      Read (levels + 1) text (ofMembers found) rest
  | number {levels : Nat} {c : Char} {text behind rest : List Char} {item : Json}
      (begins : skipSpace text = c :: behind) (read : number (c :: behind) = some (item, rest)) :
      Read levels text item rest
/-- That one item or more are read, up to the closing bracket. -/
inductive ReadItems : Nat → List Char → List Json → List Char → Prop where
  | last {levels : Nat} {text behind rest : List Char} {item : Json}
      (first : Read levels text item behind) (closed : skipSpace behind = ']' :: rest) :
      ReadItems levels text [item] rest
  | more {levels : Nat} {text behind others rest : List Char} {item : Json} {found : List Json}
      (first : Read levels text item behind) (comma : skipSpace behind = ',' :: others)
      (items : ReadItems levels others found rest) : ReadItems levels text (item :: found) rest
/-- That a member is read, the quoted key first. -/
inductive ReadMember : Nat → List Char → String × Json → List Char → Prop where
  | named {levels : Nat} {text behind key after colonless rest : List Char} {item : Json}
      (begins : skipSpace text = '"' :: behind)
      (quoted : stringBody (behind.length + 1) behind = some (key, after))
      (colon : skipSpace after = ':' :: colonless) (value : Read levels colonless item rest) :
      ReadMember levels text (String.ofList key, item) rest
/-- That one member or more are read, up to the closing brace. -/
inductive ReadMembers : Nat → List Char → List (String × Json) → List Char → Prop where
  | last {levels : Nat} {text behind rest : List Char} {member : String × Json}
      (first : ReadMember levels text member behind) (closed : skipSpace behind = '\x7d' :: rest) :
      ReadMembers levels text [member] rest
  | more {levels : Nat} {text behind others rest : List Char} {member : String × Json}
      {found : List (String × Json)}
      (first : ReadMember levels text member behind) (comma : skipSpace behind = ',' :: others)
      (members : ReadMembers levels others found rest) :
      ReadMembers levels text (member :: found) rest
end

mutual
/-- Whatever the reader gives is read, -/
theorem read_of_value {levels : Nat} {text rest : List Char} {item : Json} :
    (fuel : Nat) → value fuel levels text = some (item, rest) → Read levels text item rest
  | 0, given => by cases given
  | fuel + 1, given => by
    unfold value at given
    split at given
    · cases given
    · next c behind begins =>
      -- one case for each character that a value may begin with
      split at given
      · next first =>
        subst c
        obtain ⟨_, word, same⟩ := Option.map_eq_some_iff.1 given
        cases same
        exact .null begins word
      split at given
      · next first =>
        subst c
        obtain ⟨_, word, same⟩ := Option.map_eq_some_iff.1 given
        cases same
        exact .yes begins word
      split at given
      · next first =>
        subst c
        obtain ⟨_, word, same⟩ := Option.map_eq_some_iff.1 given
        cases same
        exact .no begins word
      split at given
      · next first =>
        subst c
        obtain ⟨_, quoted, same⟩ := Option.map_eq_some_iff.1 given
        cases same
        exact .str begins quoted
      split at given
      · next first =>
        subst c
        split at given
        · cases given
        · split at given
          · next closed =>
            cases given
            exact .emptyArr begins closed
          · obtain ⟨_, items, same⟩ := Option.map_eq_some_iff.1 given
            cases same
            exact .arr begins (readItems_of_items fuel items)
      split at given
      · next first =>
        subst c
        split at given
        · cases given
        · split at given
          · next closed =>
            cases given
            exact .emptyObj begins closed
          · obtain ⟨_, members, same⟩ := Option.map_eq_some_iff.1 given
            cases same
            exact .obj begins (readMembers_of_members fuel members)
      · exact .number begins given
/-- as all the items that it gives are -/
theorem readItems_of_items {levels : Nat} {text rest : List Char} {found : List Json} :
    (fuel : Nat) → items fuel levels text = some (found, rest) → ReadItems levels text found rest
  | 0, given => by cases given
  | fuel + 1, given => by
    simp only [items, Option.bind_eq_bind] at given
    obtain ⟨_, first, given⟩ := Option.bind_eq_some_iff.1 given
    split at given
    · next closed =>
      cases given
      exact .last (read_of_value fuel first) closed
    · next comma =>
      obtain ⟨_, others, same⟩ := Option.map_eq_some_iff.1 given
      cases same
      exact .more (read_of_value fuel first) comma (readItems_of_items fuel others)
    · cases given
/-- and all the members. -/
theorem readMembers_of_members {levels : Nat} {text rest : List Char}
    {found : List (String × Json)} :
    (fuel : Nat) → members fuel levels text = some (found, rest) →
      ReadMembers levels text found rest
  | 0, given => by cases given
  | fuel + 1, given => by
    simp only [members, Option.bind_eq_bind] at given
    split at given
    · next begins =>
      obtain ⟨_, quoted, given⟩ := Option.bind_eq_some_iff.1 given
      split at given
      · next colon =>
        obtain ⟨_, first, given⟩ := Option.bind_eq_some_iff.1 given
        have named := ReadMember.named begins quoted colon (read_of_value fuel first)
        split at given
        · next closed =>
          cases given
          exact .last named closed
        · next comma =>
          obtain ⟨_, others, same⟩ := Option.map_eq_some_iff.1 given
          cases same
          exact .more named comma (readMembers_of_members fuel others)
        · cases given
      · cases given
    · cases given
end

/-- What a number may be read as. -/
def IsNumber (item : Json) : Prop := (∃ n, item = .int n) ∨ ∃ x, item = .float x

/-- Digits alone are an integer, or too large for one. -/
theorem isNumber_of_integerValue {negative : Bool} {digits : List Char} {item : Json}
    (read : integerValue negative digits = some item) : IsNumber item := by
  obtain ⟨n, -, read⟩ := Option.bind_eq_some_iff.1 read
  split at read
  · cases read
    exact .inl ⟨_, rfl⟩
  · split at read
    · cases read
      exact .inl ⟨_, rfl⟩
    · obtain ⟨x, -, rfl⟩ := Option.map_eq_some_iff.1 read
      exact .inr ⟨x, rfl⟩

/-- With a fraction or an exponent a number is floating point. -/
theorem isNumber_of_unsignedNumber {negative : Bool} {text rest : List Char} {item : Json}
    (read : unsignedNumber negative text = some (item, rest)) : IsNumber item := by
  simp only [unsignedNumber, Option.bind_eq_bind, Option.ite_none_left_eq_some] at read
  obtain ⟨-, read⟩ := read
  -- a fraction or none, and then an exponent with either mark or none
  split at read
  all_goals
    obtain ⟨⟨fraction, _⟩, -, read⟩ := Option.bind_eq_some_iff.1 read
    split at read
  all_goals
    obtain ⟨⟨exponent, _⟩, -, read⟩ := Option.bind_eq_some_iff.1 read
    split at read
    · obtain ⟨value, whole, found⟩ := Option.map_eq_some_iff.1 read
      cases found
      exact isNumber_of_integerValue whole
    · obtain ⟨x, -, found⟩ := Option.map_eq_some_iff.1 read
      cases found
      exact .inr ⟨x, rfl⟩

/-- A number is an integer or floating point. -/
theorem isNumber_of_number {text rest : List Char} {item : Json}
    (read : number text = some (item, rest)) : IsNumber item := by
  unfold number at read
  split at read <;> exact isNumber_of_unsignedNumber read

/-- What is true of every value that is read with at most so many levels. -/
structure Proper (levels : Nat) (item : Json) : Prop where
  ordered : item.Ordered
  shallow : item.depth ≤ levels

namespace Proper

variable {levels : Nat}

/-- Proper items make a proper array. -/
theorem arr {found : List Json} (proper : ∀ item ∈ found, Proper levels item) :
    Proper (levels + 1) (.arr found) where
  ordered := orderedItems_iff.2 fun item present => (proper item present).ordered
  shallow := Nat.succ_le_succ (depthItems_le_iff.2 fun item present => (proper item present).shallow)

/-- Proper values make a proper object. -/
theorem ofMembers {found : List (String × Json)} (proper : ∀ member ∈ found, Proper levels member.2) :
    Proper (levels + 1) (Json.ofMembers found) where
  ordered := ordered_ofMembers fun member present => (proper member present).ordered
  shallow := depth_ofMembers_le fun member present => (proper member present).shallow

/-- What holds no other value is proper at any level. -/
theorem plain {item : Json} (ordered : item.Ordered) (shallow : item.depth ≤ 0) :
    Proper levels item :=
  ⟨ordered, shallow.trans (Nat.zero_le _)⟩

/-- So is a number. -/
theorem of_isNumber {item : Json} (number : IsNumber item) : Proper levels item := by
  obtain ⟨n, rfl⟩ | ⟨x, rfl⟩ := number
  · exact .plain trivial (Nat.le_refl _)
  · exact .plain trivial (Nat.le_refl _)

end Proper

mutual
/-- Every value that is read is proper, -/
theorem Read.proper {levels : Nat} {text rest : List Char} {item : Json} :
    Read levels text item rest → Proper levels item
  | .null .. => .plain trivial (Nat.le_refl _)
  | .yes .. => .plain trivial (Nat.le_refl _)
  | .no .. => .plain trivial (Nat.le_refl _)
  | .str .. => .plain trivial (Nat.le_refl _)
  | .emptyArr .. => .arr (List.forall_mem_nil _)
  | .arr _ items => .arr items.proper
  | .emptyObj .. => .ofMembers (List.forall_mem_nil _)
  | .obj _ members => .ofMembers members.proper
  | .number _ read => .of_isNumber (isNumber_of_number read)
/-- every item, -/
theorem ReadItems.proper {levels : Nat} {text rest : List Char} {found : List Json} :
    ReadItems levels text found rest → ∀ item ∈ found, Proper levels item
  | .last first _ => List.forall_mem_singleton.2 first.proper
  | .more first _ items => List.forall_mem_cons.2 ⟨first.proper, items.proper⟩
/-- the value of a member, -/
theorem ReadMember.proper {levels : Nat} {text rest : List Char} {member : String × Json} :
    ReadMember levels text member rest → Proper levels member.2
  | .named _ _ _ value => value.proper
/-- and that of every member. -/
theorem ReadMembers.proper {levels : Nat} {text rest : List Char} {found : List (String × Json)} :
    ReadMembers levels text found rest → ∀ member ∈ found, Proper levels member.2
  | .last first _ => List.forall_mem_singleton.2 first.proper
  | .more first _ members => List.forall_mem_cons.2 ⟨first.proper, members.proper⟩
end

/-- With faithful numbers, what is read can be written and read again. -/
theorem Proper.printable {levels : Nat} {item : Json} (proper : Proper levels item)
    (faithful : item.Faithful) : Printable levels item :=
  ⟨proper.ordered, faithful, proper.shallow⟩

/-- What stands in front of a text is proper at the levels that the reader allows. -/
theorem proper_of_front {text rest : List Char} {item : Json}
    (read : front text = some (item, rest)) : Proper maxDepth item :=
  (read_of_value _ read).proper

end MediaNode.Json
