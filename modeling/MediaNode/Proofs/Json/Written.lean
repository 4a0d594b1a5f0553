import MediaNode.Proofs.Json.Members
import MediaNode.Proofs.Json.Scalars

/-!
# Written values read back

`Written` is the grammar of the compact texts, as a relation between a text and the value
it stands for: no blanks, no numbers but integers of the range and the zero with a minus
sign, and members in any order, since an object is the same object whatever order its
members were written in. The reader gives the
value of every such text and stops right behind it (`value_of_written`), and the printer
writes such a text of every value that has its members in order (`written_chars`). Both
the text of a value and the text of a message, which does not order its members, are texts
of this grammar.
-/
namespace MediaNode.Json

mutual
/-- A text of a value with at most so many levels of arrays and objects. -/
inductive Written : Nat → List Char → Json → Prop where
  | null {levels : Nat} : Written levels "null".toList .null
  | yes {levels : Nat} : Written levels "true".toList (.bool true)
  | no {levels : Nat} : Written levels "false".toList (.bool false)
  | int {levels : Nat} {n : Int} (range : IntegerRange n) :
      Written levels (Text.signedDecimal n).toList (.int n)
  | minusZero {levels : Nat} : Written levels "-0.0".toList (.float minusZero)
  | str {levels : Nat} (text : String) : Written levels (quoted text) (.str text)
  | emptyArr {levels : Nat} : Written (levels + 1) ['[', ']'] (.arr [])
  | arr {levels : Nat} {text : List Char} {found : List Json}
      (written : WrittenItems levels text found) :
      Written (levels + 1) ('[' :: (text ++ [']'])) (.arr found)
  | emptyObj {levels : Nat} : Written (levels + 1) ['\x7b', '\x7d'] (.obj [])
  | obj {levels : Nat} {text : List Char} {found : List (String × Json)}
      (written : WrittenMembers levels text found) :
      Written (levels + 1) ('\x7b' :: (text ++ ['\x7d'])) (ofMembers found)
/-- A text of one item or more. -/
inductive WrittenItems : Nat → List Char → List Json → Prop where
  | last {levels : Nat} {text : List Char} {item : Json} (written : Written levels text item) :
      WrittenItems levels text [item]
  | more {levels : Nat} {text others : List Char} {item : Json} {rest : List Json}
      (written : Written levels text item) (writtenRest : WrittenItems levels others rest) :
      WrittenItems levels (text ++ ',' :: others) (item :: rest)
/-- A text of one member or more. -/
inductive WrittenMembers : Nat → List Char → List (String × Json) → Prop where
  | last {levels : Nat} {key : String} {text : List Char} {item : Json}
      (written : Written levels text item) :
      WrittenMembers levels (quoted key ++ ':' :: text) [(key, item)]
  | more {levels : Nat} {key : String} {text others : List Char} {item : Json}
      {rest : List (String × Json)}
      (written : Written levels text item) (writtenRest : WrittenMembers levels others rest) :
      WrittenMembers levels (quoted key ++ ':' :: (text ++ ',' :: others)) ((key, item) :: rest)
end

/-- A text that begins with a token has no blanks to drop. -/
theorem skipSpace_cons {c : Char} (token : isSpace c = false) (rest : List Char) :
    skipSpace (c :: rest) = c :: rest :=
  List.dropWhile_cons_of_neg (by simp [token])

/-- A sign or a digit is no blank. -/
theorem isSpace_of_number {c : Char} (start : c = '-' ∨ c.isDigit = true) : isSpace c = false := by
  simp only [isSpace, Bool.or_eq_false_iff, decide_eq_false_iff_not]
  refine ⟨⟨⟨?_, ?_⟩, ?_⟩, ?_⟩ <;>
    · rintro rfl
      simp at start

/-- What begins with a sign or a digit is read as a number. -/
theorem value_of_number {c : Char} (start : c = '-' ∨ c.isDigit = true) (fuel levels : Nat)
    (rest : List Char) : value (fuel + 1) levels (c :: rest) = number (c :: rest) := by
  have token : isSpace c = false := isSpace_of_number start
  have different (other : Char) (noStart : other ≠ '-' ∧ other.isDigit = false) : c ≠ other := by
    rintro rfl
    simp [noStart] at start
  simp only [value, skipSpace_cons token]
  rw [if_neg (different 'n' (by decide)), if_neg (different 't' (by decide)),
    if_neg (different 'f' (by decide)), if_neg (different '"' (by decide)),
    if_neg (different '[' (by decide)), if_neg (different '\x7b' (by decide))]

/-- The text of an integer begins with its sign or a digit. -/
theorem exists_signedDecimal_eq_cons (n : Int) :
    ∃ c rest, (Text.signedDecimal n).toList = c :: rest ∧ (c = '-' ∨ c.isDigit = true) := by
  by_cases negative : n < 0
  · exact ⟨_, _, Text.toList_signedDecimal_of_neg negative, .inl rfl⟩
  · obtain ⟨c, rest, digits, digit⟩ := Text.exists_toDigits_eq_cons n.natAbs
    rw [Text.toList_signedDecimal_of_nonneg (Int.not_lt.1 negative)]
    exact ⟨c, rest, digits, .inr digit⟩

/-- A written value begins with a character that is neither a blank nor the end of an array. -/
theorem Written.start {levels : Nat} {text : List Char} {item : Json}
    (written : Written levels text item) :
    ∃ c rest, text = c :: rest ∧ isSpace c = false ∧ c ≠ ']' := by
  cases written with
  | null | yes | no | minusZero | str | emptyArr | arr | emptyObj | obj =>
    exact ⟨_, _, rfl, rfl, by decide⟩
  | int =>
    obtain ⟨c, rest, begins, start⟩ := exists_signedDecimal_eq_cons _
    refine ⟨c, rest, begins, isSpace_of_number start, ?_⟩
    rintro rfl
    simp at start

/-- No value is written as nothing. -/
theorem Written.length_pos {levels : Nat} {text : List Char} {item : Json}
    (written : Written levels text item) : 1 ≤ text.length := by
  obtain ⟨c, rest, rfl, -⟩ := written.start
  exact Nat.succ_pos _

/-- Written items begin with such a character as well. -/
theorem WrittenItems.start {levels : Nat} {text : List Char} {found : List Json}
    (written : WrittenItems levels text found) :
    ∃ c rest, text = c :: rest ∧ isSpace c = false ∧ c ≠ ']' := by
  cases written with
  | last written => exact written.start
  | more written =>
    obtain ⟨c, rest, rfl, token, open_⟩ := written.start
    exact ⟨c, _, rfl, token, open_⟩

/-- Written members begin with the quote of a key. -/
theorem WrittenMembers.start {levels : Nat} {text : List Char} {found : List (String × Json)}
    (written : WrittenMembers levels text found) : ∃ rest, text = '"' :: rest := by
  cases written <;> exact ⟨_, rfl⟩

/-- A quote begins a string, which ends at its closing quote. -/
theorem value_of_quoted (fuel levels : Nat) (text : String) (rest : List Char) :
    value (fuel + 1) levels (quoted text ++ rest) = some (.str text, rest) := by
  have opened : quoted text ++ rest = '"' :: (text.toList.flatMap escape ++ '"' :: rest) := by
    simp only [quoted, List.cons_append, List.append_assoc, List.nil_append]
  simp only [opened, value, skipSpace_cons (rfl : isSpace '"' = false), Char.reduceEq, if_false,
    if_true, stringBody_quoted, Option.map_some, String.ofList_toList]

/-- A bracket begins an array, which has items unless it is closed at once. -/
theorem value_of_items {c : Char} (token : isSpace c = false) (open_ : c ≠ ']') (fuel levels : Nat)
    (rest : List Char) :
    value (fuel + 1) (levels + 1) ('[' :: c :: rest) =
      (items fuel levels (c :: rest)).map fun found => (.arr found.1, found.2) := by
  simp only [value, skipSpace_cons (rfl : isSpace '[' = false), skipSpace_cons token,
    Char.reduceEq, if_false, if_true]
  split
  · rename_i closed
    exact absurd (List.cons.inj closed).1 open_
  · rfl

/-- A brace begins an object, which has members if a key comes next. -/
theorem value_of_members (fuel levels : Nat) (rest : List Char) :
    value (fuel + 1) (levels + 1) ('\x7b' :: '"' :: rest) =
      (members fuel levels ('"' :: rest)).map fun found => (ofMembers found.1, found.2) := by
  simp only [value, skipSpace_cons (rfl : isSpace '\x7b' = false),
    skipSpace_cons (rfl : isSpace '"' = false), Char.reduceEq, if_false, if_true]
  rfl

/-- Behind an item stands the end of the array or another item. -/
theorem items_of_value {fuel levels : Nat} {text rest : List Char} {item : Json}
    (read : value fuel levels text = some (item, rest)) :
    items (fuel + 1) levels text =
      match skipSpace rest with
      | ']' :: rest => some ([item], rest)
      | ',' :: rest =>
        (items fuel levels rest).map fun (others, rest) => (item :: others, rest)
      | _ => none := by
  simp only [items, Option.bind_eq_bind]
  exact congrArg (Option.bind · _) read

/-- Behind a key and its value stands the end of the object or another member. -/
theorem members_of_value {fuel levels : Nat} {key : String} {text rest : List Char} {item : Json}
    (read : value fuel levels text = some (item, rest)) :
    members (fuel + 1) levels (quoted key ++ ':' :: text) =
      match skipSpace rest with
      | '\x7d' :: rest => some ([(key, item)], rest)
      | ',' :: rest =>
        (members fuel levels rest).map fun (others, rest) => ((key, item) :: others, rest)
      | _ => none := by
  have opened : quoted key ++ ':' :: text =
      '"' :: (key.toList.flatMap escape ++ '"' :: ':' :: text) := by
    simp only [quoted, List.cons_append, List.append_assoc, List.nil_append]
  simp only [opened, members, skipSpace_cons (rfl : isSpace '"' = false), stringBody_quoted,
    skipSpace_cons (rfl : isSpace ':' = false), Option.bind_eq_bind, Option.bind_some,
    String.ofList_toList]
  exact congrArg (Option.bind · _) read

mutual
/-- The reader gives a written value and stops behind it. -/
theorem value_of_written {levels : Nat} {text : List Char} {item : Json} (fuel : Nat)
    (rest : List Char) (enough : text.length ≤ fuel + 1) (ended : Ended rest) :
    Written levels text item → value (fuel + 1) levels (text ++ rest) = some (item, rest)
  | .null | .yes | .no | .emptyArr | .emptyObj => rfl
  | @Written.int _ n range => by
    obtain ⟨c, tail, begins, start⟩ := exists_signedDecimal_eq_cons n
    rw [← number_signedDecimal range ended, begins]
    exact value_of_number start fuel levels (tail ++ rest)
  | .minusZero => (value_of_number (.inl rfl) fuel levels _).trans (number_minusZero ended)
  | .str text => value_of_quoted fuel levels text rest
  | @Written.arr _ text found written => by
    rw [List.length_cons, List.length_append, List.length_singleton] at enough
    obtain ⟨fuel, rfl⟩ := Nat.exists_eq_add_of_le' (by omega : 1 ≤ fuel)
    obtain ⟨c, tail, rfl, token, open_⟩ := written.start
    rw [List.cons_append, List.append_assoc, List.cons_append, value_of_items token open_]
    have read := items_of_written fuel rest (by omega) written
    rw [List.cons_append] at read
    rw [List.singleton_append, read, Option.map_some]
  | @Written.obj _ text found written => by
    rw [List.length_cons, List.length_append, List.length_singleton] at enough
    obtain ⟨fuel, rfl⟩ := Nat.exists_eq_add_of_le' (by omega : 1 ≤ fuel)
    obtain ⟨tail, rfl⟩ := written.start
    rw [List.cons_append, List.append_assoc, List.cons_append, value_of_members]
    have read := members_of_written fuel rest (by omega) written
    rw [List.cons_append] at read
    rw [List.singleton_append, read, Option.map_some]
/-- The reader gives written items and stops behind the closing bracket. -/
theorem items_of_written {levels : Nat} {text : List Char} {found : List Json} (fuel : Nat)
    (rest : List Char) (enough : text.length ≤ fuel) :
    WrittenItems levels text found →
      items (fuel + 1) levels (text ++ ']' :: rest) = some (found, rest)
  | .last written => by
    obtain ⟨fuel, rfl⟩ := Nat.exists_eq_add_of_le' (written.length_pos.trans enough)
    have ended : Ended (']' :: rest) := by
      rintro c tail ⟨⟩
      exact .inr (.inl rfl)
    rw [items_of_value (value_of_written fuel (']' :: rest) enough ended written)]
    rfl
  | @WrittenItems.more _ text others item found written writtenRest => by
    rw [List.length_append, List.length_cons] at enough
    obtain ⟨fuel, rfl⟩ := Nat.exists_eq_add_of_le' (by omega : 1 ≤ fuel)
    have ended : Ended (',' :: (others ++ ']' :: rest)) := by
      rintro c tail ⟨⟩
      exact .inl rfl
    have read := value_of_written fuel _ (by omega) ended written
    rw [List.append_assoc, List.cons_append, items_of_value read]
    have readRest := items_of_written fuel rest (by have := written.length_pos; omega) writtenRest
    simp only [skipSpace_cons (rfl : isSpace ',' = false), readRest, Option.map_some]
/-- The reader gives written members and stops behind the closing brace. -/
theorem members_of_written {levels : Nat} {text : List Char} {found : List (String × Json)}
    (fuel : Nat) (rest : List Char) (enough : text.length ≤ fuel) :
    WrittenMembers levels text found →
      members (fuel + 1) levels (text ++ '\x7d' :: rest) = some (found, rest)
  | @WrittenMembers.last _ key text item written => by
    rw [List.length_append, List.length_cons] at enough
    obtain ⟨fuel, rfl⟩ := Nat.exists_eq_add_of_le' (by omega : 1 ≤ fuel)
    have ended : Ended ('\x7d' :: rest) := by
      rintro c tail ⟨⟩
      exact .inr (.inr rfl)
    have read := value_of_written fuel _ (by omega) ended written
    rw [List.append_assoc, List.cons_append, members_of_value read]
    rfl
  | @WrittenMembers.more _ key text others item found written writtenRest => by
    rw [List.length_append, List.length_cons, List.length_append, List.length_cons] at enough
    obtain ⟨fuel, rfl⟩ := Nat.exists_eq_add_of_le' (by omega : 1 ≤ fuel)
    have ended : Ended (',' :: (others ++ '\x7d' :: rest)) := by
      rintro c tail ⟨⟩
      exact .inl rfl
    have read := value_of_written fuel _ (by omega) ended written
    rw [List.append_assoc, List.cons_append, List.append_assoc, List.cons_append,
      members_of_value read]
    have readRest := members_of_written fuel rest (by omega) writtenRest
    simp only [skipSpace_cons (rfl : isSpace ',' = false), readRest, Option.map_some]
end

/-- A whole written text is the value that it is written for, with nothing left. -/
theorem front_of_written {text : List Char} {item : Json} (written : Written maxDepth text item) :
    front text = some (item, []) := by
  have ended : Ended [] := by
    rintro c tail ⟨⟩
  have read := value_of_written text.length [] (Nat.le_succ _) ended written
  rwa [List.append_nil] at read

mutual
/-- Every number inside of the value is an integer of the range or the zero with a minus sign. -/
def Faithful : Json → Prop
  | .int n => IntegerRange n
  | .float x => x = minusZero
  | .arr items => FaithfulItems items
  | .obj members => FaithfulValues members
  | _ => True
/-- Every item is faithful. -/
def FaithfulItems : List Json → Prop
  | [] => True
  | item :: rest => Faithful item ∧ FaithfulItems rest
/-- The value of every member is faithful. -/
def FaithfulValues : List (String × Json) → Prop
  | [] => True
  | (_, value) :: rest => Faithful value ∧ FaithfulValues rest
end

theorem faithfulItems_iff {items : List Json} : FaithfulItems items ↔ ∀ item ∈ items, item.Faithful := by
  induction items with
  | nil => simp [FaithfulItems]
  | cons first rest inductionHypothesis => simp [FaithfulItems, inductionHypothesis]

theorem faithfulValues_iff {members : List (String × Json)} :
    FaithfulValues members ↔ ∀ member ∈ members, member.2.Faithful := by
  induction members with
  | nil => simp [FaithfulValues]
  | cons first rest inductionHypothesis => simp [FaithfulValues, inductionHypothesis]

mutual
/-- Integers of the range are faithful. -/
theorem Integral.faithful : (item : Json) → item.Integral → item.Faithful
  | .null, _ | .bool _, _ | .str _, _ => trivial
  | .int _, range => range
  | .arr found, integral => faithfulItems_of_integral found integral
  | .obj found, integral => faithfulValues_of_integral found integral
/-- So are those among items, -/
theorem faithfulItems_of_integral : (found : List Json) → IntegralItems found → FaithfulItems found
  | [], _ => trivial
  | item :: rest, integral =>
    ⟨Integral.faithful item integral.1, faithfulItems_of_integral rest integral.2⟩
/-- and among the values of members. -/
theorem faithfulValues_of_integral : (found : List (String × Json)) → IntegralValues found →
    FaithfulValues found
  | [], _ => trivial
  | (_, item) :: rest, integral =>
    ⟨Integral.faithful item integral.1, faithfulValues_of_integral rest integral.2⟩
end

mutual
/-- The printer writes a text of every value of such numbers that has its members in order. -/
theorem written_chars {levels : Nat} : (item : Json) → item.Ordered → item.Faithful →
    item.depth ≤ levels → Written levels (chars item) item
  | .null, _, _, _ => .null
  | .bool true, _, _, _ => .yes
  | .bool false, _, _, _ => .no
  | .int _, _, range, _ => .int range
  | .float _, _, faithful, _ => by
    obtain rfl := faithful
    rw [chars, toText_minusZero]
    exact .minusZero
  | .str text, _, _, _ => .str text
  | .arr found, ordered, faithful, shallow => by
    rw [depth] at shallow
    obtain ⟨levels, rfl⟩ := Nat.exists_eq_add_of_le' (Nat.le_of_add_left_le shallow)
    cases found with
    | nil => exact .emptyArr
    | cons item rest =>
      exact .arr (writtenItems_charsItems item rest ordered faithful (Nat.le_of_succ_le_succ shallow))
  | .obj found, ordered, faithful, shallow => by
    rw [depth] at shallow
    obtain ⟨levels, rfl⟩ := Nat.exists_eq_add_of_le' (Nat.le_of_add_left_le shallow)
    cases found with
    | nil => exact .emptyObj
    | cons member rest =>
      obtain ⟨orderedMembers, orderedValues⟩ := ordered
      have written := Written.obj (writtenMembers_charsMembers member rest orderedValues faithful
        (Nat.le_of_succ_le_succ shallow))
      rwa [ofMembers, orderMembers_of_ordered orderedMembers] at written
/-- The printer writes items with commas between them. -/
theorem writtenItems_charsItems {levels : Nat} : (item : Json) → (rest : List Json) →
    OrderedItems (item :: rest) → FaithfulItems (item :: rest) →
    depthItems (item :: rest) ≤ levels → WrittenItems levels (charsItems (item :: rest)) (item :: rest)
  | item, [], ordered, faithful, shallow =>
    .last (written_chars item ordered.1 faithful.1 (le_of_max_le_left shallow))
  | item, next :: rest, ordered, faithful, shallow =>
    .more (written_chars item ordered.1 faithful.1 (le_of_max_le_left shallow))
      (writtenItems_charsItems next rest ordered.2 faithful.2 (le_of_max_le_right shallow))
/-- The printer writes members with commas between them. -/
theorem writtenMembers_charsMembers {levels : Nat} : (member : String × Json) →
    (rest : List (String × Json)) → OrderedValues (member :: rest) →
    FaithfulValues (member :: rest) → depthValues (member :: rest) ≤ levels →
    WrittenMembers levels (charsMembers (member :: rest)) (member :: rest)
  | (_, item), [], ordered, faithful, shallow =>
    .last (written_chars item ordered.1 faithful.1 (le_of_max_le_left shallow))
  | (_, item), next :: rest, ordered, faithful, shallow =>
    .more (written_chars item ordered.1 faithful.1 (le_of_max_le_left shallow))
      (writtenMembers_charsMembers next rest ordered.2 faithful.2 (le_of_max_le_right shallow))
end

/-- A value that survives being written and read with so many levels. -/
structure Printable (levels : Nat) (item : Json) : Prop where
  ordered : item.Ordered
  faithful : item.Faithful
  shallow : item.depth ≤ levels

namespace Printable

variable {levels : Nat}

/-- An integer of the range is such a value. -/
theorem int {n : Int} (range : IntegerRange n) : Printable levels (.int n) :=
  ⟨trivial, range, Nat.zero_le _⟩

/-- A string is such a value. -/
theorem str (text : String) : Printable levels (.str text) :=
  ⟨trivial, trivial, Nat.zero_le _⟩

/-- The printer writes a text of it. -/
theorem written {item : Json} (printable : Printable levels item) :
    Written levels (chars item) item :=
  written_chars item printable.ordered printable.faithful printable.shallow

/-- The printer writes a text of members whose values are such values, in any order. -/
theorem writtenMembers {member : String × Json} {rest : List (String × Json)}
    (printable : ∀ present ∈ member :: rest, Printable levels present.2) :
    WrittenMembers levels (charsMembers (member :: rest)) (member :: rest) :=
  writtenMembers_charsMembers member rest
    (orderedValues_iff.2 fun _ there => (printable _ there).ordered)
    (faithfulValues_iff.2 fun _ there => (printable _ there).faithful)
    (depthValues_le_iff.2 fun _ there => (printable _ there).shallow)

/-- So are the items of an array, with one level less. -/
theorem item {found : List Json} (printable : Printable (levels + 1) (.arr found)) {item : Json}
    (present : item ∈ found) : Printable levels item where
  ordered := orderedItems_iff.1 printable.ordered item present
  faithful := faithfulItems_iff.1 printable.faithful item present
  shallow := depthItems_le_iff.1 (Nat.le_of_succ_le_succ printable.shallow) item present

/-- So are the values of an object, with one level less. -/
theorem member {found : List (String × Json)} (printable : Printable (levels + 1) (.obj found))
    {member : String × Json} (present : member ∈ found) : Printable levels member.2 where
  ordered := orderedValues_iff.1 printable.ordered.2 member present
  faithful := faithfulValues_iff.1 printable.faithful member present
  shallow := depthValues_le_iff.1 (Nat.le_of_succ_le_succ printable.shallow) member present

/-- An object built from such values is such a value, with one level more. -/
theorem ofMembers {found : List (String × Json)}
    (printable : ∀ member ∈ found, Printable levels member.2) :
    Printable (levels + 1) (Json.ofMembers found) where
  ordered := ordered_ofMembers fun member present => (printable member present).ordered
  faithful := faithfulValues_iff.2 fun member present =>
    (printable member (mem_of_mem_orderMembers present)).faithful
  shallow := depth_ofMembers_le fun member present => (printable member present).shallow

/-- An object built from different keys has all the values that it was built from. -/
theorem of_ofMembers {found : List (String × Json)}
    (printable : Printable (levels + 1) (Json.ofMembers found))
    (distinct : (found.map Prod.fst).Nodup) {member : String × Json} (present : member ∈ found) :
    Printable levels member.2 :=
  printable.member ((orderMembers_perm distinct).mem_iff.2 present)

end Printable
end MediaNode.Json
