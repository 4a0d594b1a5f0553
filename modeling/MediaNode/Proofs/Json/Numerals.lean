import MediaNode.Proofs.Json.Reading

/-!
# The numerals of a text

A numeral is a longest run of the characters that numbers are written with, behind a sign or
a digit that begins it outside of every string. What is inside of a string is told from what
is outside by the quotes alone, and by the backslashes in front of them, so that the numerals
of a text do not depend on whether it can be read. They are what the numbers of a text that
is read are read from: if each of them is an integer of the range, the value is faithful.
-/
namespace MediaNode.Json

/-- The characters that numbers are written with. -/
def isNumeral (c : Char) : Bool :=
  c.isDigit || c = '-' || c = '+' || c = '.' || c = 'e' || c = 'E'

/-- Where a character of a text stands. -/
inductive Standing where
  | outside
  | numeral
  | quoted
  | escaped
deriving DecidableEq

namespace Standing

/-- Whether a numeral begins with a character. -/
def begins (standing : Standing) (c : Char) : Bool :=
  standing = .outside && (c = '-' || c.isDigit)

/-- Where the next character stands. -/
def next : Standing → Char → Standing
  | .outside, c =>
    if c = '"' then .quoted else if Standing.outside.begins c then .numeral else .outside
  | .numeral, c => if c = '"' then .quoted else if isNumeral c then .numeral else .outside
  | .quoted, c => if c = '"' then .outside else if c = '\\' then .escaped else .quoted
  | .escaped, _ => .quoted

end Standing

/-- The numerals of a text that begins at a standing. -/
def numeralsFrom : Standing → List Char → List (List Char)
  | _, [] => []
  | standing, c :: rest =>
    let others := numeralsFrom (standing.next c) rest
    if standing.begins c then (c :: rest).takeWhile isNumeral :: others else others

/-- The numerals of a text. -/
def numerals (text : String) : List (List Char) := numeralsFrom .outside text.toList

/-- The integer that a numeral of digits alone stands for. -/
def integer? : List Char → Option Int
  | '-' :: digits => (Text.digits? digits).map fun n : Nat => -(n : Int)
  | digits => (Text.digits? digits).map fun n : Nat => (n : Int)

/-- That a numeral is an integer of the range. -/
def InRange (numeral : List Char) : Prop := ∃ n ∈ integer? numeral, IntegerRange n

instance (n : Int) : Decidable (IntegerRange n) := inferInstanceAs (Decidable (_ ∧ _))

instance (numeral : List Char) : Decidable (InRange numeral) :=
  inferInstanceAs (Decidable (∃ n ∈ integer? numeral, IntegerRange n))

/-- That all numerals of a text that begins at a standing are integers of the range. -/
def IntegersFrom (standing : Standing) (text : List Char) : Prop :=
  ∀ numeral ∈ numeralsFrom standing text, InRange numeral

namespace IntegersFrom

variable {standing : Standing} {text rest : List Char}

/-- Then so are those behind the first character, -/
theorem tail {c : Char} (integers : IntegersFrom standing (c :: rest)) :
    IntegersFrom (standing.next c) rest := by
  intro numeral listed
  refine integers numeral ?_
  rw [numeralsFrom]
  split
  · exact List.mem_cons_of_mem _ listed
  · exact listed

/-- and those behind any beginning of it. -/
theorem behind {before : List Char} (integers : IntegersFrom standing (before ++ rest)) :
    IntegersFrom (before.foldl Standing.next standing) rest := by
  induction before generalizing standing with
  | nil => exact integers
  | cons c before inductionHypothesis => exact inductionHypothesis integers.tail

/-- Blanks make no difference, -/
theorem skipSpace (integers : IntegersFrom .outside text) :
    IntegersFrom .outside (skipSpace text) := by
  induction text with
  | nil => exact integers
  | cons c text inductionHypothesis =>
    rw [Json.skipSpace, List.dropWhile_cons]
    split
    · next blank =>
      have outside : Standing.outside.next c = .outside := by
        simp only [isSpace, Bool.or_eq_true, decide_eq_true_eq] at blank
        rcases blank with ((rfl | rfl) | rfl) | rfl <;> rfl
      exact inductionHypothesis (outside ▸ integers.tail)
    · exact integers

/-- so that they are behind whatever follows the blanks. -/
theorem token {c : Char} (begins : Json.skipSpace text = c :: rest)
    (integers : IntegersFrom .outside text) : IntegersFrom (Standing.outside.next c) rest := by
  have integers := integers.skipSpace
  rw [begins] at integers
  exact integers.tail

/-- Nor does a word make a difference. -/
theorem expect {word : List Char} (plain : word.foldl Standing.next standing = .outside)
    (read : expect word text = some rest) (integers : IntegersFrom standing text) :
    IntegersFrom .outside rest := by
  induction word generalizing standing text with
  | nil =>
    cases read
    exact plain ▸ integers
  | cons c word inductionHypothesis =>
    cases text with
    | nil => cases read
    | cons d text =>
      rw [Json.expect] at read
      split at read
      · next same =>
        subst d
        exact inductionHypothesis plain read integers.tail
      · cases read

end IntegersFrom

/-- A hexadecimal digit stays in the string. -/
theorem next_of_hex {c : Char} {n : Nat} (digit : Text.Hex.value? c = some n) :
    Standing.quoted.next c = .quoted := by
  have quote : c ≠ '"' := by
    rintro rfl
    cases digit
  have backslash : c ≠ '\\' := by
    rintro rfl
    cases digit
  simp only [Standing.next, if_neg quote, if_neg backslash]

namespace IntegersFrom

variable {text rest : List Char}

/-- So do four of them. -/
theorem hexUnit {n : Nat} (read : hexUnit text = some (n, rest))
    (integers : IntegersFrom .quoted text) : IntegersFrom .quoted rest := by
  unfold Json.hexUnit at read
  split at read
  · next a b c d rest =>
    split at read
    · next first second third fourth =>
      cases read
      have integers := integers.tail.tail.tail.tail
      rwa [next_of_hex first, next_of_hex second, next_of_hex third, next_of_hex fourth] at integers
    · cases read
  · cases read

/-- So does the number of a character, which may be a pair. -/
theorem unicodeEscape {c : Char} (read : unicodeEscape text = some (c, rest))
    (integers : IntegersFrom .quoted text) : IntegersFrom .quoted rest := by
  unfold Json.unicodeEscape at read
  split at read
  · cases read
  · next first behind found =>
    have integers := integers.hexUnit found
    obtain ⟨-, read⟩ := Option.ite_none_left_eq_some.1 read
    split at read
    · split at read
      · split at read
        · next second behind found =>
          obtain ⟨-, same⟩ := Option.ite_none_right_eq_some.1 read
          obtain ⟨-, rfl⟩ := Prod.mk.inj (Option.some.inj same)
          exact integers.tail.tail.hexUnit found
        · cases read
      · cases read
    · cases read
      exact integers

/-- A string ends outside. -/
theorem stringBody {fuel : Nat} {body : List Char} (read : stringBody fuel text = some (body, rest))
    (integers : IntegersFrom .quoted text) : IntegersFrom .outside rest := by
  induction fuel generalizing text body with
  | zero => cases read
  | succ fuel inductionHypothesis =>
    cases text with
    | nil => cases read
    | cons c text =>
      simp only [Json.stringBody, Option.bind_eq_bind] at read
      have integers := integers.tail
      split at read
      · next quote =>
        subst c
        cases read
        exact integers
      · next quote =>
        split at read
        · next backslash =>
          subst c
          split at read
          · cases read
          · obtain ⟨⟨d, behind⟩, escape, read⟩ := Option.bind_eq_some_iff.1 read
            obtain ⟨⟨others, last⟩, more, same⟩ := Option.bind_eq_some_iff.1 read
            cases same
            exact inductionHypothesis more (integers.tail.unicodeEscape escape)
          · obtain ⟨d, -, read⟩ := Option.bind_eq_some_iff.1 read
            obtain ⟨⟨others, last⟩, more, same⟩ := Option.bind_eq_some_iff.1 read
            cases same
            exact inductionHypothesis more integers.tail
        · next backslash =>
          split at read
          · cases read
          · obtain ⟨⟨others, last⟩, more, same⟩ := Option.bind_eq_some_iff.1 read
            cases same
            have stays : Standing.quoted.next c = .quoted := by
              simp only [Standing.next, if_neg quote, if_neg backslash]
            exact inductionHypothesis more (stays ▸ integers)

end IntegersFrom

/-- What is read as digits are digits, at least one of them. -/
theorem digits_of_digits? {text : List Char} {n : Nat} (read : Text.digits? text = some n) :
    text ≠ [] ∧ ∀ c ∈ text, c.isDigit = true := by
  have all {text : List Char} {value n : Nat} (read : Text.digitsFrom value text = some n) :
      ∀ c ∈ text, c.isDigit = true := by
    induction text generalizing value with
    | nil => exact List.forall_mem_nil _
    | cons c text inductionHypothesis =>
      obtain ⟨d, digit, more⟩ := Option.bind_eq_some_iff.1 read
      rw [Text.digit?_eq, Option.ite_none_right_eq_some] at digit
      exact List.forall_mem_cons.2 ⟨digit.1, inductionHypothesis more⟩
  obtain ⟨filled, read⟩ := Option.ite_none_left_eq_some.1 read
  exact ⟨fun nothing => filled (by rw [nothing]; rfl), all read⟩

/-- Further digits make no number less. -/
theorem le_of_digitsFrom {text : List Char} {value n : Nat}
    (read : Text.digitsFrom value text = some n) : value ≤ n := by
  induction text generalizing value with
  | nil =>
    cases read
    exact Nat.le_refl _
  | cons c text inductionHypothesis =>
    obtain ⟨d, -, more⟩ := Option.bind_eq_some_iff.1 read
    exact le_trans (by omega) (inductionHypothesis more)

/-- The digits of zero have no significand. -/
theorem significand_of_zero {text : List Char} (zero : Text.digits? text = some 0) :
    (significand 0 text).1 = 0 := by
  have go {text : List Char} (zero : Text.digitsFrom 0 text = some 0) (count : Nat) :
      (significand.go 0 count text).1 = 0 := by
    induction text generalizing count with
    | nil => rfl
    | cons c text inductionHypothesis =>
      obtain ⟨d, digit, more⟩ := Option.bind_eq_some_iff.1 zero
      obtain rfl : d = 0 := by
        have le := le_of_digitsFrom more
        omega
      simp only [significand.go, digit, Option.getD_some]
      exact inductionHypothesis more _
  exact go (Option.ite_none_left_eq_some.1 zero).2 0

/-- Minus zero is the zero with a minus sign, whatever power it is scaled by. -/
theorem ofDecimal_minusZero (power : Int) : Double.ofDecimal true 0 power = some minusZero := by
  have zero : (Double.ofRatio false 0 1).neg = minusZero := by decide
  rw [Double.ofDecimal]
  simp only [if_true, zero]

/-- Digits that stand for an integer of the range are read as a faithful number. -/
theorem faithful_of_integerValue {negative : Bool} {digits : List Char} {n : Nat} {item : Json}
    (digit : Text.digits? digits = some n)
    (range : IntegerRange (if negative then -(n : Int) else n))
    (read : integerValue negative digits = some item) : item.Faithful := by
  have size : UInt64.size = 0xFFFFFFFFFFFFFFFF + 1 := rfl
  simp only [integerValue, digit, Option.bind_some] at read
  obtain ⟨low, high⟩ := range
  cases negative with
  | false =>
    simp only [Bool.false_eq_true, if_false] at high
    rw [if_neg (by simp), if_pos ⟨Bool.false_ne_true, by omega⟩] at read
    cases read
    exact ⟨by omega, high⟩
  | true =>
    simp only [if_true] at low high
    by_cases zero : n = 0
    · subst n
      rw [if_neg (by simp), if_neg (by simp), significand_of_zero digit, ofDecimal_minusZero] at read
      cases read
      rfl
    · rw [if_pos ⟨rfl, by omega, by omega⟩] at read
      cases read
      exact ⟨low, high⟩

/-- Inside of a numeral every such character belongs to it. -/
theorem foldl_next_numeral {run : List Char} (all : ∀ c ∈ run, isNumeral c = true) :
    run.foldl Standing.next .numeral = .numeral := by
  induction run with
  | nil => rfl
  | cons c run inductionHypothesis =>
    obtain ⟨numeral, others⟩ := List.forall_mem_cons.1 all
    have quote : c ≠ '"' := by
      rintro rfl
      cases numeral
    have stays : Standing.numeral.next c = .numeral := by
      simp only [Standing.next, if_neg quote, numeral, if_true]
    rw [List.foldl_cons, stays, inductionHypothesis others]

namespace IntegersFrom

/-- The numeral at the front of a text, and what stands behind it. -/
theorem run {c : Char} {text : List Char} (start : c = '-' ∨ c.isDigit = true)
    (integers : IntegersFrom .outside (c :: text)) :
    InRange (c :: text.takeWhile isNumeral) ∧
      IntegersFrom .outside (text.dropWhile isNumeral) := by
  have numeral : isNumeral c = true := by
    rcases start with rfl | digit
    · rfl
    · simp [isNumeral, digit]
  have begins : Standing.outside.begins c = true := by
    simpa [Standing.begins] using start
  have quote : c ≠ '"' := by
    rintro rfl
    cases numeral
  have entered : Standing.outside.next c = .numeral := by
    simp only [Standing.next, if_neg quote, begins, if_true]
  refine ⟨integers _ ?_, ?_⟩
  · rw [numeralsFrom, if_pos begins, List.takeWhile_cons_of_pos numeral]
    exact List.mem_cons_self
  · have integers := integers.tail
    rw [entered, ← List.takeWhile_append_dropWhile (p := isNumeral) (l := text)] at integers
    have integers := integers.behind
    rw [foldl_next_numeral (List.all_eq_true.1 List.all_takeWhile)] at integers
    -- behind the numeral it makes no difference that there was one
    cases behind : text.dropWhile isNumeral with
    | nil => exact List.forall_mem_nil _
    | cons d rest =>
      have other : isNumeral d = false := by
        have first := List.head?_dropWhile_not isNumeral text
        rw [behind] at first
        simpa using first
      have noStart := other
      simp only [isNumeral, Bool.or_eq_false_iff, decide_eq_false_iff_not] at noStart
      obtain ⟨⟨⟨⟨⟨noDigit, noSign⟩, -⟩, -⟩, -⟩, -⟩ := noStart
      have same : numeralsFrom .outside (d :: rest) = numeralsFrom .numeral (d :: rest) := by
        simp [numeralsFrom, Standing.begins, Standing.next, noDigit, noSign, other]
      rw [behind] at integers
      rwa [IntegersFrom, same]

end IntegersFrom

/-- Nothing at the front of what stands behind a numeral belongs to a number. -/
theorem stops_dropWhile (text : List Char) : Stops (text.dropWhile isNumeral) := by
  intro c tail behind
  have other := List.head?_dropWhile_not isNumeral text
  rw [behind] at other
  simp only [List.head?_cons, isNumeral, Bool.or_eq_false_iff, decide_eq_false_iff_not] at other
  obtain ⟨⟨⟨⟨⟨noDigit, -⟩, -⟩, noPoint⟩, noExponent⟩, noLargeExponent⟩ := other
  exact ⟨noDigit, noPoint, noExponent, noLargeExponent⟩

/-- Behind its sign an integer of the range is read as a faithful number, all of it. -/
theorem faithful_of_unsignedNumber (negative : Bool) {text rest : List Char} {n : Nat} {item : Json}
    (digits : Text.digits? (text.takeWhile isNumeral) = some n)
    (range : IntegerRange (if negative then -(n : Int) else n))
    (read : unsignedNumber negative text = some (item, rest)) :
    item.Faithful ∧ rest = text.dropWhile isNumeral := by
  obtain ⟨filled, all⟩ := digits_of_digits? digits
  rw [← List.takeWhile_append_dropWhile (p := isNumeral) (l := text),
    unsignedNumber_append negative all filled (stops_dropWhile text)] at read
  obtain ⟨-, read⟩ := Option.ite_none_left_eq_some.1 read
  obtain ⟨value, whole, same⟩ := Option.map_eq_some_iff.1 read
  obtain ⟨rfl, rfl⟩ := Prod.mk.inj same
  exact ⟨faithful_of_integerValue digits range whole, rfl⟩

/-- A number begins with a sign or a digit. -/
theorem start_of_number {c : Char} {text rest : List Char} {item : Json}
    (read : number (c :: text) = some (item, rest)) : c = '-' ∨ c.isDigit = true := by
  by_contra other
  obtain ⟨noSign, noDigit⟩ := not_or.1 other
  have none : takeDigits (c :: text) = ([], c :: text) := by
    refine takeDigits_append (List.forall_mem_nil _) fun d tail begins => ?_
    rw [← (List.cons.inj begins).1]
    exact Bool.not_eq_true _ ▸ noDigit
  unfold number at read
  split at read
  · next begins => exact noSign (List.cons.inj begins).1
  · simp [unsignedNumber, none] at read

/-- A number of a text of such integers is faithful, and such a text is left. -/
theorem faithful_of_number {c : Char} {text rest : List Char} {item : Json}
    (read : number (c :: text) = some (item, rest))
    (integers : IntegersFrom .outside (c :: text)) :
    item.Faithful ∧ IntegersFrom .outside rest := by
  have start := start_of_number read
  obtain ⟨⟨n, whole, range⟩, behind⟩ := integers.run start
  rcases eq_or_ne c '-' with rfl | noSign
  · obtain ⟨m, digits, rfl⟩ := Option.map_eq_some_iff.1 whole
    obtain ⟨faithful, rfl⟩ := faithful_of_unsignedNumber true digits range read
    exact ⟨faithful, behind⟩
  · have numeral : isNumeral c = true := by simp [isNumeral, start.resolve_left noSign]
    have whole : (Text.digits? (c :: text.takeWhile isNumeral)).map (fun n : Nat => (n : Int)) = some n := by
      unfold integer? at whole
      split at whole
      · next begins => exact absurd (List.cons.inj begins).1 noSign
      · exact whole
    have read : unsignedNumber false (c :: text) = some (item, rest) := by
      unfold number at read
      split at read
      · next begins => exact absurd (List.cons.inj begins).1 noSign
      · exact read
    rw [← List.takeWhile_cons_of_pos numeral] at whole
    obtain ⟨m, digits, rfl⟩ := Option.map_eq_some_iff.1 whole
    obtain ⟨faithful, rfl⟩ := faithful_of_unsignedNumber false digits range read
    rw [List.dropWhile_cons_of_pos numeral]
    exact ⟨faithful, behind⟩

mutual
/-- A value that is read from a text of integers of the range is faithful, and such a text is
left; -/
theorem Read.faithful {levels : Nat} {text rest : List Char} {item : Json} :
    Read levels text item rest → IntegersFrom .outside text →
      item.Faithful ∧ IntegersFrom .outside rest
  | .null begins word, integers => ⟨trivial, (integers.token begins).expect rfl word⟩
  | .yes begins word, integers => ⟨trivial, (integers.token begins).expect rfl word⟩
  | .no begins word, integers => ⟨trivial, (integers.token begins).expect rfl word⟩
  | .str begins quoted, integers => ⟨trivial, (integers.token begins).stringBody quoted⟩
  | .emptyArr begins closed, integers => ⟨trivial, (integers.token begins).token closed⟩
  | .arr begins items, integers => by
    obtain ⟨faithful, behind⟩ := items.faithful (integers.token begins).skipSpace
    exact ⟨faithfulItems_iff.2 faithful, behind⟩
  | .emptyObj begins closed, integers => ⟨trivial, (integers.token begins).token closed⟩
  | .obj begins members, integers => by
    obtain ⟨faithful, behind⟩ := members.faithful (integers.token begins).skipSpace
    exact ⟨faithfulValues_iff.2 fun member present =>
      faithful member (mem_of_mem_orderMembers present), behind⟩
  | .number begins read, integers => by
    have integers := integers.skipSpace
    rw [begins] at integers
    exact faithful_of_number read integers
/-- so are all the items, -/
theorem ReadItems.faithful {levels : Nat} {text rest : List Char} {found : List Json} :
    ReadItems levels text found rest → IntegersFrom .outside text →
      (∀ item ∈ found, item.Faithful) ∧ IntegersFrom .outside rest
  | .last first closed, integers => by
    obtain ⟨faithful, behind⟩ := first.faithful integers
    exact ⟨List.forall_mem_singleton.2 faithful, behind.token closed⟩
  | .more first comma items, integers => by
    obtain ⟨faithful, behind⟩ := first.faithful integers
    obtain ⟨others, behind⟩ := items.faithful (behind.token comma)
    exact ⟨List.forall_mem_cons.2 ⟨faithful, others⟩, behind⟩
/-- the value of a member, -/
theorem ReadMember.faithful {levels : Nat} {text rest : List Char} {member : String × Json} :
    ReadMember levels text member rest → IntegersFrom .outside text →
      member.2.Faithful ∧ IntegersFrom .outside rest
  | .named begins quoted colon value, integers =>
    value.faithful (((integers.token begins).stringBody quoted).token colon)
/-- and that of every member. -/
theorem ReadMembers.faithful {levels : Nat} {text rest : List Char}
    {found : List (String × Json)} :
    ReadMembers levels text found rest → IntegersFrom .outside text →
      (∀ member ∈ found, member.2.Faithful) ∧ IntegersFrom .outside rest
  | .last first closed, integers => by
    obtain ⟨faithful, behind⟩ := first.faithful integers
    exact ⟨List.forall_mem_singleton.2 faithful, behind.token closed⟩
  | .more first comma members, integers => by
    obtain ⟨faithful, behind⟩ := first.faithful integers
    obtain ⟨others, behind⟩ := members.faithful (behind.token comma)
    exact ⟨List.forall_mem_cons.2 ⟨faithful, others⟩, behind⟩
end

/-- A value whose text has no numerals but integers of the range is faithful. -/
theorem faithful_of_parse {text : String} {item : Json} (read : parse text = some item)
    (integers : ∀ numeral ∈ numerals text, InRange numeral) : item.Faithful := by
  unfold parse at read
  split at read
  · next found rest front =>
    obtain ⟨-, same⟩ := Option.ite_none_right_eq_some.1 read
    cases same
    exact ((read_of_value _ front).faithful integers).1
  · cases read

end MediaNode.Json
