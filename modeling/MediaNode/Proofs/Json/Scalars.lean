import MediaNode.Json.Printer
import MediaNode.Json.Reader
import MediaNode.Proofs.Text.Hex

/-!
# Numbers and strings read back

The number of an integer reads back as that integer as long as nothing behind it can be
taken for more of the number, which is what `Ended` asks of the text behind a value. A
string needs no such care: it ends at its closing quote, and no escape contains one that
is not escaped itself.
-/
namespace MediaNode

namespace Text

/-- The digits that are read are the decimal digits. -/
theorem digit?_eq (c : Char) :
    digit? c = if c.isDigit then some (c.toNat - '0'.toNat) else none := by
  have same : ('0' ≤ c ∧ c ≤ '9') ↔ c.isDigit = true := by
    simp only [Char.isDigit, Bool.and_eq_true, decide_eq_true_eq]
    rfl
  simp only [digit?, same]

/-- A run of digits is read in base ten. -/
theorem digitsFrom_of_digits {text : List Char} (digits : ∀ c ∈ text, c.isDigit = true)
    (value : Nat) : digitsFrom value text = some (Nat.ofDigitChars 10 text value) := by
  induction text generalizing value with
  | nil => rfl
  | cons c rest inductionHypothesis =>
    rw [digitsFrom, digit?_eq, if_pos (digits c List.mem_cons_self), Option.bind_some,
      inductionHypothesis fun d present => digits d (List.mem_cons_of_mem _ present),
      Nat.ofDigitChars_cons]

/-- The decimal digits of a number are digits. -/
theorem isDigit_of_mem_decimal {n : Nat} {c : Char} (present : c ∈ Nat.toDigits 10 n) :
    c.isDigit = true :=
  Nat.isDigit_of_mem_toDigits (by decide) (by decide) present

/-- The decimal digits of a number are read as that number. -/
theorem digits?_toDigits (n : Nat) : digits? (Nat.toDigits 10 n) = some n := by
  have filled : (Nat.toDigits 10 n).isEmpty = false :=
    List.isEmpty_eq_false_iff.2 Nat.toDigits_ne_nil
  rw [digits?, filled, if_neg Bool.false_ne_true,
    digitsFrom_of_digits fun _ => isDigit_of_mem_decimal, Nat.ofDigitChars_ten_toDigits]

/-- Only the number zero begins with the digit zero. -/
theorem toDigits_ne_zero_cons {n : Nat} (positive : 0 < n) (rest : List Char) :
    Nat.toDigits 10 n ≠ '0' :: rest := by
  induction n using Nat.strongRecOn generalizing rest with
  | ind n inductionHypothesis =>
    by_cases single : n < 10
    · rw [Nat.toDigits_of_lt_base single]
      intro same
      have zero : n = 0 := Nat.digitChar_eq_zero.1 (List.cons.inj same).1
      omega
    · rw [Nat.toDigits_of_base_le (by decide) (Nat.le_of_not_lt single)]
      have shorter := inductionHypothesis (n / 10) (by omega) (by omega)
      cases leading : Nat.toDigits 10 (n / 10) with
      | nil => exact absurd leading Nat.toDigits_ne_nil
      | cons c others =>
        intro same
        have zero : c = '0' := (List.cons.inj same).1
        exact shorter others (zero ▸ leading)

/-- The decimal digits of a number begin with a digit. -/
theorem exists_toDigits_eq_cons (n : Nat) :
    ∃ c rest, Nat.toDigits 10 n = c :: rest ∧ c.isDigit = true := by
  cases digits : Nat.toDigits 10 n with
  | nil => exact absurd digits Nat.toDigits_ne_nil
  | cons c rest => exact ⟨c, rest, rfl, isDigit_of_mem_decimal (digits ▸ List.mem_cons_self)⟩

/-- A negative number is written as its sign and its digits. -/
theorem toList_signedDecimal_of_neg {n : Int} (negative : n < 0) :
    (signedDecimal n).toList = '-' :: Nat.toDigits 10 n.natAbs := by
  rw [signedDecimal, if_pos negative, String.toList_append, decimal,
    String.toList_ofList (l := Nat.toDigits 10 n.natAbs)]
  rfl

/-- Any other number is written as its digits. -/
theorem toList_signedDecimal_of_nonneg {n : Int} (natural : 0 ≤ n) :
    (signedDecimal n).toList = Nat.toDigits 10 n.natAbs := by
  rw [signedDecimal, if_neg (Int.not_lt.2 natural), decimal, String.toList_ofList]

end Text

namespace Json

/-- What may stand behind a value: nothing, or what ends an item or a member. -/
def Ended (rest : List Char) : Prop :=
  ∀ c tail, rest = c :: tail → c = ',' ∨ c = ']' ∨ c = '\x7d'

/-- That nothing at the front of a text can be taken for more of a number. -/
def Stops (rest : List Char) : Prop :=
  ∀ c tail, rest = c :: tail → c.isDigit = false ∧ c ≠ '.' ∧ c ≠ 'e' ∧ c ≠ 'E'

/-- What may stand behind a value cannot. -/
theorem Ended.stops {rest : List Char} (ended : Ended rest) : Stops rest := by
  intro c tail begins
  rcases ended c tail begins with rfl | rfl | rfl <;> decide

/-- Digits are taken up to the first character that is none. -/
theorem takeDigits_append {digits rest : List Char} (all : ∀ c ∈ digits, c.isDigit = true)
    (stops : ∀ c tail, rest = c :: tail → c.isDigit = false) :
    takeDigits (digits ++ rest) = (digits, rest) := by
  have isDigit (c : Char) : (Text.digit? c).isSome = c.isDigit := by
    rw [Text.digit?_eq]
    cases c.isDigit <;> rfl
  simp only [takeDigits, isDigit]
  rw [List.takeWhile_append_of_pos all, List.dropWhile_append_of_pos all]
  cases rest with
  | nil => simp only [List.takeWhile_nil, List.append_nil, List.dropWhile_nil]
  | cons c tail =>
    have noDigit : c.isDigit = false := stops c tail rfl
    rw [List.takeWhile_cons_of_neg (by simp [noDigit]), List.dropWhile_cons_of_neg (by simp [noDigit]),
      List.append_nil]

/-- A whole number is read from its digits alone, unless there is a zero in front of them. -/
theorem unsignedNumber_append (negative : Bool) {digits rest : List Char}
    (all : ∀ c ∈ digits, c.isDigit = true) (filled : digits ≠ []) (stops : Stops rest) :
    unsignedNumber negative (digits ++ rest) =
      if digits.head? = some '0' ∧ 1 < digits.length then none
      else (integerValue negative digits).map fun value => (value, rest) := by
  have taken : takeDigits (digits ++ rest) = (digits, rest) :=
    takeDigits_append all fun c tail begins => (stops c tail begins).1
  have nonempty : digits.isEmpty = false := List.isEmpty_eq_false_iff.2 filled
  -- neither a fraction nor an exponent begins with what stands behind the number
  have noFraction (tail : List Char) : rest ≠ '.' :: tail :=
    fun begins => (stops _ _ begins).2.1 rfl
  have noExponent (tail : List Char) : rest ≠ 'e' :: tail :=
    fun begins => (stops _ _ begins).2.2.1 rfl
  have noLargeExponent (tail : List Char) : rest ≠ 'E' :: tail :=
    fun begins => (stops _ _ begins).2.2.2 rfl
  simp only [unsignedNumber, taken, nonempty, Bool.false_or]
  split
  · simp
  · next noLeadingZero =>
    have single : ¬ (digits.head? = some '0' ∧ 1 < digits.length) := by
      rcases digits with _ | ⟨c, _ | ⟨d, others⟩⟩
      · simp
      · simp
      · rintro ⟨leading, -⟩
        exact noLeadingZero d others (by rw [Option.some.inj leading])
    rw [if_neg single]
    simp only [Bool.false_eq_true, if_false, Option.bind_eq_bind, Option.bind_some]

/-- The decimal digits of a number have no zero in front of them. -/
theorem unsignedNumber_toDigits (negative : Bool) (n : Nat) {rest : List Char}
    (ended : Ended rest) :
    unsignedNumber negative (Nat.toDigits 10 n ++ rest) =
      (integerValue negative (Nat.toDigits 10 n)).map fun value => (value, rest) := by
  have noLeadingZero :
      ¬ ((Nat.toDigits 10 n).head? = some '0' ∧ 1 < (Nat.toDigits 10 n).length) := by
    rintro ⟨leading, several⟩
    rcases Nat.eq_zero_or_pos n with rfl | positive
    · rw [Nat.toDigits_zero] at several
      exact absurd several (Nat.lt_irrefl 1)
    · obtain ⟨rest, begins⟩ := List.head?_eq_some_iff.1 leading
      exact Text.toDigits_ne_zero_cons positive rest begins
  rw [unsignedNumber_append negative (fun _ => Text.isDigit_of_mem_decimal) Nat.toDigits_ne_nil
    ended.stops, if_neg noLeadingZero]

/-- An integer of the range reads back as it is, with or without its sign. -/
theorem number_signedDecimal {n : Int} (range : IntegerRange n) {rest : List Char}
    (ended : Ended rest) :
    number ((Text.signedDecimal n).toList ++ rest) = some (.int n, rest) := by
  obtain ⟨low, high⟩ := range
  by_cases negative : n < 0
  · have fits : 0 < n.natAbs ∧ n.natAbs ≤ 0x8000000000000000 := by omega
    have exact : -(n.natAbs : Int) = n := by omega
    rw [Text.toList_signedDecimal_of_neg negative, List.cons_append, number,
      unsignedNumber_toDigits true _ ended]
    simp only [integerValue, Text.digits?_toDigits, Option.bind_some, true_and, if_pos fits, exact,
      Option.map_some]
  · have fits : n.natAbs < UInt64.size := by
      have : UInt64.size = 0xFFFFFFFFFFFFFFFF + 1 := rfl
      omega
    have exact : (n.natAbs : Int) = n := by omega
    have unsigned : number (Nat.toDigits 10 n.natAbs ++ rest) =
        unsignedNumber false (Nat.toDigits 10 n.natAbs ++ rest) := by
      obtain ⟨c, others, leading, digit⟩ := Text.exists_toDigits_eq_cons n.natAbs
      have noSign : c ≠ '-' := by
        rintro rfl
        exact absurd digit (by decide)
      rw [leading, List.cons_append, number]
      exact fun _ same => noSign (List.cons.inj same).1
    rw [Text.toList_signedDecimal_of_nonneg (Int.not_lt.1 negative), unsigned,
      unsignedNumber_toDigits false _ ended]
    simp only [integerValue, Text.digits?_toDigits, Option.bind_some, Bool.false_eq_true,
      false_and, if_false, not_false_eq_true, true_and, if_pos fits, exact, Option.map_some]

/-- The zero with a minus sign, which is no integer. -/
def minusZero : Double := ⟨0x8000000000000000⟩

/-- It is written with a point. -/
theorem toText_minusZero : minusZero.toText = "-0.0" := by
  decide +kernel

/-- It is read back from its text, though it has no value but zero. -/
theorem number_minusZero {rest : List Char} (ended : Ended rest) :
    number ("-0.0".toList ++ rest) = some (.float minusZero, rest) := by
  have zero : ∀ c ∈ ['0'], c.isDigit = true := List.forall_mem_singleton.2 rfl
  have whole : takeDigits ('0' :: '.' :: '0' :: rest) = (['0'], '.' :: '0' :: rest) := by
    refine takeDigits_append zero fun c tail begins => ?_
    rw [← (List.cons.inj begins).1]
    decide
  have fraction : fractionPart ('0' :: rest) = some (['0'], rest) := by
    have taken : takeDigits ('0' :: rest) = (['0'], rest) :=
      takeDigits_append zero fun c tail begins => (ended.stops c tail begins).1
    rw [fractionPart, taken]
    rfl
  have noExponent (tail : List Char) : rest ≠ 'e' :: tail :=
    fun begins => (ended.stops _ _ begins).2.2.1 rfl
  have noLargeExponent (tail : List Char) : rest ≠ 'E' :: tail :=
    fun begins => (ended.stops _ _ begins).2.2.2 rfl
  have read : Double.ofDecimal true 0 (-1) = some minusZero := by decide
  change unsignedNumber true ('0' :: '.' :: '0' :: rest) = _
  simp only [unsignedNumber, whole, fraction, List.isEmpty_cons, Bool.or_false, Bool.false_eq_true,
    if_false, Option.map_some, Option.bind_eq_bind, Option.bind_some]
  exact congrArg (Option.map fun x => (Json.float x, rest)) read

/-- Four hexadecimal digits are read as the number that they write. -/
theorem hexUnit_fixed {n : Nat} (fits : n < 0x10000) (rest : List Char) :
    hexUnit (Text.Hex.fixed 4 n ++ rest) = some (n, rest) := by
  have digits : Text.Hex.fixed 4 n ++ rest =
      Text.Hex.digit (n / 16 / 16 / 16 % 16) :: Text.Hex.digit (n / 16 / 16 % 16) ::
        Text.Hex.digit (n / 16 % 16) :: Text.Hex.digit (n % 16) :: rest := rfl
  have single (n : Nat) : n % 16 < 16 := Nat.mod_lt n (by decide)
  simp only [digits, hexUnit, Text.Hex.value?_digit (single _), Option.some.injEq,
    Prod.mk.injEq, and_true]
  omega

/-- A control character is read back from its number. -/
theorem unicodeEscape_fixed {c : Char} (control : c.toNat < 0x20) (rest : List Char) :
    unicodeEscape (Text.Hex.fixed 4 c.toNat ++ rest) = some (c, rest) := by
  have notTrailing : ¬ (0xDC00 ≤ c.toNat ∧ c.toNat ≤ 0xDFFF) := by omega
  have notLeading : ¬ (0xD800 ≤ c.toNat ∧ c.toNat ≤ 0xDBFF) := by omega
  simp only [unicodeEscape, hexUnit_fixed (by omega : c.toNat < 0x10000), if_neg notTrailing,
    if_neg notLeading, Char.ofNat_toNat]

/-- A character behind a backslash stands for another one, unless it begins a number. -/
theorem stringBody_short (fuel : Nat) {e c : Char} (short : shortEscape e = some c)
    (rest : List Char) :
    stringBody (fuel + 1) ('\\' :: e :: rest) =
      (stringBody fuel rest).map fun found => (c :: found.1, found.2) := by
  have notNumber : e ≠ 'u' := by
    rintro rfl
    cases short
  simp only [stringBody, short, Char.reduceEq, if_false, if_true, Option.bind_eq_bind,
    Option.bind_some]
  cases stringBody fuel rest <;> rfl

/-- A character stands for itself through its escape. -/
theorem stringBody_escape (fuel : Nat) (c : Char) (rest : List Char) :
    stringBody (fuel + 1) (escape c ++ rest) =
      (stringBody fuel rest).map fun found => (c :: found.1, found.2) := by
  -- the characters with an escape of their own, in the order of the definition
  by_cases special : c = '"' ∨ c = '\\' ∨ c = '\n' ∨ c = '\r' ∨ c = '\t' ∨ c = '\x08' ∨ c = '\x0c'
  · rcases special with rfl | rfl | rfl | rfl | rfl | rfl | rfl
    all_goals exact stringBody_short fuel rfl rest
  · simp only [not_or] at special
    obtain ⟨notQuote, notBackslash, notNewline, notReturn, notTab, notBackspace, notFeed⟩ := special
    simp only [escape, if_neg notQuote, if_neg notBackslash, if_neg notNewline, if_neg notReturn,
      if_neg notTab, if_neg notBackspace, if_neg notFeed]
    by_cases control : c.toNat < 0x20
    · simp only [if_pos control, List.cons_append, stringBody, Char.reduceEq, if_false, if_true,
        unicodeEscape_fixed control, Option.bind_eq_bind, Option.bind_some]
      cases stringBody fuel rest <;> rfl
    · simp only [if_neg control, List.cons_append, List.nil_append, stringBody, if_neg notQuote,
        if_neg notBackslash]
      cases stringBody fuel rest <;> rfl

/-- A text reads back through its escapes, up to the closing quote. Every character takes
one step. -/
theorem stringBody_flatMap_escape {text : List Char} {fuel : Nat} (enough : text.length < fuel)
    (rest : List Char) :
    stringBody fuel (text.flatMap escape ++ '"' :: rest) = some (text, rest) := by
  induction text generalizing fuel with
  | nil =>
    obtain ⟨fuel, rfl⟩ := Nat.exists_eq_add_of_lt enough
    simp only [List.flatMap_nil, List.nil_append, stringBody, if_true]
  | cons c text inductionHypothesis =>
    obtain ⟨fuel, rfl⟩ := Nat.exists_eq_add_of_lt enough
    rw [List.flatMap_cons, List.append_assoc, stringBody_escape,
      inductionHypothesis (by rw [List.length_cons]; omega), Option.map_some]

/-- No escape is empty. -/
theorem length_le_length_flatMap_escape (text : List Char) :
    text.length ≤ (text.flatMap escape).length := by
  induction text with
  | nil => exact Nat.le_refl 0
  | cons c text inductionHypothesis =>
    have filled : 0 < (escape c).length := by
      unfold escape
      repeat' split
      all_goals exact Nat.succ_pos _
    rw [List.flatMap_cons, List.length_append, List.length_cons]
    omega

/-- A quoted text reads back behind its opening quote, with the fuel that the reader has
there. -/
theorem stringBody_quoted (text : String) (rest : List Char) :
    stringBody ((text.toList.flatMap escape ++ '"' :: rest).length + 1)
      (text.toList.flatMap escape ++ '"' :: rest) = some (text.toList, rest) := by
  refine stringBody_flatMap_escape ?_ rest
  have shorter := length_le_length_flatMap_escape text.toList
  rw [List.length_append]
  omega

end Json
end MediaNode
