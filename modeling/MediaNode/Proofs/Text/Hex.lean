import MediaNode.Text.Hex
import Mathlib.Data.List.Basic

/-!
# Hexadecimal digits and their values

A digit of either case has the value whose digit its lower case is. So a run of digits spells
exactly one number below the bound that its length sets, and, once its letters are in lower case,
it is what that number is written as in as many digits.
-/
namespace MediaNode.Text.Hex

/-- The lower case of an upper-case letter lies 32 behind it; all other characters stay. -/
theorem toNat_toLower (c : Char) :
    c.toLower.toNat = if 65 ≤ c.toNat ∧ c.toNat ≤ 90 then c.toNat + 32 else c.toNat := by
  unfold Char.toLower
  split
  · next upper =>
    have bounds : 65 ≤ c.toNat ∧ c.toNat ≤ 90 := upper
    rw [if_pos bounds]
    change (c.val + 32).toNat = c.toNat + 32
    rw [UInt32.toNat_add, Char.toNat_val]
    exact Nat.mod_eq_of_lt (by change c.toNat + 32 < 2 ^ 32; omega)
  · next other =>
    have outside : ¬ (65 ≤ c.toNat ∧ c.toNat ≤ 90) := other
    rw [if_neg outside]

/-- Where the digits stand among the characters. -/
theorem toNat_digit {value : Nat} (single : value < 16) :
    (digit value).toNat = if value < 10 then 48 + value else 87 + value := by
  revert value
  decide

/-- A digit is read as its value. -/
theorem value?_digit {value : Nat} (single : value < 16) : value? (digit value) = some value := by
  revert value
  decide

/-- A character has a value exactly if its lower case is the digit of that value. -/
theorem value?_eq_some_iff {c : Char} {value : Nat} :
    value? c = some value ↔ value < 16 ∧ c.toLower = digit value := by
  have decimals : ('0' ≤ c ∧ c ≤ '9') ↔ 48 ≤ c.toNat ∧ c.toNat ≤ 57 := Iff.rfl
  have lower : ('a' ≤ c ∧ c ≤ 'f') ↔ 97 ≤ c.toNat ∧ c.toNat ≤ 102 := Iff.rfl
  have upper : ('A' ≤ c ∧ c ≤ 'F') ↔ 65 ≤ c.toNat ∧ c.toNat ≤ 70 := Iff.rfl
  by_cases single : value < 16
  · rw [← Char.toNat_inj, toNat_toLower, toNat_digit single]
    simp only [value?, decimals, lower, upper, single, true_and]
    split_ifs <;> simp only [Option.some.injEq, false_iff] <;> omega
  · simp only [value?, decimals, lower, upper, single, false_and, iff_false]
    split_ifs <;> simp only [Option.some.injEq, not_false_eq_true] <;> omega

/-- That a character is one of the sixteen digits as they are written. -/
def IsDigit (c : Char) : Prop := ∃ value < 16, c = digit value

/-- Digits are written in lower case, -/
theorem IsDigit.toLower {c : Char} (written : IsDigit c) : c.toLower = c := by
  obtain ⟨value, single, rfl⟩ := written
  exact (value?_eq_some_iff.mp (value?_digit single)).2

/-- and all of them are in the ASCII range. -/
theorem IsDigit.ascii {c : Char} (written : IsDigit c) : c.toNat < 128 := by
  obtain ⟨value, single, rfl⟩ := written
  rw [toNat_digit single]
  split <;> omega

/-- A number is written in as many digits as it is asked for, -/
@[simp] theorem length_fixed (width n : Nat) : (fixed width n).length = width := by
  induction width generalizing n with
  | zero => rfl
  | succ width inductionHypothesis => simp [fixed, inductionHypothesis]

/-- and in nothing but digits. -/
theorem isDigit_of_mem_fixed {width n : Nat} {c : Char} (member : c ∈ fixed width n) :
    IsDigit c := by
  induction width generalizing n with
  | zero => cases member
  | succ width inductionHypothesis =>
    rcases List.mem_append.mp member with front | last
    · exact inductionHypothesis front
    · rw [List.mem_singleton.mp last]
      exact ⟨n % 16, Nat.mod_lt n (by decide), rfl⟩

/-- A byte is written in two digits, -/
@[simp] theorem length_encode (bytes : List UInt8) : (encode bytes).length = 2 * bytes.length := by
  induction bytes with
  | nil => rfl
  | cons byte rest inductionHypothesis =>
    simp only [encode, List.length_cons, inductionHypothesis]
    omega

/-- and bytes in nothing but digits. -/
theorem isDigit_of_mem_encode {bytes : List UInt8} {c : Char} (member : c ∈ encode bytes) :
    IsDigit c := by
  induction bytes with
  | nil => cases member
  | cons byte rest inductionHypothesis =>
    have small : byte.toNat < 256 := byte.toNat_lt
    rcases List.mem_cons.mp member with rfl | member
    · exact ⟨byte.toNat / 16, by omega, rfl⟩
    · rcases List.mem_cons.mp member with rfl | member
      · exact ⟨byte.toNat % 16, Nat.mod_lt _ (by decide), rfl⟩
      · exact inductionHypothesis member

end MediaNode.Text.Hex
