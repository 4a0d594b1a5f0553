import Mathlib.Algebra.Group.Nat.Defs
import Mathlib.Data.List.Induction
import MediaNode.License
import MediaNode.Proofs.Text.Bytes
import MediaNode.Proofs.Text.Hex

/-!
# Which keys are accepted

A text is read as a key exactly when it is the key that is issued for some expiry, its letters in
any case, and then it is read as that expiry. Nothing of this depends on the digest, as long as it
has enough bytes for the digits that a key has of it.

Reading a number from digits and writing it in digits are inverse to each other but for the case
of the letters. So are reading a signed number from an unsigned one of 64 bits and back.
-/
namespace MediaNode.License

open Text

variable {digest : List UInt8 → List UInt8} {key : List Char}

/-- Digits are read one after the other. -/
theorem spelled_eq_foldl (digits : List Char) :
    spelled digits = digits.foldl
      (fun n c => n.bind fun n => (Hex.value? c).map (16 * n + ·)) (some 0) := by
  cases digits <;> rfl

/-- The last digit counts for itself, those in front of it sixteen times. -/
theorem spelled_concat (digits : List Char) (c : Char) :
    spelled (digits ++ [c]) =
      (spelled digits).bind fun n => (Hex.value? c).map (16 * n + ·) := by
  rw [spelled_eq_foldl, List.foldl_concat, ← spelled_eq_foldl]

/-- Digits spell a number exactly when they write it, in any case. -/
theorem spelled_eq_some_iff {digits : List Char} {n : Nat} :
    spelled digits = some n ↔
      n < 16 ^ digits.length ∧ digits.map Char.toLower = Hex.fixed digits.length n := by
  induction digits using List.reverseRecOn generalizing n with
  | nil => simp [spelled, Hex.fixed, eq_comm]
  | append_singleton digits c inductionHypothesis =>
    have split : digits.map Char.toLower ++ [c.toLower] =
        Hex.fixed digits.length (n / 16) ++ [Hex.digit (n % 16)] ↔
        digits.map Char.toLower = Hex.fixed digits.length (n / 16) ∧
          c.toLower = Hex.digit (n % 16) := by
      rw [List.append_eq_append_iff_of_size_eq_left (by simp), List.singleton_inj]
    rw [spelled_concat, List.length_append, List.length_singleton, List.map_append,
      List.map_singleton, Hex.fixed, split, Nat.pow_succ]
    simp only [Option.bind_eq_some_iff, Option.map_eq_some_iff, inductionHypothesis,
      Hex.value?_eq_some_iff]
    constructor
    · rintro ⟨front, ⟨bound, digits⟩, last, ⟨single, digit⟩, rfl⟩
      have quotient : (16 * front + last) / 16 = front := by omega
      have remainder : (16 * front + last) % 16 = last := by omega
      rw [quotient, remainder]
      exact ⟨by omega, digits, digit⟩
    · rintro ⟨bound, digits, digit⟩
      exact ⟨n / 16, ⟨by omega, digits⟩, n % 16, ⟨by omega, digit⟩, by omega⟩

/-- A number is written in 64 bits by what it leaves. -/
theorem toNat_emod_lt (expiry : Int) : (expiry % UInt64.size).toNat < UInt64.size := by
  simp only [UInt64.size]
  omega

/-- The signed number of an unsigned one of 64 bits, and back. -/
theorem signed64_eq_iff {n : Nat} (fits : n < UInt64.size) (expiry : Int64) :
    signed64 n = expiry.toInt ↔ n = (expiry.toInt % UInt64.size).toNat := by
  have low := expiry.le_toInt
  have high := expiry.toInt_lt
  simp only [signed64, UInt64.size] at fits ⊢
  split <;> omega

/-- An unsigned number of 64 bits is read as a signed one of 64 bits. -/
theorem exists_signed64 {n : Nat} (fits : n < UInt64.size) :
    ∃ expiry : Int64, signed64 n = expiry.toInt := by
  refine ⟨.ofInt (signed64 n), (Int64.toInt_ofInt_of_le ?_ ?_).symm⟩ <;>
    simp only [signed64, UInt64.size] at fits ⊢ <;> split <;> omega

/-- That a digest has 32 bytes. -/
def IsWide (digest : List UInt8 → List UInt8) : Prop := ∀ message, (digest message).length = 32

/-- A wide digest has all the digits that a key wants of it. -/
theorem length_keyChars (wide : IsWide digest) (expiry : Int) :
    (keyChars digest expiry).length = keyDigits := by
  rw [keyChars, List.length_append, expiryText, Hex.length_fixed, checksum, List.length_take,
    Hex.length_encode, wide]
  rfl

/-- A key is digits. -/
theorem isDigit_of_mem_keyChars {expiry : Int} {c : Char} (member : c ∈ keyChars digest expiry) :
    Hex.IsDigit c := by
  rcases List.mem_append.mp member with front | behind
  · exact Hex.isDigit_of_mem_fixed front
  · exact Hex.isDigit_of_mem_encode (List.mem_of_mem_take behind)

/-- Keys are issued in lower case. -/
theorem toLower_keyChars (digest : List UInt8 → List UInt8) (expiry : Int) :
    (keyChars digest expiry).map Char.toLower = keyChars digest expiry := by
  rw [List.map_congr_left fun c member => (isDigit_of_mem_keyChars member).toLower, List.map_id']

/-- A text is read as a key if it has the length of one and nothing but ASCII characters, if its
second half vouches for the first, and if the first spells a number. -/
theorem expiryOf_eq_some_iff {expiry : Int} :
    expiryOf digest key = some expiry ↔
      (key.length = keyDigits ∧ ∀ c ∈ key, c.toNat < 128) ∧
        checksum digest ((key.take expiryDigits).map Char.toLower) =
          (key.drop expiryDigits).map Char.toLower ∧
        ∃ n, spelled (key.take expiryDigits) = some n ∧ signed64 n = expiry := by
  have flawed : (key.length ≠ keyDigits ∨ ¬ (key.all fun c => c.toNat < 128) = true) ↔
      ¬ (key.length = keyDigits ∧ ∀ c ∈ key, c.toNat < 128) := by
    simp only [List.all_eq_true, decide_eq_true_eq, not_and_or, ne_eq]
  simp only [expiryOf, List.splitAt_eq, flawed, ite_not, ne_eq]
  by_cases sound : key.length = keyDigits ∧ ∀ c ∈ key, c.toNat < 128
  · rw [if_pos sound, Option.ite_none_right_eq_some, Option.map_eq_some_iff]
    exact (and_iff_right sound).symm
  · rw [if_neg sound]
    simp only [sound, false_and, reduceCtorEq]

/-- A text is read as an expiry exactly if, in lower case, it is the key of that expiry. -/
theorem expiryOf_eq_iff (wide : IsWide digest) {expiry : Int64} :
    expiryOf digest key = some expiry.toInt ↔
      key.map Char.toLower = keyChars digest expiry.toInt := by
  constructor
  · intro read
    obtain ⟨⟨length, -⟩, vouched, n, spells, signed⟩ := expiryOf_eq_some_iff.mp read
    have front : (key.take expiryDigits).length = expiryDigits := by
      rw [List.length_take, length]
      rfl
    obtain ⟨bound, digits⟩ := spelled_eq_some_iff.mp spells
    rw [front] at bound digits
    rw [(signed64_eq_iff bound expiry).mp signed] at digits
    change _ = expiryText expiry.toInt at digits
    rw [← List.take_append_drop expiryDigits key, List.map_append, ← vouched, digits]
    rfl
  · intro issued
    have length : key.length = keyDigits := by
      rw [← length_keyChars wide expiry.toInt, ← issued, List.length_map]
    have front : (key.take expiryDigits).length = expiryDigits := by
      rw [List.length_take, length]
      rfl
    have ascii : ∀ c ∈ key, c.toNat < 128 := by
      intro c member
      have lower := (isDigit_of_mem_keyChars (issued ▸ List.mem_map_of_mem member)).ascii
      rw [Hex.toNat_toLower] at lower
      split at lower <;> omega
    -- the two halves of the text are the two halves of the key
    have halves : (key.take expiryDigits).map Char.toLower ++
        (key.drop expiryDigits).map Char.toLower =
          expiryText expiry.toInt ++ checksum digest (expiryText expiry.toInt) := by
      rw [← List.map_append, List.take_append_drop, issued]
      rfl
    obtain ⟨digits, vouched⟩ := List.append_inj halves (by
      rw [List.length_map, front, expiryText, Hex.length_fixed])
    have fits := toNat_emod_lt expiry.toInt
    refine expiryOf_eq_some_iff.mpr ⟨⟨length, ascii⟩, by rw [vouched, digits], _,
      spelled_eq_some_iff.mpr ⟨?_, ?_⟩, (signed64_eq_iff fits expiry).mpr rfl⟩
    · rw [front]
      exact fits
    · rw [front]
      exact digits

/-- Whatever a text is read as is a number of 64 bits. -/
theorem exists_of_expiryOf {expiry : Int} (read : expiryOf digest key = some expiry) :
    ∃ number : Int64, number.toInt = expiry := by
  obtain ⟨⟨length, -⟩, -, n, spells, rfl⟩ := expiryOf_eq_some_iff.mp read
  have fits := (spelled_eq_some_iff.mp spells).1
  rw [List.length_take, length] at fits
  obtain ⟨number, signed⟩ := exists_signed64 fits
  exact ⟨number, signed.symm⟩

/-- That a text is the key of an expiry, its letters in any case. -/
def IsKeyOf (digest : List UInt8 → List UInt8) (key : String) (expiry : Int64) : Prop :=
  asciiLower key = String.ofList (keyChars digest expiry.toInt)

/-- A text is the key of an expiry if its characters are those of the key. -/
theorem isKeyOf_iff {key : String} {expiry : Int64} :
    IsKeyOf digest key expiry ↔ key.toList.map Char.toLower = keyChars digest expiry.toInt :=
  String.ofList_inj

/-- The digest in use is wide. -/
theorem isWide_digest : IsWide License.digest := fun _ => rfl

/-- An ASCII character is one byte. -/
theorem utf8EncodeChar_of_ascii {c : Char} (ascii : c.toNat < 128) :
    String.utf8EncodeChar c = [c.toUInt8] := by
  have single : c.val.toNat ≤ 0x7f := Nat.le_of_lt_succ ascii
  simp only [String.utf8EncodeChar, single, if_true]
  rfl

/-- So a text of ASCII characters has as many bytes, and is cut at characters wherever it is cut at
bytes. -/
theorem bytes_of_ascii {text : List Char} (ascii : ∀ c ∈ text, c.toNat < 128) :
    bytes (String.ofList text) = text.map Char.toUInt8 := by
  rw [bytes_ofList, List.flatMap_congr fun c member => utf8EncodeChar_of_ascii (ascii c member),
    List.map_eq_flatMap]

/-- A text is read as an expiry exactly if it is the key of that expiry, its letters in any case,
and whatever is read is a number of 64 bits. So every key that is issued is read as its expiry, two
expiries have different keys, and a key is active exactly if it is that of an expiry to come. All of
this holds for every wide digest, the one in use among them. A text with the length of a key in
bytes and nothing but ASCII characters has that length in characters too, and its first half in
bytes is its first half in characters. -/
theorem read_iff_issued (wide : IsWide digest) :
    (∀ (key : String) (expiry : Int64),
      expiryOf digest key.toList = some expiry.toInt ↔ IsKeyOf digest key expiry) ∧
    (∀ (key : String) (expiry : Int), expiryOf digest key.toList = some expiry →
      ∃ number : Int64, number.toInt = expiry) ∧
    (∀ expiry : Int64, expiryOf digest (keyChars digest expiry.toInt) = some expiry.toInt) ∧
    (∀ one other : Int64, keyChars digest one.toInt = keyChars digest other.toInt → one = other) ∧
    (∀ (key : String) (now : Int),
      (∃ expiry, expiryOf digest key.toList = some expiry ∧ now < expiry) ↔
        ∃ expiry : Int64, now < expiry.toInt ∧ IsKeyOf digest key expiry) ∧
    (∀ (key : String) (expiry : Int64),
      expireTime key = some expiry.toInt ↔ asciiLower key = makeKey expiry.toInt) ∧
    (∀ (key : String) (now : Int), isActive key now = true ↔
      ∃ expiry : Int64, now < expiry.toInt ∧ asciiLower key = makeKey expiry.toInt) ∧
    ∀ key : String, (bytes key).length = keyDigits → (∀ c ∈ key.toList, c.toNat < 128) →
      key.toList.length = keyDigits ∧
        bytes (String.ofList (key.toList.take expiryDigits)) = (bytes key).take expiryDigits := by
  have reads {digest : List UInt8 → List UInt8} (wide : IsWide digest) (key : String)
      (expiry : Int64) :
      expiryOf digest key.toList = some expiry.toInt ↔ IsKeyOf digest key expiry :=
    (expiryOf_eq_iff wide).trans isKeyOf_iff.symm
  have active {digest : List UInt8 → List UInt8} (wide : IsWide digest) (key : String)
      (now : Int) : (∃ expiry, expiryOf digest key.toList = some expiry ∧ now < expiry) ↔
        ∃ expiry : Int64, now < expiry.toInt ∧ IsKeyOf digest key expiry := by
    constructor
    · rintro ⟨_, read, later⟩
      obtain ⟨expiry, rfl⟩ := exists_of_expiryOf read
      exact ⟨expiry, later, (reads wide key expiry).mp read⟩
    · rintro ⟨expiry, later, issued⟩
      exact ⟨expiry.toInt, (reads wide key expiry).mpr issued, later⟩
  have issued (expiry : Int64) :
      expiryOf digest (keyChars digest expiry.toInt) = some expiry.toInt :=
    (expiryOf_eq_iff wide).mpr (toLower_keyChars digest expiry.toInt)
  refine ⟨reads wide, fun key expiry => exists_of_expiryOf, issued, ?_, active wide,
    reads isWide_digest, ?_, ?_⟩
  · intro one other same
    have read := issued one
    rw [same, issued other] at read
    exact Int64.toInt_inj.mp (Option.some.inj read).symm
  · intro key now
    refine Iff.trans ?_ (active isWide_digest key now)
    unfold isActive expireTime
    cases expiryOf License.digest key.toList with
    | none => simp
    | some expiry => simp
  · intro key length ascii
    have whole := bytes_of_ascii ascii
    rw [String.ofList_toList] at whole
    rw [whole, List.length_map] at length
    refine ⟨length, ?_⟩
    rw [whole, bytes_of_ascii fun c member => ascii c (List.mem_of_mem_take member), List.map_take]

/-- A key of a moment before the epoch, its letters in mixed case, is read by the digest in use. -/
theorem read_iff_issued_negative :
    IsWide License.digest ∧
      expireTime "fFFFffffFFFFffffA3e70fe9fc92b94bcc9f3a484f9979FC" = some (-1) ∧
      isActive "fFFFffffFFFFffffA3e70fe9fc92b94bcc9f3a484f9979FC" (-2) = true := by
  obtain ⟨-, -, -, -, -, reads, active, -⟩ := read_iff_issued isWide_digest
  have issued : asciiLower "fFFFffffFFFFffffA3e70fe9fc92b94bcc9f3a484f9979FC" =
      makeKey (-1 : Int64).toInt := by
    decide +kernel
  exact ⟨isWide_digest, (reads _ (-1)).mpr issued, (active _ (-2)).mpr ⟨-1, by decide, issued⟩⟩

end MediaNode.License
