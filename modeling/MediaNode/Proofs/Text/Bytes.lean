import MediaNode.Text.Bytes
import Mathlib.Data.List.Basic
import Mathlib.Data.String.Basic

/-!
# A text and its bytes

Every text has bytes of its own, those of its characters one after the other, and bytes are
read as the one text that they are the bytes of. Two texts stand in the same order as their bytes.
-/
namespace MediaNode.Text

/-- The bytes listed from a place on are those behind the ones listed already. -/
theorem toList_loop (bytes : ByteArray) (place : Nat) (listed : List UInt8) :
    ByteArray.toList.loop bytes place listed = listed.reverse ++ bytes.data.toList.drop place := by
  induction place, listed using ByteArray.toList.loop.induct bytes with
  | case1 place listed inside inductionHypothesis =>
    have there : place < bytes.data.toList.length := by
      rw [Array.length_toList]
      exact inside
    have byte : bytes.get! place = bytes.data.toList[place] := by
      rw [Array.getElem_toList]
      exact getElem!_pos bytes.data place inside
    rw [ByteArray.toList.loop, if_pos inside, inductionHypothesis, byte, List.drop_eq_getElem_cons there,
      List.reverse_cons, List.append_assoc, List.singleton_append]
  | case2 place listed outside =>
    have passed : bytes.data.toList.length ≤ place := by
      rw [Array.length_toList]
      exact Nat.le_of_not_lt outside
    rw [ByteArray.toList.loop, if_neg outside, List.drop_eq_nil_of_le passed, List.append_nil]

/-- The bytes of a text are its encoding. -/
theorem bytes_eq (text : String) : bytes text = text.toByteArray.data.toList := by
  rw [bytes, String.toUTF8_eq_toByteArray, ByteArray.toList, toList_loop, List.reverse_nil,
    List.nil_append, List.drop_zero]

/-- The bytes of a text are read as that text. -/
theorem ofBytes?_bytes (text : String) : ofBytes? (bytes text) = some text := by
  rw [ofBytes?, bytes_eq, Array.toArray_toList, String.fromUTF8?, dif_pos text.isValidUTF8]
  rfl

/-- Every character of a text is encoded by itself. -/
theorem bytes_ofList (text : List Char) :
    bytes (String.ofList text) = text.flatMap String.utf8EncodeChar := by
  rw [bytes_eq, String.toByteArray_ofList, List.utf8Encode, List.toList_data_toByteArray]

/-- Bytes are read as a text exactly when they are the bytes of that text. -/
theorem ofBytes?_eq_some_iff {data : List UInt8} {text : String} :
    ofBytes? data = some text ↔ data = bytes text := by
  constructor
  · intro read
    rw [ofBytes?, String.fromUTF8?] at read
    split at read
    · next valid =>
      cases read
      rw [bytes_eq]
      rfl
    · cases read
  · rintro rfl
    exact ofBytes?_bytes text

/-- The encodings of two characters differ as the characters do, whatever follows them. -/
theorem utf8EncodeChar_append_lt {c d : Char} (less : c < d) (behind other : List UInt8) :
    String.utf8EncodeChar c ++ behind < String.utf8EncodeChar d ++ other := by
  have smaller : c.val.toNat < d.val.toNat := Char.lt_def.mp less
  have bound : d.val.toNat < 0x110000 := by
    rcases d.valid with low | ⟨-, high⟩
    · exact Nat.lt_trans low (by decide)
    · exact high
  have lessByte (n m : Nat) : UInt8.ofNat n < UInt8.ofNat m ↔ n % 256 < m % 256 := by
    simp [UInt8.lt_iff_toNat_lt]
  have sameByte (n m : Nat) : UInt8.ofNat n = UInt8.ofNat m ↔ n % 256 = m % 256 := by
    simp [← UInt8.toNat_inj]
  -- every byte but the first carries six bits
  have twice (n : Nat) : n / 4096 = n / 64 / 64 := by omega
  have thrice (n : Nat) : n / 262144 = n / 64 / 64 / 64 := by omega
  unfold String.utf8EncodeChar
  generalize c.val.toNat = v at smaller ⊢
  generalize d.val.toNat = w at smaller bound ⊢
  dsimp only
  split_ifs <;>
    simp only [List.cons_append, List.cons_lt_cons_iff, lessByte, sameByte, twice, thrice] <;>
    omega

/-- A text that comes before another one has bytes that come before the other's. -/
theorem bytes_lt_bytes_of_lt {a b : String} (less : a < b) : bytes a < bytes b := by
  rw [← String.ofList_toList (s := a), ← String.ofList_toList (s := b), bytes_ofList, bytes_ofList]
  rw [String.lt_iff_toList_lt] at less
  generalize a.toList = first at less ⊢
  generalize b.toList = second at less ⊢
  induction first generalizing second with
  | nil =>
    cases second with
    | nil => exact absurd less (List.lt_irrefl [])
    | cons d rest =>
      rw [List.flatMap_nil, List.flatMap_cons]
      cases encoded : String.utf8EncodeChar d with
      | nil => exact absurd encoded (String.utf8EncodeChar_ne_nil)
      | cons byte bytes => exact List.nil_lt_cons byte _
  | cons c rest inductionHypothesis =>
    cases second with
    | nil => exact absurd less (List.not_lt_nil _)
    | cons d later =>
      rw [List.flatMap_cons, List.flatMap_cons]
      rcases List.cons_lt_cons_iff.mp less with differ | ⟨rfl, behind⟩
      · exact utf8EncodeChar_append_lt differ _ _
      · exact List.append_left_lt (inductionHypothesis later behind)

/-- Texts are in the order of their bytes. -/
theorem bytes_lt_bytes_iff {a b : String} : bytes a < bytes b ↔ a < b := by
  refine ⟨fun less => ?_, bytes_lt_bytes_of_lt⟩
  rcases lt_trichotomy a b with before | rfl | after
  · exact before
  · exact absurd less (List.lt_irrefl _)
  · exact absurd less (List.lt_asymm (bytes_lt_bytes_of_lt after))

end MediaNode.Text
