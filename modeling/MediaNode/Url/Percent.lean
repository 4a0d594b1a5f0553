import MediaNode.Text.Hex
import MediaNode.Text.Bytes

/-!
# Percent encoding

A byte is written as a percent sign and two upper-case digits. Which characters
are written so depends on the part of a URL they stand in; every character
outside ASCII and every control is. Reading leaves a percent sign alone unless
two digits follow it.
-/
namespace MediaNode.Url

/-- Characters that are encoded in every part. -/
def isControlOrWide (c : Char) : Bool := c.toNat < 0x20 || 0x7E < c.toNat

/-- Characters encoded in a fragment. -/
def fragmentSet (c : Char) : Bool := isControlOrWide c || " \"<>`".toList.contains c

/-- Characters encoded in a path. -/
def pathSet (c : Char) : Bool := fragmentSet c || "#?\x7b\x7d".toList.contains c

/-- Characters encoded in a user name or password. -/
def userinfoSet (c : Char) : Bool := pathSet c || "/:;=@[\\]^|".toList.contains c

/-- Characters encoded in a query. -/
def querySet (c : Char) : Bool := isControlOrWide c || " \"#<>".toList.contains c

/-- Characters encoded in the query of a special scheme. -/
def specialQuerySet (c : Char) : Bool := querySet c || c = '\''

/-- A byte as a percent sign and two digits. -/
def encodeByte (b : UInt8) : List Char :=
  '%' :: (Text.Hex.fixed 2 b.toNat).map Char.toUpper

/-- A text with the characters of a set encoded. -/
def encode (set : Char → Bool) (text : List Char) : List Char :=
  text.flatMap fun c =>
    if set c then (Text.bytes (String.singleton c)).flatMap encodeByte else [c]

/-- The bytes of a text with percent signs read. -/
def decodeBytes : List UInt8 → List UInt8
  | 0x25 :: a :: b :: rest =>
    match Text.Hex.value? (Char.ofNat a.toNat), Text.Hex.value? (Char.ofNat b.toNat) with
    | some x, some y => UInt8.ofNat (16 * x + y) :: decodeBytes rest
    | _, _ => 0x25 :: decodeBytes (a :: b :: rest)
  | b :: rest => b :: decodeBytes rest
  | [] => []

/-- The bytes that a text stands for. -/
def decode (text : String) : List UInt8 := decodeBytes (Text.bytes text)

end MediaNode.Url
