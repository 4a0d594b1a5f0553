/-!
# Texts as bytes

A text has one encoding as bytes (UTF-8), and bytes are a text exactly when they
are such an encoding.
-/
namespace MediaNode.Text

/-- The bytes that encode a text. -/
def bytes (text : String) : List UInt8 := text.toUTF8.toList

/-- The text that bytes encode, if they encode one. -/
def ofBytes? (data : List UInt8) : Option String := String.fromUTF8? (ByteArray.mk data.toArray)

/-- The character that bytes start with, and the bytes behind it. -/
def firstChar? (data : List UInt8) : Option (Char × List UInt8) :=
  [1, 2, 3, 4].findSome? fun n =>
    match (ofBytes? (data.take n)).map String.toList with
    | some [c] => some (c, data.drop n)
    | _ => none

/-- The characters that bytes start with, with a zero character where they stop to
be a text. -/
def charsUpToFlaw (data : List UInt8) : List Char := go data.length data
where
  /-- One character at a time; each takes a byte or more. -/
  go : Nat → List UInt8 → List Char
    | _, [] => []
    | 0, _ => ['\x00']
    | fuel + 1, data =>
      match firstChar? data with
      | some (c, rest) => c :: go fuel rest
      | none => ['\x00']

/-- The text that bytes encode, each maximal run that encodes nothing read as one
replacement character. -/
def ofBytesLossy (data : List UInt8) : String :=
  String.ofList (go (data.length + 1) data)
where
  /-- One character, or one replacement for a run that is cut short, at a time. -/
  go : Nat → List UInt8 → List Char
    | 0, _ => []
    | _, [] => []
    | fuel + 1, b :: rest =>
      let n := b.toNat
      if n < 0x80 then Char.ofNat n :: go fuel rest
      else
        let shape : Option (Nat × Nat × Nat × Nat) :=
          if 0xC2 ≤ n && n ≤ 0xDF then some (1, n - 0xC0, 0x80, 0xBF)
          else if n = 0xE0 then some (2, 0, 0xA0, 0xBF)
          else if n = 0xED then some (2, 0xD, 0x80, 0x9F)
          else if 0xE1 ≤ n && n ≤ 0xEF then some (2, n - 0xE0, 0x80, 0xBF)
          else if n = 0xF0 then some (3, 0, 0x90, 0xBF)
          else if 0xF1 ≤ n && n ≤ 0xF3 then some (3, n - 0xF0, 0x80, 0xBF)
          else if n = 0xF4 then some (3, 4, 0x80, 0x8F)
          else none
        match shape with
        | none => '\uFFFD' :: go fuel rest
        | some (count, start, low, high) =>
          let (value, left, tail) := continuation count start low high rest
          if left = 0 then Char.ofNat value :: go fuel tail else '\uFFFD' :: go fuel tail
  /-- Up to `count` continuation bytes, the first of them in the range given;
  also how many are still missing and what follows. -/
  continuation : Nat → Nat → Nat → Nat → List UInt8 → Nat × Nat × List UInt8
    | 0, value, _, _, rest => (value, 0, rest)
    | count + 1, value, _, _, [] => (value, count + 1, [])
    | count + 1, value, low, high, b :: rest =>
      if low ≤ b.toNat && b.toNat ≤ high then
        continuation count (value * 64 + (b.toNat - 0x80)) 0x80 0xBF rest
      else (value, count + 1, b :: rest)

end MediaNode.Text
