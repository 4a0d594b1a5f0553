import MediaNode.Text.Blank

/-!
# Labels in ASCII

A label that leaves ASCII is written with its ASCII characters first, followed by
one number for each other character, in ascending order: it tells how far to go on
through all places and characters to the next insertion. Numbers are written in
base 36 with digits whose weight adapts to the size of the numbers before, so
that a label in one alphabet stays short.
-/
namespace MediaNode.Url

/-- Whether a text is ASCII. -/
def isAscii (text : List Char) : Bool := text.all fun c => c.toNat < 128

/-- What an encoded label starts with. -/
def encodedMark : List Char := "xn--".toList

/-- The bias of the label encoding behind each inserted character. -/
def adapt (delta count : Nat) (first : Bool) : Nat :=
  let delta := if first then delta / 700 else delta / 2
  go 20 (delta + delta / count) 0
where
  /-- Divide until the delta is small. -/
  go : Nat → Nat → Nat → Nat
    | 0, _, k => k
    | fuel + 1, delta, k =>
      if 455 < delta then go fuel (delta / 35) (k + 36) else k + 36 * delta / (delta + 38)

/-- A digit in base 36. -/
def digit36 (n : Nat) : Char := if n < 26 then Char.ofNat (97 + n) else Char.ofNat (22 + n)

/-- A number with digits of varying weight. -/
def variableDigits (bias : Nat) : Nat → Nat → Nat → List Char
  | 0, _, _ => []
  | fuel + 1, k, q =>
    let t := if k ≤ bias then 1 else if bias + 26 ≤ k then 26 else k - bias
    if q < t then [digit36 q]
    else digit36 (t + (q - t) % (36 - t)) ::
      variableDigits bias fuel (k + 36) ((q - t) / (36 - t))

/-- The digits for all characters of a label beyond ASCII, least first. -/
def insertions (label : List Char) :
    Nat → Nat → Nat → Nat → Nat → Bool → List Char
  | 0, _, _, _, _, _ => []
  | fuel + 1, n, delta, handled, bias, first =>
    if label.length ≤ handled then []
    else
      let next := label.foldl (fun m c => if n ≤ c.toNat ∧ c.toNat < m then c.toNat else m) 0x110000
      let delta := delta + (next - n) * (handled + 1)
      let (out, delta, handled, bias, first) := label.foldl
        (fun (out, delta, handled, bias, first) c =>
          if c.toNat < next then (out, delta + 1, handled, bias, first)
          else if c.toNat = next then
            (out ++ variableDigits bias 40 36 delta, 0, handled + 1,
              adapt delta (handled + 1) first, false)
          else (out, delta, handled, bias, first))
        (([] : List Char), delta, handled, bias, first)
      out ++ insertions label fuel (next + 1) (delta + 1) handled bias first

/-- A label in ASCII. -/
def asciiLabel (label : List Char) : List Char :=
  if isAscii label then label
  else
    let basic := label.filter fun c => c.toNat < 128
    let count := basic.length
    encodedMark ++ basic ++ (if count = 0 then [] else ['-']) ++
      insertions label (label.length + 1) 128 0 count 72 true

/-- The value of a digit in base 36. -/
def value36? (c : Char) : Option Nat :=
  let n := c.toNat
  if 97 ≤ n ∧ n ≤ 122 then some (n - 97)
  else if 48 ≤ n ∧ n ≤ 57 then some (n - 22)
  else none

/-- Read a number with digits of varying weight: the number and what follows. -/
def readVariable (bias : Nat) : Nat → Nat → List Char → Option (Nat × List Char)
  | _, _, [] => none
  | k, weight, c :: rest =>
    match value36? c with
    | none => none
    | some digit =>
      let t := if k ≤ bias then 1 else if bias + 26 ≤ k then 26 else k - bias
      if digit < t then some (digit * weight, rest)
      else (readVariable bias (k + 36) (weight * (36 - t)) rest).map fun (n, rest) =>
        (digit * weight + n, rest)

/-- Put the characters that digits stand for into a label. -/
def readInsertions : Nat → List Char → List Char → Nat → Nat → Nat → Bool → Option (List Char)
  | _, [], label, _, _, _, _ => some label
  | 0, _, _, _, _, _, _ => none
  | fuel + 1, digits, label, n, place, bias, first =>
    match readVariable bias 36 1 digits with
    | none => none
    | some (delta, rest) =>
      let count := label.length + 1
      let n := n + (place + delta) / count
      let at_ := (place + delta) % count
      if ¬ n.isValidChar then none
      else readInsertions fuel rest (label.take at_ ++ Char.ofNat n :: label.drop at_) n (at_ + 1)
        (adapt delta count first) false

/-- The label that an encoded one stands for, given what follows its mark. -/
def decodedLabel? (text : List Char) : Option (List Char) :=
  let (basic, digits) := (Text.splitLast '-' text).getD ([], text)
  readInsertions text.length digits basic 128 0 72 true

end MediaNode.Url
