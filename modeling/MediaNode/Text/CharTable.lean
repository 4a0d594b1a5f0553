import MediaNode.Text.Blank
import MediaNode.Text.Hex

/-!
# Written tables of characters

A property of characters is written as words of hexadecimal numbers. In a set a
word is one character, or the first and the last of a span with a dash between
them. In an assignment a word is a character, a colon, and what this character
and those after it are assigned, with commas between the assignments and dots
inside them; or it is a span, a colon, and what the first character of the span
is assigned, which the others follow at the same distance. A tilde in place of
the dash takes every second character of a span.
-/
namespace MediaNode.Text

/-- The number that hexadecimal digits write. -/
def hexValue (word : List Char) : Nat :=
  word.foldl (fun n c => 16 * n + (Hex.value? c).getD 0) 0

/-- The characters from one to another. -/
structure Span where
  low : Nat
  high : Nat
deriving DecidableEq, Repr, Inhabited

/-- Whether a character lies in a span. -/
def Span.holds (span : Span) (c : Char) : Bool := span.low ≤ c.toNat && c.toNat ≤ span.high

/-- The spans of a written set. -/
def spans (text : String) : List Span :=
  (words text.toList).map fun word =>
    match splitFirst '-' word with
    | some (low, high) => ⟨hexValue low, hexValue high⟩
    | none => ⟨hexValue word, hexValue word⟩

/-- Whether a character lies in one of the spans. -/
def inSpans (set : List Span) (c : Char) : Bool := set.any (·.holds c)

/-- The characters that a written assignment names between its dots. -/
def assigned (text : List Char) : List Char :=
  (splitAll '.' text).map fun word => Char.ofNat (hexValue word)

/-- The assignments of one word. -/
def assignment (word : List Char) : List (Char × List Char) :=
  match splitFirst ':' word with
  | none => []
  | some (source, values) =>
    let shifted (step : Nat) (low high : List Char) : List (Char × List Char) :=
      let first := hexValue low
      (List.range' first ((hexValue high - first) / step + 1) step).map fun n =>
        (Char.ofNat n, [Char.ofNat (hexValue values + (n - first))])
    match splitFirst '-' source, splitFirst '~' source with
    | some (low, high), _ => shifted 1 low high
    | none, some (low, high) => shifted 2 low high
    | none, none =>
      (splitAll ',' values).zipIdx.map fun (value, place) =>
        (Char.ofNat (hexValue source + place), assigned value)

/-- All assignments of a written table. -/
def assignments (text : String) : List (Char × List Char) :=
  (words text.toList).flatMap assignment

end MediaNode.Text
