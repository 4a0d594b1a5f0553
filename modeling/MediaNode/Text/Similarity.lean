/-!
# How alike two words are

Jaro's measure pairs each letter of the first word with an equal letter of the
second that is not paired yet and stands at most half the longer word away. It
is the mean of the shares of paired letters in both words and of the share of
the pairs that stand in the same order. The measure is a fraction, so that
comparing two of them is exact.
-/
namespace MediaNode.Text

/-- A fraction between zero and one. -/
structure Similarity where
  numerator : Nat
  denominator : Nat
deriving DecidableEq, Repr, Inhabited

namespace Similarity

/-- Whether one similarity is at most another. -/
def le (a b : Similarity) : Bool := a.numerator * b.denominator ≤ b.numerator * a.denominator

/-- Words that have nothing in common. -/
def none : Similarity := ⟨0, 1⟩

/-- Equal words. -/
def full : Similarity := ⟨1, 1⟩

end Similarity

/-- Pair a letter at a place with the first letter that is free and at most
`range` places away. -/
def pairLetter (letter : Char) (place range : Nat) (word : List (Char × Bool)) : Option Nat :=
  word.zipIdx.findSome? fun ((other, paired), at_) =>
    if other = letter ∧ !paired ∧ place ≤ at_ + range ∧ at_ ≤ place + range then some at_
    else Option.none

/-- Pair the letters of a word in order: the letters that were paired, and the other
word with its paired letters marked. -/
def pairLetters (range : Nat) :
    List (Char × Nat) → List (Char × Bool) → List Char × List (Char × Bool)
  | [], word => ([], word)
  | (letter, place) :: rest, word =>
    match pairLetter letter place range word with
    | Option.none => pairLetters range rest word
    | some at_ =>
      let (paired, marked) := pairLetters range rest (word.set at_ (letter, true))
      (letter :: paired, marked)

/-- How alike two words are. -/
def similarity (a b : String) : Similarity :=
  let first := a.toList
  let second := b.toList
  let range := max first.length second.length / 2 - 1
  let (paired, marked) := pairLetters range first.zipIdx (second.map (·, false))
  let matched := paired.length
  if first.isEmpty && second.isEmpty then .full
  else if matched = 0 then .none
  else
    let others := (marked.filter (·.snd)).map Prod.fst
    let moved := ((paired.zip others).filter fun (x, y) => x ≠ y).length / 2
    let m := first.length
    let n := second.length
    -- the mean of three fractions over their common denominator
    ⟨matched * matched * n + matched * matched * m + (matched - moved) * m * n,
      3 * matched * m * n⟩

end MediaNode.Text
