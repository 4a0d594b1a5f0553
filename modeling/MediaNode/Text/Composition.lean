import MediaNode.Text.Composition.Table

/-!
# Composed text

Texts that look the same may be written with different characters: a letter with
its accents may be one character or several, and the accents may come in any
order. The composed form (NFC) is the same for all of them. It takes every character
apart, puts the marks behind each character into the order of their classes, and
composes what can be composed.
-/
namespace MediaNode.Text

/-- The place of a mark among the marks of a character; zero for a character that
is no such mark. -/
def combiningClass (c : Char) : Nat :=
  if c.toNat < 0x300 then 0
  else ((combiningClasses.find? fun (_, set) => inSpans set c).map Prod.fst).getD 0

/-- The letters of a Hangul syllable. -/
def hangulLetters? (c : Char) : Option (List Char) :=
  let n := c.toNat
  if 0xAC00 ≤ n ∧ n ≤ 0xD7A3 then
    let place := n - 0xAC00
    let ending := if place % 28 = 0 then [] else [Char.ofNat (0x11A7 + place % 28)]
    some (Char.ofNat (0x1100 + place / 588) :: Char.ofNat (0x1161 + place % 588 / 28) :: ending)
  else none

/-- The parts of a composite, of whose two parts only the first can be a composite
again, and this at most `depth` times. -/
def compositeParts : Nat → Char → List Char
  | 0, c => [c]
  | depth + 1, c =>
    match composites.lookup c with
    | some (first :: rest) => compositeParts depth first ++ rest
    | _ => [c]

/-- The parts of a character, which is its own part when it has no others. -/
def parts (c : Char) : List Char :=
  if c.toNat < 0x80 then [c]
  else
    match hangulLetters? c, separations.lookup c with
    | some letters, _ => letters
    | none, some apart => apart
    | none, none => compositeParts 4 c

/-- Put a character in front of ordered text: a mark goes behind the marks of lower
classes. -/
def insertMark (c : Char) : List Char → List Char
  | [] => [c]
  | d :: rest =>
    if 0 < combiningClass d ∧ combiningClass d < combiningClass c then d :: insertMark c rest
    else c :: d :: rest

/-- The text with the marks behind each character in the order of their classes. -/
def arrange (text : List Char) : List Char := text.foldr insertMark []

/-- The Hangul syllable of a consonant and a vowel, or of a syllable and a last
consonant. -/
def hangulSyllable? (a b : Char) : Option Char :=
  let x := a.toNat
  let y := b.toNat
  if 0x1100 ≤ x ∧ x ≤ 0x1112 ∧ 0x1161 ≤ y ∧ y ≤ 0x1175 then
    some (Char.ofNat (0xAC00 + ((x - 0x1100) * 21 + (y - 0x1161)) * 28))
  else if 0xAC00 ≤ x ∧ x ≤ 0xD7A3 ∧ (x - 0xAC00) % 28 = 0 ∧ 0x11A8 ≤ y ∧ y ≤ 0x11C2 then
    some (Char.ofNat (x + (y - 0x11A7)))
  else none

/-- The character composed of two others. -/
def composite? (a b : Char) : Option Char :=
  if b.toNat < 0x300 then none
  else (hangulSyllable? a b).or ((composites.find? (·.snd = [a, b])).map Prod.fst)

/-- Compose the text behind a character and the marks held back behind it. A mark
that follows one of its own class or a higher one cannot reach the character. -/
def composeFrom (base : Char) (held : List Char) : List Char → List Char
  | [] => base :: held
  | c :: rest =>
    let reaches := held.getLast?.all fun mark => combiningClass mark < combiningClass c
    match if reaches then composite? base c else none with
    | some whole => composeFrom whole held rest
    | none =>
      if combiningClass c = 0 then base :: (held ++ composeFrom c [] rest)
      else composeFrom base (held ++ [c]) rest

/-- Compose ordered text that has been taken apart. Marks in front of the first
character stay as they are. -/
def compose (text : List Char) : List Char :=
  let isLoose (c : Char) : Bool := combiningClass c ≠ 0
  match text.dropWhile isLoose with
  | [] => text
  | base :: rest => text.takeWhile isLoose ++ composeFrom base [] rest

/-- The composed form of a text. -/
def composed (text : List Char) : List Char := compose (arrange (text.flatMap parts))

end MediaNode.Text
