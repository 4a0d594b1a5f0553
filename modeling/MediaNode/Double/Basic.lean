/-!
# Binary floating-point numbers

A double is its 64-bit encoding: a sign, eleven exponent bits and 52 fraction
bits. Every operation is exact arithmetic on natural numbers followed by one
rounding to the nearest double, a tie going to the even significand. Overflow
gives an infinity; no operation here produces a value that is not a number,
because division is asked only of non-zero divisors.
-/
namespace MediaNode

/-- A double by its encoding. -/
structure Double where
  /-- Sign, exponent and fraction, from the highest bit down. -/
  bits : UInt64
deriving DecidableEq, Repr, Inhabited

namespace Double

/-- The sign bit. -/
def negative (x : Double) : Bool := x.bits.toNat >>> 63 = 1

/-- The encoding without its sign. Magnitudes are ordered as these numbers are. -/
def magnitude (x : Double) : Nat := x.bits.toNat % (1 <<< 63)

/-- The integer significand of a finite double. -/
def significand (x : Double) : Nat :=
  let fraction := x.magnitude % (1 <<< 52)
  if x.magnitude < 1 <<< 52 then fraction else (1 <<< 52) + fraction

/-- The power of two that scales the significand of a finite double. -/
def scale (x : Double) : Int :=
  if x.magnitude < 1 <<< 52 then -1074 else (x.magnitude >>> 52 : Nat) - 1075

/-- An encoding with all exponent bits set and no fraction. -/
def isInfinite (x : Double) : Bool := x.magnitude = 0x7FF <<< 52

/-- The integer that orders finite doubles by value; both zeros have key zero. -/
def key (x : Double) : Int := if x.negative then -(x.magnitude : Int) else x.magnitude

/-- Two doubles are equal as numbers: the zeros of either sign are. -/
instance : BEq Double := ⟨fun x y => x.key == y.key⟩

/-- Order by value. -/
def le (x y : Double) : Bool := x.key ≤ y.key

/-- The number with its sign turned. -/
def neg (x : Double) : Double := ⟨x.bits ^^^ ((1 : UInt64) <<< 63)⟩

/-- The encoding of a sign and a magnitude. -/
def ofMagnitude (negative : Bool) (magnitude : Nat) : Double :=
  ⟨UInt64.ofNat ((if negative then 1 <<< 63 else 0) + magnitude)⟩

/-- The quotient rounded to the nearest natural number, a tie to the even one. -/
def roundDiv (num den : Nat) : Nat :=
  let quotient := num / den
  let rest := 2 * (num % den)
  if rest < den then quotient
  else if den < rest then quotient + 1
  else if quotient % 2 = 0 then quotient else quotient + 1

/-- The quotient of `num` by `den` times a power of two, as a fraction. -/
def scaled (num den : Nat) (power : Int) : Nat × Nat :=
  if power < 0 then (num <<< power.natAbs, den) else (num, den <<< power.natAbs)

/-- The power of two at which the quotient has a significand of 53 bits, or the
least power there is. -/
def scaleFor (num den : Nat) : Int :=
  let estimate : Int := (Nat.log2 num : Int) - Nat.log2 den
  let (n, d) := scaled num den (estimate - 52)
  let exact := if n / d < 1 <<< 52 then estimate - 53 else estimate - 52
  if exact < -1074 then -1074 else exact

/-- The double nearest to a quotient; `den` is not zero. -/
def ofRatio (negative : Bool) (num den : Nat) : Double :=
  if num = 0 then ofMagnitude negative 0
  else
    let power := scaleFor num den
    let (n, d) := scaled num den power
    let rounded := roundDiv n d
    let biased := (power + 1074).toNat
    let magnitude := (biased <<< 52) + rounded
    ofMagnitude negative (if magnitude < 0x7FF <<< 52 then magnitude else 0x7FF <<< 52)

/-- The double nearest to a natural number. -/
def ofNat (n : Nat) : Double := ofRatio false n 1

/-- The double nearest to an integer. -/
def ofInt (n : Int) : Double := ofRatio (decide (n < 0)) n.natAbs 1

/-- The magnitude of a finite double as a fraction. -/
def fraction (x : Double) : Nat × Nat :=
  if x.scale < 0 then (x.significand, 1 <<< x.scale.natAbs)
  else (x.significand <<< x.scale.natAbs, 1)

/-- The rounded product of two finite doubles. -/
def mul (x y : Double) : Double :=
  let (a, b) := x.fraction
  let (c, d) := y.fraction
  ofRatio (x.negative != y.negative) (a * c) (b * d)

/-- The rounded quotient of a finite double by a finite double that is not zero. -/
def div (x y : Double) : Double :=
  let (a, b) := x.fraction
  let (c, d) := y.fraction
  ofRatio (x.negative != y.negative) (a * d) (b * c)

/-- A power of ten, rounded. -/
def tenTo (power : Nat) : Double := ofNat (Nat.pow 10 power)

/-- The greatest power of ten that is a finite double. -/
def maxTenPower : Nat := 308

/-- A 64-bit significand times a power of ten as numbers in text are read: the
significand is rounded, then multiplied or divided by the rounded power, so that
up to three roundings may take place. A power below the table is reached in steps
of the greatest power; `none` if the number is too large. -/
def ofDecimal (negative : Bool) (digits : Nat) (power : Int) : Option Double :=
  let start := ofRatio false digits 1
  let signed := fun (x : Double) => if negative then x.neg else x
  if digits = 0 then some (signed start)
  else if 0 ≤ power then
    if power.natAbs ≤ maxTenPower then
      let product := start.mul (tenTo power.natAbs)
      if product.isInfinite then none else some (signed product)
    else none
  else
    let rec shrink : Nat → Double → Nat → Double
      | 0, x, _ => x
      | fuel + 1, x, left =>
        if left ≤ maxTenPower then x.div (tenTo left)
        else if x.magnitude = 0 then x
        else shrink fuel (x.div (tenTo maxTenPower)) (left - maxTenPower)
    some (signed (shrink 4 start power.natAbs))

end Double
end MediaNode
