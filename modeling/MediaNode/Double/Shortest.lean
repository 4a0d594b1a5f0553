import MediaNode.Double.Basic
import MediaNode.Text.Number

/-!
# The shortest decimal that reads back

The numbers that round to a finite double form an interval around it, which
holds its ends exactly when the significand is even. For one, two, and so on up
to seventeen digits, the two neighbours of the double on the grid of decimals
with that many digits are tried; the first grid with a neighbour in the interval
gives the text, and of two such neighbours the nearer one.

A decimal in `[1e-5, 1e16)` is written positionally and always has a digit behind
its point; all others have an exponent with a sign.
-/
namespace MediaNode.Double

/-- The interval of a double, its ends and centre as multiples of a quarter of
the unit in the last place. The lower neighbour of a power of two is only half
as far away as the upper one. -/
structure Interval where
  low : Nat
  centre : Nat
  high : Nat
  closed : Bool
  scale : Int

/-- The numbers that round to a finite double. -/
def interval (x : Double) : Interval :=
  let m := x.significand
  { low := if m = 1 <<< 52 ∧ -1074 < x.scale then 4 * m - 1 else 4 * m - 2
    centre := 4 * m
    high := 4 * m + 2
    closed := m % 2 = 0
    scale := x.scale - 2 }

/-- Ten to an integer power as a fraction. -/
def tenPower (power : Int) : Nat × Nat :=
  if power < 0 then (1, Nat.pow 10 power.natAbs) else (Nat.pow 10 power.natAbs, 1)

/-- Two to an integer power as a fraction. -/
def twoPower (power : Int) : Nat × Nat :=
  if power < 0 then (1, 1 <<< power.natAbs) else (1 <<< power.natAbs, 1)

/-- The exponent of the leading decimal digit of a positive fraction. -/
def leadingPower (num den : Nat) : Int :=
  let estimate : Int := ((Nat.log2 num : Int) - Nat.log2 den) * 30103 / 100000
  let below (power : Int) : Bool :=
    let (n, d) := tenPower power
    num * d < n * den
  if below estimate then estimate - 1
  else if below (estimate + 1) then estimate
  else estimate + 1

/-- The decimal with the given grid that reads back, if a neighbour on that grid
does: its digits as a number, in units of the grid. -/
def onGrid (around : Interval) (grid : Int) : Option Nat :=
  let (tn, td) := tenPower grid
  let (bn, bd) := twoPower around.scale
  -- everything in units of 1 / (td * bd)
  let unit := tn * bd
  let centre := around.centre * bn * td
  let low := around.low * bn * td
  let high := around.high * bn * td
  let inside (d : Nat) : Bool :=
    let v := d * unit
    if around.closed then low ≤ v && v ≤ high else low < v && v < high
  let down := centre / unit
  let up := down + 1
  match inside down && down ≠ 0, inside up with
  | true, true =>
    let distanceDown := centre - down * unit
    let distanceUp := up * unit - centre
    if distanceDown < distanceUp then some down
    else if distanceUp < distanceDown then some up
    else if down % 2 = 0 then some down else some up
  | true, false => some down
  | false, true => some up
  | false, false => none

/-- Try grids with more and more digits. -/
def searchGrid (around : Interval) (lead : Int) : Nat → Nat → Nat × Int
  | 0, _ => (0, 0)
  | fuel + 1, count =>
    match onGrid around (lead - count) with
    | some digits => (digits, lead - count)
    | none => searchGrid around lead fuel (count + 1)

/-- Digits without trailing zeros, and the power of ten they are scaled by. -/
def stripZeros : Nat → Nat → Int → Nat × Int
  | 0, digits, power => (digits, power)
  | fuel + 1, digits, power =>
    if digits % 10 = 0 ∧ digits ≠ 0 then stripZeros fuel (digits / 10) (power + 1)
    else (digits, power)

/-- The fewest digits that read back as a positive finite double, and their power
of ten. -/
def shortest (x : Double) : Nat × Int :=
  let (n, d) := x.fraction
  let (digits, power) := searchGrid x.interval (leadingPower n d) 18 0
  stripZeros 20 digits power

/-- How digits and a power of ten are laid out in text. -/
def layout (digits : Nat) (power : Int) : String :=
  let ds := (Text.decimal digits).toList
  let point : Int := ds.length + power
  if -5 < point ∧ point ≤ 16 then
    if 0 ≤ power then String.ofList (ds ++ List.replicate power.toNat '0') ++ ".0"
    else if 0 < point then
      String.ofList (ds.take point.toNat ++ '.' :: ds.drop point.toNat)
    else "0." ++ String.ofList (List.replicate (-point).toNat '0' ++ ds)
  else
    let exponent := point - 1
    let mark := if exponent < 0 then "e-" else "e+"
    let mantissa := match ds with
      | [] => ""
      | [d] => String.singleton d
      | d :: rest => String.ofList (d :: '.' :: rest)
    mantissa ++ mark ++ Text.decimal exponent.natAbs

/-- The text of a finite double. -/
def toText (x : Double) : String :=
  let body := if x.magnitude = 0 then "0.0" else (let (d, p) := x.shortest; layout d p)
  if x.negative then "-" ++ body else body

end MediaNode.Double
