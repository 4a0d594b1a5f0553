/-!
# Decimal numbers in text

A number is one or more ASCII digits, read in base ten. An unsigned number may
have a plus sign in front of it, a signed one a plus or a minus sign. Values
outside the width asked for are refused, whatever their digits.
-/
namespace MediaNode.Text

/-- The value of an ASCII digit. -/
def digit? (c : Char) : Option Nat :=
  if '0' ≤ c ∧ c ≤ '9' then some (c.toNat - '0'.toNat) else none

/-- The value of a run of digits behind a value read so far; `none` if another
character occurs. -/
def digitsFrom (value : Nat) : List Char → Option Nat
  | [] => some value
  | c :: rest => (digit? c).bind fun d => digitsFrom (10 * value + d) rest

/-- A non-empty run of ASCII digits. -/
def digits? (text : List Char) : Option Nat :=
  if text.isEmpty then none else digitsFrom 0 text

/-- An unsigned number of `width` bits. -/
def unsigned? (width : Nat) (text : List Char) : Option Nat :=
  let body := match text with
    | '+' :: rest => rest
    | _ => text
  (digits? body).filter (· < 1 <<< width)

/-- The decimal digits of a number, most significant first. -/
def decimal (n : Nat) : String := String.ofList (Nat.toDigits 10 n)

/-- A number in decimal with a minus sign when it is negative. -/
def signedDecimal (n : Int) : String :=
  if n < 0 then "-" ++ decimal n.natAbs else decimal n.natAbs

end MediaNode.Text
