import MediaNode.Json.Basic
import MediaNode.Text.Number
import MediaNode.Text.Hex
import MediaNode.Text.Bytes

/-!
# Reading JSON text

The reader accepts the standard grammar with blanks between tokens and refuses a
text with more than 127 nested arrays and objects, a number too large for a
double, an unescaped control character, and an escape of half a surrogate pair.
It answers `none` for any other text: a text that is not JSON has no second way
to be wrong. Of a repeated key the last value counts.

Every step hands on the rest of its text. The fuel of `parse` is one more than
the length of the text, and each step of the grammar uses up a character.
-/
namespace MediaNode.Json

/-- The blanks that may stand between tokens. -/
def isSpace (c : Char) : Bool := c = ' ' || c = '\n' || c = '\t' || c = '\r'

/-- Drop the blanks in front of the next token. -/
def skipSpace (text : List Char) : List Char := text.dropWhile isSpace

/-- The greatest number of arrays and objects that may be nested. -/
def maxDepth : Nat := 127

/-- Drop an expected beginning. -/
def expect : List Char → List Char → Option (List Char)
  | [], text => some text
  | _ :: _, [] => none
  | c :: word, d :: rest => if c = d then expect word rest else none

/-- Four hexadecimal digits. -/
def hexUnit : List Char → Option (Nat × List Char)
  | a :: b :: c :: d :: rest =>
    match Text.Hex.value? a, Text.Hex.value? b, Text.Hex.value? c, Text.Hex.value? d with
    | some a, some b, some c, some d => some (((a * 16 + b) * 16 + c) * 16 + d, rest)
    | _, _, _, _ => none
  | _ => none

/-- The escape behind a backslash and `u`: one unit, or two that form a pair. -/
def unicodeEscape (text : List Char) : Option (Char × List Char) :=
  match hexUnit text with
  | none => none
  | some (first, rest) =>
    if 0xDC00 ≤ first ∧ first ≤ 0xDFFF then none
    else if 0xD800 ≤ first ∧ first ≤ 0xDBFF then
      match rest with
      | '\\' :: 'u' :: rest =>
        match hexUnit rest with
        | some (second, rest) =>
          if 0xDC00 ≤ second ∧ second ≤ 0xDFFF then
            some (Char.ofNat (0x10000 + (first - 0xD800) * 0x400 + (second - 0xDC00)), rest)
          else none
        | none => none
      | _ => none
    else some (Char.ofNat first, rest)

/-- The character that a short escape stands for. -/
def shortEscape (c : Char) : Option Char :=
  if c = '"' then some '"'
  else if c = '\\' then some '\\'
  else if c = '/' then some '/'
  else if c = 'b' then some '\x08'
  else if c = 'f' then some '\x0c'
  else if c = 'n' then some '\n'
  else if c = 'r' then some '\r'
  else if c = 't' then some '\t'
  else none

/-- The characters of a string behind its opening quote, and what follows the
closing one. -/
def stringBody : Nat → List Char → Option (List Char × List Char)
  | 0, _ => none
  | _ + 1, [] => none
  | fuel + 1, c :: rest =>
    if c = '"' then some ([], rest)
    else if c = '\\' then
      match rest with
      | [] => none
      | 'u' :: rest => do
        let (c, rest) ← unicodeEscape rest
        let (body, rest) ← stringBody fuel rest
        some (c :: body, rest)
      | e :: rest => do
        let c ← shortEscape e
        let (body, rest) ← stringBody fuel rest
        some (c :: body, rest)
    else if c.toNat < 0x20 then none
    else do
      let (body, rest) ← stringBody fuel rest
      some (c :: body, rest)

/-- The digits at the front of a text. -/
def takeDigits (text : List Char) : List Char × List Char :=
  (text.takeWhile fun c => (Text.digit? c).isSome, text.dropWhile fun c => (Text.digit? c).isSome)

/-- The significand that digits build: digits that no longer fit into 64 bits are
dropped, and the first of them ends the reading. Also how many were read. -/
def significand (start : Nat) (digits : List Char) : Nat × Nat :=
  go start 0 digits
where
  /-- One digit at a time. -/
  go (value count : Nat) : List Char → Nat × Nat
    | [] => (value, count)
    | c :: rest =>
      let next := 10 * value + (Text.digit? c).getD 0
      if next < UInt64.size then go next (count + 1) rest else (value, count)

/-- The exponent of a number behind its mark. -/
def exponentPart (text : List Char) : Option (Int × List Char) :=
  let (negative, text) := match text with
    | '+' :: rest => (false, rest)
    | '-' :: rest => (true, rest)
    | _ => (false, text)
  let (digits, rest) := takeDigits text
  (Text.digits? digits).map fun n => (if negative then -(n : Int) else n, rest)

/-- The fraction digits of a number behind its point. -/
def fractionPart (text : List Char) : Option (List Char × List Char) :=
  let (digits, rest) := takeDigits text
  if digits.isEmpty then none else some (digits, rest)

/-- An integer that fits its range stays an integer; minus zero and all larger
numbers are doubles. -/
def integerValue (negative : Bool) (digits : List Char) : Option Json :=
  (Text.digits? digits).bind fun n =>
    if negative ∧ 0 < n ∧ n ≤ 0x8000000000000000 then some (.int (-(n : Int)))
    else if ¬ negative ∧ n < UInt64.size then some (.int n)
    else
      let (value, count) := significand 0 digits
      (Double.ofDecimal negative value (digits.length - count : Nat)).map .float

/-- A number behind its sign. -/
def unsignedNumber (negative : Bool) (text : List Char) : Option (Json × List Char) :=
  let (whole, rest) := takeDigits text
  let leadingZero := match whole with
    | '0' :: _ :: _ => true
    | _ => false
  if whole.isEmpty || leadingZero then none
  else do
    let (fraction, rest) ← match rest with
      | '.' :: rest => (fractionPart rest).map fun (digits, rest) => (some digits, rest)
      | _ => some (none, rest)
    let (exponent, rest) ← match rest with
      | 'e' :: rest => (exponentPart rest).map fun (n, rest) => (some n, rest)
      | 'E' :: rest => (exponentPart rest).map fun (n, rest) => (some n, rest)
      | _ => some (none, rest)
    match fraction, exponent with
    | none, none => (integerValue negative whole).map fun value => (value, rest)
    | _, _ =>
      let (value, wholeCount) := significand 0 whole
      let (value, fractionCount) := significand value (fraction.getD [])
      let power : Int := ((whole.length - wholeCount : Nat) : Int) - fractionCount
        + exponent.getD 0
      (Double.ofDecimal negative value power).map fun x => (.float x, rest)

/-- A number. -/
def number : List Char → Option (Json × List Char)
  | '-' :: rest => unsignedNumber true rest
  | text => unsignedNumber false text

mutual
/-- A value at the front of the text, with at most `depth` levels of nesting. -/
def value : Nat → Nat → List Char → Option (Json × List Char)
  | 0, _, _ => none
  | fuel + 1, depth, text =>
    match skipSpace text with
    | [] => none
    | c :: rest =>
      if c = 'n' then (expect "ull".toList rest).map fun rest => (.null, rest)
      else if c = 't' then (expect "rue".toList rest).map fun rest => (.bool true, rest)
      else if c = 'f' then (expect "alse".toList rest).map fun rest => (.bool false, rest)
      else if c = '"' then
        (stringBody (rest.length + 1) rest).map fun (body, rest) =>
          (.str (String.ofList body), rest)
      else if c = '[' then
        match depth with
        | 0 => none
        | depth + 1 =>
          match skipSpace rest with
          | ']' :: rest => some (.arr [], rest)
          | rest => (items fuel depth rest).map fun (found, rest) => (.arr found, rest)
      else if c = '\x7b' then
        match depth with
        | 0 => none
        | depth + 1 =>
          match skipSpace rest with
          | '\x7d' :: rest => some (.obj [], rest)
          | rest => (members fuel depth rest).map fun (found, rest) =>
              (ofMembers found, rest)
      else number (c :: rest)
/-- One item or more, up to the closing bracket. -/
def items : Nat → Nat → List Char → Option (List Json × List Char)
  | 0, _, _ => none
  | fuel + 1, depth, text => do
    let (first, rest) ← value fuel depth text
    match skipSpace rest with
    | ']' :: rest => some ([first], rest)
    | ',' :: rest => (items fuel depth rest).map fun (others, rest) => (first :: others, rest)
    | _ => none
/-- One member or more, up to the closing brace. -/
def members : Nat → Nat → List Char → Option (List (String × Json) × List Char)
  | 0, _, _ => none
  | fuel + 1, depth, text =>
    match skipSpace text with
    | '"' :: rest => do
      let (key, rest) ← stringBody (rest.length + 1) rest
      match skipSpace rest with
      | ':' :: rest => do
        let (first, rest) ← value fuel depth rest
        match skipSpace rest with
        | '\x7d' :: rest => some ([(String.ofList key, first)], rest)
        | ',' :: rest => (members fuel depth rest).map fun (others, rest) =>
            ((String.ofList key, first) :: others, rest)
        | _ => none
      | _ => none
    | _ => none
end

/-- The value at the front of a text, and what follows it. -/
def front (text : List Char) : Option (Json × List Char) := value (text.length + 1) maxDepth text

/-- The value that a whole text stands for. -/
def parse (text : String) : Option Json :=
  match front text.toList with
  | some (found, rest) => if (skipSpace rest).isEmpty then some found else none
  | none => none

end MediaNode.Json
