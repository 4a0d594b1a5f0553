import MediaNode.Json.Reader

/-!
# Why a text is not JSON

The reader only says that a text is not JSON. For people the first flaw is named
here, with its line and its column in bytes. The walk takes the text in the same
steps as the reader; each step hands on the rest or gives the flaw with the number
of bytes behind its place.
-/
namespace MediaNode.Json

/-- What is wrong with a text that is not JSON. -/
inductive Flaw where
  | endInList
  | endInObject
  | endInString
  | endInValue
  | colon
  | listComma
  | objectComma
  | word
  | value
  | number
  | range
  | escape
  | codePoint
  | control
  | key
  | surrogate
  | pair
  | trailingComma
  | trailing
  | depth
deriving DecidableEq, Repr, Inhabited

/-- The wording of each flaw. -/
def Flaw.message : Flaw → String
  | .endInList => "EOF while parsing a list"
  | .endInObject => "EOF while parsing an object"
  | .endInString => "EOF while parsing a string"
  | .endInValue => "EOF while parsing a value"
  | .colon => "expected `:`"
  | .listComma => "expected `,` or `]`"
  | .objectComma => "expected `,` or `\x7d`"
  | .word => "expected ident"
  | .value => "expected value"
  | .number => "invalid number"
  | .range => "number out of range"
  | .escape => "invalid escape"
  | .codePoint => "invalid unicode code point"
  | .control => "control character (\\u0000-\\u001F) found while parsing a string"
  | .key => "key must be a string"
  | .surrogate => "lone leading surrogate in hex escape"
  | .pair => "unexpected end of hex escape"
  | .trailingComma => "trailing comma"
  | .trailing => "trailing characters"
  | .depth => "recursion limit exceeded"

namespace Diagnosis

/-- The rest of the text, or a flaw with the bytes left behind its place. -/
abbrev Walk := Except (Flaw × Nat) (List UInt8)

/-- A flaw in front of the rest. -/
def here (flaw : Flaw) (rest : List UInt8) : Walk := .error (flaw, rest.length)

/-- A flaw at the first byte of the rest, which counts as read. -/
def next (flaw : Flaw) (rest : List UInt8) : Walk := .error (flaw, rest.length - 1)

/-- Whether a byte is this character. -/
def is (b : UInt8) (c : Char) : Bool := b.toNat = c.toNat

/-- Whether a byte is a digit. -/
def isDigit (b : UInt8) : Bool := is b '0' || ('0'.toNat < b.toNat && b.toNat ≤ '9'.toNat)

/-- Drop blanks. -/
def skip (text : List UInt8) : List UInt8 :=
  text.dropWhile fun b => is b ' ' || is b '\n' || is b '\t' || is b '\r'

/-- Walk over an expected word. -/
def expected : List Char → List UInt8 → Walk
  | [], rest => .ok rest
  | _ :: _, [] => here .endInValue []
  | c :: word, b :: rest => if is b c then expected word rest else here .word rest

/-- Walk over one digit or more behind a point. -/
def fraction (text : List UInt8) : Walk :=
  match text with
  | [] => next .endInValue []
  | b :: rest => if isDigit b then .ok (rest.dropWhile isDigit) else next .number text

/-- Walk over an exponent behind its mark. -/
def exponent (text : List UInt8) : Walk :=
  let unsigned := match text with
    | b :: rest => if is b '+' || is b '-' then rest else text
    | [] => []
  match unsigned with
  | [] => here .endInValue []
  | b :: rest => if isDigit b then .ok (rest.dropWhile isDigit) else here .number rest

/-- Walk over the exponent of a number if there is one. -/
def maybeExponent (text : List UInt8) : Walk :=
  match text with
  | b :: rest => if is b 'e' || is b 'E' then exponent rest else .ok text
  | [] => .ok []

/-- Walk over what follows the digits in front of a point. -/
def numberTail (text : List UInt8) : Walk :=
  match text with
  | b :: rest => if is b '.' then fraction rest >>= maybeExponent else maybeExponent text
  | [] => .ok []

/-- Walk over a number behind its sign. -/
def unsigned (text : List UInt8) : Walk :=
  match text with
  | [] => here .endInValue []
  | b :: rest =>
    if is b '0' then
      if rest.head?.any isDigit then next .number rest else numberTail rest
    else if isDigit b then numberTail (rest.dropWhile isDigit)
    else here .number rest

/-- Walk over a number; one that is well formed may be too large. -/
def number (text : List UInt8) : Walk := do
  let rest ← unsigned (if text.head?.any (is · '-') then text.drop 1 else text)
  let digits := (text.take (text.length - rest.length)).map fun b => Char.ofNat b.toNat
  if (Json.number digits).isNone then here .range rest else .ok rest

/-- The unit of four hexadecimal digits, and the rest. -/
def unit (text : List UInt8) : Except (Flaw × Nat) (Nat × List UInt8) :=
  if text.length < 4 then .error (.endInString, 0)
  else
    match hexUnit ((text.take 4).map fun b => Char.ofNat b.toNat) with
    | some (n, _) => .ok (n, text.drop 4)
    | none => .error (.escape, text.length - 4)

/-- Walk over the second unit of a pair, with its backslash. -/
def secondUnit (text : List UInt8) : Walk :=
  match text with
  | [] => here .endInString []
  | a :: rest =>
    if !is a '\\' then here .pair rest
    else
      match rest with
      | [] => here .endInString []
      | b :: rest =>
        if !is b 'u' then here .pair rest
        else do
          let (second, rest) ← unit rest
          if 0xDC00 ≤ second ∧ second ≤ 0xDFFF then .ok rest else here .surrogate rest

/-- Walk over an escape behind its backslash. -/
def escapeTail (text : List UInt8) : Walk :=
  match text with
  | [] => here .endInString []
  | b :: rest =>
    if is b 'u' then do
      let (first, rest) ← unit rest
      if 0xDC00 ≤ first ∧ first ≤ 0xDFFF then here .surrogate rest
      else if 0xD800 ≤ first ∧ first ≤ 0xDBFF then secondUnit rest
      else .ok rest
    else if (shortEscape (Char.ofNat b.toNat)).isSome then .ok rest
    else here .escape rest

/-- Walk over a string behind its opening quote. The fuel is the length of the
text. -/
def stringTail : Nat → List UInt8 → Walk
  | _, [] => here .endInString []
  | 0, rest => here .endInString rest
  | fuel + 1, b :: rest =>
    if is b '"' then .ok rest
    else if is b '\\' then escapeTail rest >>= stringTail fuel
    else if b.toNat < 0x20 then here .control rest
    else stringTail fuel rest

/-- Walk over a string, whose bytes have to be a text. -/
def string (text : List UInt8) : Walk := do
  let rest ← stringTail text.length text
  if (Text.ofBytes? (text.take (text.length - rest.length))).isNone then here .codePoint rest
  else .ok rest

mutual
/-- Walk over a value, with at most so many levels of nesting. -/
def walk : Nat → Nat → List UInt8 → Walk
  | 0, _, rest => here .depth rest
  | fuel + 1, depth, text =>
    let text := skip text
    match text with
    | [] => next .endInValue []
    | b :: rest =>
      if is b 'n' then expected "ull".toList rest
      else if is b 't' then expected "rue".toList rest
      else if is b 'f' then expected "alse".toList rest
      else if is b '"' then string rest
      else if is b '-' || isDigit b then number text
      else if is b '[' then
        match depth with
        | 0 => next .depth text
        | depth + 1 => if (skip rest).head?.any (is · ']') then .ok ((skip rest).drop 1)
            else if (skip rest).isEmpty then next .endInList [] else walkItems fuel depth rest
      else if is b '\x7b' then
        match depth with
        | 0 => next .depth text
        | depth + 1 => if (skip rest).head?.any (is · '\x7d') then .ok ((skip rest).drop 1)
            else if (skip rest).isEmpty then next .endInObject [] else walkMembers fuel depth rest
      else next .value text
/-- Walk over items up to the closing bracket. -/
def walkItems : Nat → Nat → List UInt8 → Walk
  | 0, _, rest => here .depth rest
  | fuel + 1, depth, text => do
    let rest := skip (← walk fuel depth text)
    match rest with
    | [] => next .endInList []
    | b :: behind =>
      if is b ']' then .ok behind
      else if is b ',' then
        match skip behind with
        | [] => next .endInValue []
        | c :: others =>
          if is c ']' then next .trailingComma (c :: others) else walkItems fuel depth behind
      else next .listComma rest
/-- Walk over members up to the closing brace. -/
def walkMembers : Nat → Nat → List UInt8 → Walk
  | 0, _, rest => here .depth rest
  | fuel + 1, depth, text =>
    let text := skip text
    match text with
    | [] => next .endInValue []
    | b :: key =>
      if !is b '"' then next .key text
      else do
        let behindKey := skip (← string key)
        match behindKey with
        | [] => next .endInObject []
        | c :: behindColon =>
          if !is c ':' then next .colon behindKey
          else
            let rest := skip (← walk fuel depth behindColon)
            match rest with
            | [] => next .endInObject []
            | d :: behind =>
              if is d '\x7d' then .ok behind
              else if is d ',' then
                match skip behind with
                | e :: others =>
                  if is e '\x7d' then next .trailingComma (e :: others)
                  else walkMembers fuel depth behind
                | [] => next .endInValue []
              else next .objectComma rest
end

/-- The first flaw of a text and how many bytes are read up to its place. -/
def find (data : List UInt8) : Option (Flaw × Nat) :=
  match walk (data.length + 1) maxDepth data with
  | .error (flaw, left) => some (flaw, data.length - left)
  | .ok rest =>
    let rest := skip rest
    if rest.isEmpty then none else some (.trailing, data.length - (rest.length - 1))

/-- Where a place is: its line, and how many bytes of the line are read there. -/
def lineAndColumn (data : List UInt8) (place : Nat) : Nat × Nat :=
  let read := data.take place
  ((read.filter (is · '\n')).length + 1, (read.reverse.takeWhile (!is · '\n')).length)

/-- The first flaw of a text in words. -/
def describe (data : List UInt8) : String :=
  match find data with
  | none => ""
  | some (flaw, place) =>
    let (line, column) := lineAndColumn data place
    flaw.message ++ " at line " ++ Text.decimal line ++ " column " ++ Text.decimal column

end Diagnosis
end MediaNode.Json
