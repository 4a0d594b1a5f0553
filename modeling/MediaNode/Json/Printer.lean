import MediaNode.Json.Basic
import MediaNode.Double.Shortest
import MediaNode.Text.Hex

/-!
# JSON text

The compact form: no blanks, members in their order, every character outside the
control range as it is except the quote and the backslash, which are escaped. A
control character has its short escape if it has one, else four hexadecimal
digits.
-/
namespace MediaNode.Json

/-- One character inside a quoted string. -/
def escape (c : Char) : List Char :=
  if c = '"' then ['\\', '"']
  else if c = '\\' then ['\\', '\\']
  else if c = '\n' then ['\\', 'n']
  else if c = '\r' then ['\\', 'r']
  else if c = '\t' then ['\\', 't']
  else if c = '\x08' then ['\\', 'b']
  else if c = '\x0c' then ['\\', 'f']
  else if c.toNat < 0x20 then '\\' :: 'u' :: Text.Hex.fixed 4 c.toNat
  else [c]

/-- A string between quotes. -/
def quoted (text : String) : List Char :=
  '"' :: (text.toList.flatMap escape ++ ['"'])

mutual
/-- The compact text of a value. -/
def chars : Json → List Char
  | .null => "null".toList
  | .bool true => "true".toList
  | .bool false => "false".toList
  | .int n => (Text.signedDecimal n).toList
  | .float x => x.toText.toList
  | .str s => quoted s
  | .arr items => '[' :: (charsItems items ++ [']'])
  | .obj members => '\x7b' :: (charsMembers members ++ ['\x7d'])
/-- Items with commas between them. -/
def charsItems : List Json → List Char
  | [] => []
  | [item] => chars item
  | item :: rest => chars item ++ ',' :: charsItems rest
/-- Members with commas between them. -/
def charsMembers : List (String × Json) → List Char
  | [] => []
  | [(key, value)] => quoted key ++ ':' :: chars value
  | (key, value) :: rest => quoted key ++ ':' :: (chars value ++ ',' :: charsMembers rest)
end

/-- The compact text of a value. -/
def compact (value : Json) : String := String.ofList (chars value)

end MediaNode.Json
