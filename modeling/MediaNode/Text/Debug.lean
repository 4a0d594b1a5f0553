import MediaNode.Text.Category

/-!
# Quoted texts for diagnostics

A text between double quotes in which every character can be seen: the quote and
the backslash are escaped, the common controls have a letter, and characters that
cannot be seen or would change how the one in front of them looks are written by
number.
-/
namespace MediaNode.Text

/-- Whether a character is written by number. -/
def isHidden (c : Char) : Bool :=
  if c.toNat < 0x7F then c.toNat < 0x20 else isUnseen c || isExtending c

/-- A number in hexadecimal without leading zeros. -/
def hexNumber (n : Nat) : List Char := Nat.toDigits 16 n

/-- One character of a quoted text. -/
def debugChar (c : Char) : List Char :=
  if c = '"' then ['\\', '"']
  else if c = '\\' then ['\\', '\\']
  else if c = '\n' then ['\\', 'n']
  else if c = '\r' then ['\\', 'r']
  else if c = '\t' then ['\\', 't']
  else if c.toNat = 0 then ['\\', '0']
  else if isHidden c then '\\' :: 'u' :: '\x7b' :: (hexNumber c.toNat ++ ['\x7d'])
  else [c]

/-- A text between quotes with every character visible. -/
def debugQuoted (text : String) : String :=
  String.ofList ('"' :: (text.toList.flatMap debugChar ++ ['"']))

end MediaNode.Text
