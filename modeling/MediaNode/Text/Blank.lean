/-!
# Blank characters, words and lines

Blank is the white-space property of the character database. Words are the
maximal runs of other characters; a line ends at a line feed, which may be
preceded by one carriage return. All functions work on lists of characters, so
that each of them is one recursion over its text.
-/
namespace MediaNode.Text

/-- The characters that carry the white-space property. -/
def isBlank (c : Char) : Bool :=
  let n := c.toNat
  (9 ≤ n && n ≤ 13) || n = 0x20 || n = 0x85 || n = 0xA0 || n = 0x1680 ||
    (0x2000 ≤ n && n ≤ 0x200A) || n = 0x2028 || n = 0x2029 || n = 0x202F ||
    n = 0x205F || n = 0x3000

/-- The text without the blanks in front of it. -/
def dropBlanks (text : List Char) : List Char := text.dropWhile isBlank

/-- The text without the blanks behind it. -/
def dropBlanksEnd (text : List Char) : List Char := (text.reverse.dropWhile isBlank).reverse

/-- The text without the blanks at either end. -/
def trimChars (text : List Char) : List Char := dropBlanksEnd (dropBlanks text)

/-- The text without the blanks at either end. -/
def trim (text : String) : String := String.ofList (trimChars text.toList)

/-- The first separator splits a text in two; `none` if it does not occur. -/
def splitFirst (separator : Char) : List Char → Option (List Char × List Char)
  | [] => none
  | c :: rest =>
    if c = separator then some ([], rest)
    else (splitFirst separator rest).map fun (before, behind) => (c :: before, behind)

/-- The last separator splits a text in two; `none` if it does not occur. -/
def splitLast (separator : Char) (text : List Char) : Option (List Char × List Char) :=
  (splitFirst separator text.reverse).map fun (behind, before) =>
    (before.reverse, behind.reverse)

/-- Every occurrence of the separator ends a piece; there is one piece more than
separators. -/
def splitAll (separator : Char) : List Char → List (List Char)
  | [] => [[]]
  | c :: rest =>
    if c = separator then [] :: splitAll separator rest
    else
      match splitAll separator rest with
      | [] => [[c]]
      | piece :: pieces => (c :: piece) :: pieces

/-- The words of a text: the maximal runs of characters that are not blank. -/
def words (text : List Char) : List (List Char) :=
  let (word, finished) := text.foldr step ([], [])
  collect word finished
where
  /-- The word that is open at the left end, and the finished words behind it. -/
  step (c : Char) : List Char × List (List Char) → List Char × List (List Char)
    | (word, finished) =>
      if isBlank c then ([], collect word finished) else (c :: word, finished)
  /-- A word that holds a character joins the finished ones. -/
  collect (word : List Char) (finished : List (List Char)) : List (List Char) :=
    if word.isEmpty then finished else word :: finished

/-- A carriage return that ends a terminated line belongs to its terminator. -/
def dropReturn (line : List Char) : List Char :=
  if line.getLast? = some '\r' then line.dropLast else line

/-- The lines of a text. A last line without terminator keeps its characters as
they are and counts only if it has any. -/
def lineList (text : List Char) : List (List Char) :=
  let pieces := splitAll '\n' text
  let unfinished := pieces.getLast?.getD []
  pieces.dropLast.map dropReturn ++ (if unfinished.isEmpty then [] else [unfinished])

/-- The ASCII letters of a text in lower case; every other character as it is. -/
def asciiLower (text : String) : String := String.ofList (text.toList.map Char.toLower)

/-- The ASCII letters of a text in upper case; every other character as it is. -/
def asciiUpper (text : String) : String := String.ofList (text.toList.map Char.toUpper)

end MediaNode.Text
