import MediaNode.Text.Blank
import MediaNode.Text.Number

/-!
# Shell scripts

The worker of a node is often a script. This module holds the part of the shell's
grammar that such scripts use: words with quotes and parameters, redirections,
lists, and the compound commands for loops and choices. A script outside this part
is refused as a whole.
-/
namespace MediaNode.Simulation

/-- A part of a word. -/
inductive Piece where
  | literal (text : String)
  /-- The value of a parameter; between quotes it is not split into words. -/
  | parameter (name : String) (quoted : Bool)
deriving DecidableEq, Repr, Inhabited

/-- A word is the sequence of its parts. -/
abbrev Word := List Piece

/-- What a redirection does with its target. -/
inductive Direction where
  | read
  | write
  | append
  /-- Use the stream of another descriptor. -/
  | copy
deriving DecidableEq, Repr, Inhabited

/-- A redirection of one descriptor. -/
structure Redirect where
  descriptor : Nat
  direction : Direction
  target : Word
deriving DecidableEq, Repr, Inhabited

/-- A command of a script. -/
inductive Statement where
  | simple (words : List Word)
  | redirected (body : Statement) (redirects : List Redirect)
  /-- The second only if the first succeeds. -/
  | both (first second : Statement)
  /-- The second only if the first fails. -/
  | either (first second : Statement)
  /-- Success and failure exchanged. -/
  | negated (body : Statement)
  | group (body : List Statement)
  /-- Once for each value. -/
  | each (name : String) (values : List Word) (body : List Statement)
  /-- Again and again as long as the condition ends in success, or in failure. -/
  | repeated (while_ : Bool) (condition body : List Statement)
  | choice (condition yes no : List Statement)
deriving Repr, Inhabited

namespace Script

/-- What a script is read as before its grammar is looked at. -/
inductive Token where
  | word (word : Word)
  | operator (text : String)
  | redirect (descriptor : Nat) (direction : Direction)
deriving DecidableEq, Repr, Inhabited

/-- Whether a character may stand in the name of a parameter. -/
def isNameChar (c : Char) : Bool := c.isAlphanum || c = '_'

/-- The parameters whose names are one sign. -/
def specialNames : List Char := ['@', '*', '#', '?', '$', '!', '-']

/-- The name of a parameter behind a dollar sign, and what follows it. -/
def parameterName : List Char → Option (String × List Char)
  | '\x7b' :: rest =>
    match rest.span (· ≠ '\x7d') with
    | (name, _ :: behind) => some (String.ofList name, behind)
    | _ => none
  | c :: rest =>
    if specialNames.contains c || c.isDigit then some (c.toString, rest)
    else if isNameChar c then
      some (String.ofList (c :: rest.takeWhile isNameChar), rest.dropWhile isNameChar)
    else none
  | [] => none

/-- The parts between double quotes, and what follows the closing one. -/
def quotedPieces : Nat → Word → List Char → Word × List Char
  | 0, word, rest => (word, rest)
  | _, word, [] => (word, [])
  | _, word, '"' :: rest => (word, rest)
  | fuel + 1, word, '\\' :: c :: rest =>
    let text := if c = '"' ∨ c = '\\' ∨ c = '$' then c.toString else String.ofList ['\\', c]
    quotedPieces fuel (word ++ [.literal text]) rest
  | fuel + 1, word, '$' :: rest =>
    match parameterName rest with
    | some (name, behind) => quotedPieces fuel (word ++ [.parameter name true]) behind
    | none => quotedPieces fuel (word ++ [.literal "$"]) rest
  | fuel + 1, word, c :: rest => quotedPieces fuel (word ++ [.literal c.toString]) rest

/-- Whether a character ends a word. -/
def endsWord (c : Char) : Bool := " \t\n;&|<>()".toList.contains c

/-- A word and what follows it. -/
def wordPieces : Nat → Word → List Char → Word × List Char
  | 0, word, rest => (word, rest)
  | _, word, [] => (word, [])
  | fuel + 1, word, '\'' :: rest =>
    wordPieces fuel (word ++ [.literal (String.ofList (rest.takeWhile (· ≠ '\'')))])
      ((rest.dropWhile (· ≠ '\'')).drop 1)
  | fuel + 1, word, '"' :: rest =>
    let (word, behind) := quotedPieces fuel (word ++ [.literal ""]) rest
    wordPieces fuel word behind
  | fuel + 1, word, '\\' :: '\n' :: rest => wordPieces fuel word rest
  | fuel + 1, word, '\\' :: c :: rest => wordPieces fuel (word ++ [.literal c.toString]) rest
  | fuel + 1, word, '$' :: rest =>
    match parameterName rest with
    | some (name, behind) => wordPieces fuel (word ++ [.parameter name false]) behind
    | none => wordPieces fuel (word ++ [.literal "$"]) rest
  | fuel + 1, word, c :: rest =>
    if endsWord c then (word, c :: rest)
    else wordPieces fuel (word ++ [.literal c.toString]) rest

/-- A redirection sign, and what follows it. -/
def redirectSign (descriptor : Option Nat) : List Char → Option (Token × List Char)
  | '>' :: '>' :: rest => some (.redirect (descriptor.getD 1) .append, rest)
  | '>' :: '&' :: rest => some (.redirect (descriptor.getD 1) .copy, rest)
  | '>' :: rest => some (.redirect (descriptor.getD 1) .write, rest)
  | '<' :: rest => some (.redirect (descriptor.getD 0) .read, rest)
  | _ => none

/-- The tokens of a script. -/
def tokens : Nat → List Char → List Token
  | 0, _ => []
  | _, [] => []
  | fuel + 1, c :: rest =>
    if c = ' ' ∨ c = '\t' ∨ c = '\r' then tokens fuel rest
    else if c = '#' then tokens fuel (rest.dropWhile (· ≠ '\n'))
    else
      match redirectSign none (c :: rest), c, rest with
      | some (token, behind), _, _ => token :: tokens fuel behind
      | none, '\n', rest => .operator ";" :: tokens fuel rest
      | none, ';', rest => .operator ";" :: tokens fuel rest
      | none, '&', '&' :: rest => .operator "&&" :: tokens fuel rest
      | none, '|', '|' :: rest => .operator "||" :: tokens fuel rest
      | none, c, rest =>
        if endsWord c then .operator c.toString :: tokens fuel rest
        else
          match (Text.digit? c).bind fun d => redirectSign (some d) rest with
          | some (token, behind) => token :: tokens fuel behind
          | none =>
            let (word, behind) := wordPieces (rest.length + 2) [] (c :: rest)
            .word word :: tokens fuel behind

/-- The text of a word without parameters. -/
def literalText (word : Word) : Option String :=
  word.foldl (fun text piece => match text, piece with
    | some text, .literal more => some (text ++ more)
    | _, _ => none) (some "")

/-- The word at the front as a keyword. -/
def keyword : List Token → String
  | .word word :: _ => (literalText word).getD ""
  | _ => ""

/-- The keywords that end a list. -/
def closing : List String := ["do", "done", "then", "else", "elif", "fi", "\x7d"]

/-- Take an expected keyword. -/
def expect (wanted : String) (all : List Token) : Option (List Token) :=
  if keyword all = wanted then some (all.drop 1) else none

/-- Separators at the front do nothing. -/
def skipSeparators (all : List Token) : List Token := all.dropWhile (· = .operator ";")

/-- The words at the front. -/
def leadingWords : List Token → List Word × List Token
  | .word word :: rest =>
    let (words, behind) := leadingWords rest
    (word :: words, behind)
  | rest => ([], rest)

/-- Words and redirections up to the end of a simple command. -/
def simpleParts : List Token → List Word × List Redirect × List Token
  | .word word :: rest =>
    let (words, redirects, behind) := simpleParts rest
    (word :: words, redirects, behind)
  | .redirect descriptor direction :: .word target :: rest =>
    let (words, redirects, behind) := simpleParts rest
    (words, { descriptor, direction, target } :: redirects, behind)
  | rest => ([], [], rest)

/-- Redirections behind a compound command. -/
def withRedirects (body : Statement) (all : List Token) : Statement × List Token :=
  match simpleParts all with
  | ([], [], _) => (body, all)
  | (_, redirects, behind) => (.redirected body redirects, behind)

mutual
/-- Commands up to a closing keyword or the end. -/
def statements : Nat → List Token → Option (List Statement × List Token)
  | 0, _ => none
  | fuel + 1, all =>
    let all := skipSeparators all
    if all.isEmpty || closing.contains (keyword all) then some ([], all)
    else do
      let (first, rest) ← chain fuel all
      let (others, rest) ← match rest with
        | [] => some ([], [])
        | .operator ";" :: rest => statements fuel rest
        | _ => none
      return (first :: others, rest)
/-- Commands that depend on each other, from the left to the right. -/
def chain : Nat → List Token → Option (Statement × List Token)
  | 0, _ => none
  | fuel + 1, all => do
    let (first, rest) ← command fuel all
    links fuel first rest
/-- What follows behind the first command of a chain. -/
def links : Nat → Statement → List Token → Option (Statement × List Token)
  | 0, _, _ => none
  | fuel + 1, first, .operator "&&" :: rest => do
    let (second, rest) ← command fuel (skipSeparators rest)
    links fuel (.both first second) rest
  | fuel + 1, first, .operator "||" :: rest => do
    let (second, rest) ← command fuel (skipSeparators rest)
    links fuel (.either first second) rest
  | _, first, rest => some (first, rest)
/-- One command. -/
def command : Nat → List Token → Option (Statement × List Token)
  | 0, _ => none
  | fuel + 1, all =>
    match keyword all with
    | "!" => do
      let (body, rest) ← command fuel (all.drop 1)
      return (.negated body, rest)
    | "\x7b" => do
      let (body, rest) ← statements fuel (all.drop 1)
      return withRedirects (.group body) (← expect "\x7d" rest)
    | "for" => do
      let .word name :: rest := all.drop 1 | none
      let (values, rest) := match expect "in" rest with
        | some rest => leadingWords rest
        | none => ([[.parameter "@" true]], rest)
      let (body, rest) ← statements fuel (← expect "do" (skipSeparators rest))
      return withRedirects (.each (← literalText name) values body) (← expect "done" rest)
    | "while" => loopOf fuel true all
    | "until" => loopOf fuel false all
    | "if" => do
      let (body, rest) ← choiceOf fuel (all.drop 1)
      return withRedirects body rest
    | _ =>
      match simpleParts all with
      | ([], [], _) => none
      | (words, [], rest) => some (.simple words, rest)
      | (words, redirects, rest) => some (.redirected (.simple words) redirects, rest)
/-- A loop behind its keyword. -/
def loopOf : Nat → Bool → List Token → Option (Statement × List Token)
  | 0, _, _ => none
  | fuel + 1, while_, all => do
    let (condition, rest) ← statements fuel (all.drop 1)
    let (body, rest) ← statements fuel (← expect "do" rest)
    return withRedirects (.repeated while_ condition body) (← expect "done" rest)
/-- A choice behind its keyword, up to its end. -/
def choiceOf : Nat → List Token → Option (Statement × List Token)
  | 0, _ => none
  | fuel + 1, all => do
    let (condition, rest) ← statements fuel all
    let (yes, rest) ← statements fuel (← expect "then" rest)
    match keyword rest with
    | "elif" =>
      let (no, rest) ← choiceOf fuel (rest.drop 1)
      return (.choice condition yes [no], rest)
    | "else" =>
      let (no, rest) ← statements fuel (rest.drop 1)
      return (.choice condition yes no, ← expect "fi" rest)
    | _ => return (.choice condition yes [], ← expect "fi" rest)
end

/-- Read a script. -/
def parse (text : String) : Option (List Statement) :=
  let all := tokens (text.length + 1) text.toList
  match statements (8 * all.length + 8) all with
  | some (body, []) => some body
  | _ => none

end Script
end MediaNode.Simulation
