import MediaNode.Text.Category
import MediaNode.Text.Number

/-!
# Log lines

A log line has a level, the part of the program that it comes from, and a text. A
filter lets lines through up to a level for each part; the most specific of its
directives for the part of a line decides, and a line that none is about is
dropped.
-/
namespace MediaNode.Log

/-- How important a line is. -/
inductive Level where
  | error
  | warn
  | info
  | debug
  | trace
deriving DecidableEq, Repr, Inhabited

/-- The name of a level. -/
def Level.name : Level → String
  | .error => "ERROR"
  | .warn => "WARN"
  | .info => "INFO"
  | .debug => "DEBUG"
  | .trace => "TRACE"

/-- The place of a level, the most important first. -/
def Level.rank : Level → Nat
  | .error => 1
  | .warn => 2
  | .info => 3
  | .debug => 4
  | .trace => 5

/-- A line of the log. -/
structure Line where
  level : Level
  /-- The part of the program. -/
  target : String
  text : String
deriving DecidableEq, Repr, Inhabited

/-- Lines of a part up to a rank are let through; rank zero lets none through. -/
structure Directive where
  /-- How the names of the parts begin. -/
  target : String := ""
  rank : Nat := Level.trace.rank
deriving DecidableEq, Repr, Inhabited

/-- Whether a directive is about a line. -/
def Directive.isAbout (directive : Directive) (line : Line) : Bool :=
  directive.target.toList.isPrefixOf line.target.toList

/-- Directives, the later one counting among those with the same target. -/
abbrev Filter := List Directive

/-- Lets only errors through. -/
def errorsOnly : Filter := [{ rank := Level.error.rank }]

namespace Filter

/-- The most specific directive about a line. -/
def directive? (filter : Filter) (line : Line) : Option Directive :=
  (filter.filter (·.isAbout line)).foldl (fun best next => match best with
    | some found => if found.target.length ≤ next.target.length then some next else best
    | none => some next) none

/-- Whether a filter lets a line through. -/
def passes (filter : Filter) (line : Line) : Bool :=
  match filter.directive? line with
  | some directive => decide (line.level.rank ≤ directive.rank)
  | none => false

end Filter

/-- The words for ranks. -/
def rankWords : List (String × Nat) :=
  [("off", 0), ("error", 1), ("warn", 2), ("info", 3), ("debug", 4), ("trace", 5)]

/-- A rank as a number or a word in any case. -/
def rank? (word : List Char) : Option Nat :=
  match (Text.unsigned? 64 word).filter (· ≤ 5) with
  | some rank => some rank
  | none => rankWords.lookup (Text.asciiLower (String.ofList word))

/-- The rank behind an equals sign; nothing there stands for every level. -/
def rankOrAll? (word : List Char) : Option Nat :=
  if word.isEmpty then some Level.trace.rank else rank? word

/-- Whether a target may start with this character. -/
def startsTarget (c : Char) : Bool := c = '-' || c = ':' || c = '_' || Text.isAlphanumeric c

/-- The field that every line has. -/
def messageField : List Char := "message".toList

/-- What stands in brackets, behind the opening one: whether it is about every line,
and what follows. Brackets name a scope, or in braces a field of a line. -/
def brackets (text : List Char) : Option (Bool × List Char) :=
  let scope := text.takeWhile fun c => c ≠ ']' && c ≠ '\x7b'
  match text.drop scope.length with
  | ']' :: rest => some (false, rest)
  | _ :: inner =>
    let name := inner.takeWhile (· ≠ '\x7d')
    match inner.drop name.length with
    | _ :: ']' :: rest =>
      if name.isEmpty then none else some (scope.isEmpty && name = messageField, rest)
    | _ => none
  | [] => none

/-- Read a directive: a target, a level, or both with an equals sign between them.
Brackets behind the target limit a directive to a scope or to lines with a field;
nothing is logged in a scope, so a directive that is not about every line adds
nothing. Blanks at the ends are left out only to find the parts: the target is as
many characters of the whole text, and the level is what follows it there. `none`
if the text cannot be read. -/
def directive? (text : List Char) : Option (Option Directive) :=
  let inner := Text.trimChars text
  let length := (inner.takeWhile fun c => c ≠ '=' && c ≠ '[').length
  let target := String.ofList (text.take length)
  let level (behind : List Char) : Option Nat :=
    rankOrAll? (text.drop (inner.length - behind.length))
  if !inner.head?.any fun c => startsTarget c || c = '[' then none
  else
    match inner.drop length with
    | [] =>
      match rank? text with
      | some rank => some (some { rank })
      | none => some (some { target := String.ofList text })
    | '=' :: behind => (level behind).map fun rank => some { target, rank }
    | _ :: scope =>
      match brackets scope with
      | some (true, []) => some (some { target })
      | some (false, []) => some none
      | some (general, '=' :: behind) =>
        (level behind).map fun rank => if general then some { target, rank } else none
      | _ => none

/-- Read a filter: directives with commas between them. -/
def filter? (text : String) : Option Filter :=
  let parts := (Text.splitAll ',' text.toList).filter (!·.isEmpty)
  (parts.mapM directive?).map fun directives =>
    if parts.isEmpty then errorsOnly else directives.filterMap id

end MediaNode.Log
