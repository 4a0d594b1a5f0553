import MediaNode.Json.Printer
import MediaNode.Path
import MediaNode.Stream.Spec
import MediaNode.Text.Number

/-!
# Rules for fields

A rule says which values a field may have, and a severity what it means to break
the rule: a warning, or the refusal of the whole spec. A path of another type than
a string is a warning whatever the severity.
-/
namespace MediaNode.Stream

/-- What breaking a rule means. -/
inductive Severity where
  | warn
  | fatal
deriving DecidableEq, Repr, Inhabited

/-- The outcome of checking one field. -/
inductive Validity where
  | valid
  | invalid
  | fatal
deriving DecidableEq, Repr, Inhabited

/-- Which values a field may have. -/
inductive Rule where
  | intRange (min max : Int)
  | floatRange (min max : Double)
  | intSet (allowed : List Int)
  | strSet (allowed : List String)
  | path
  | integer
  | nonEmptyString
  | array
  | bool
  /-- Width and height around an `x`. -/
  | size
  /-- Numerator and denominator around a colon. -/
  | ratio
  | any
deriving DecidableEq, Repr, Inhabited

/-- An absolute path without a zero character. -/
def isValidPath (text : String) : Bool :=
  Path.isAbsolute ⟨text⟩ && !text.toList.contains '\x00'

/-- Two unsigned numbers around the first separator, blanks around each ignored. -/
def parsePair (text : String) (separator : Char) : Option (Nat × Nat) := do
  let (a, b) ← Text.splitFirst separator text.toList
  let a ← Text.unsigned? 32 (Text.trimChars a)
  let b ← Text.unsigned? 32 (Text.trimChars b)
  return (a, b)

/-- Whether an option holds a value with a property. -/
def holds {α : Type} (value : Option α) (property : α → Bool) : Bool :=
  match value with
  | some x => property x
  | none => false

namespace Rule

/-- Whether a value satisfies the rule. -/
def accepts (rule : Rule) (value : Json) : Bool :=
  match rule with
  | .intRange min max => holds value.asInt64 fun n => min ≤ n && n ≤ max
  | .floatRange min max => holds value.asDouble fun x => min.le x && x.le max
  | .intSet allowed => holds value.asInt64 allowed.contains
  | .strSet allowed => holds value.asStr allowed.contains
  | .path => holds value.asStr isValidPath
  | .integer => value.asInt64.isSome
  | .nonEmptyString => holds value.asStr (· ≠ "")
  | .array => value.asArr.isSome
  | .bool => value.asBool.isSome
  | .size => holds value.asStr fun s => (parsePair s 'x').isSome
  | .ratio => holds (value.asStr.bind (parsePair · ':')) fun (_, den) => den ≠ 0
  | .any => true

end Rule

/-- A rule with its severity. -/
structure FieldRule where
  rule : Rule
  severity : Severity
deriving DecidableEq, Repr, Inhabited

/-- Check a value. -/
def FieldRule.evaluate (field : FieldRule) (value : Json) : Validity :=
  if field.rule.accepts value then .valid
  else if field.rule = .path ∧ ¬ value.isStr then .invalid
  else
    match field.severity with
    | .warn => .invalid
    | .fatal => .fatal

end MediaNode.Stream
