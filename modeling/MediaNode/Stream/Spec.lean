import MediaNode.Json.Basic
import MediaNode.Stream.Kind

/-!
# Stream specs

A spec is the untyped description of a stream: the members of an object, in the
order of their keys. Nothing changes a spec in place.
-/
namespace MediaNode.Stream

/-- The description of a stream as it was sent. -/
structure Spec where
  members : List (String × Json)
deriving BEq, Repr, Inhabited

namespace Spec

/-- A spec is an object. -/
def ofJson? : Json → Option Spec
  | .obj members => some ⟨members⟩
  | _ => none

/-- The object of a spec. -/
def toJson (spec : Spec) : Json := .obj spec.members

/-- The value of a field. -/
def get? (spec : Spec) (key : String) : Option Json := Json.lookup key spec.members

/-- The text of a field that is a string. -/
def str? (spec : Spec) (key : String) : Option String := (spec.get? key).bind Json.asStr

/-- The value of a field that is a 64-bit integer. -/
def int? (spec : Spec) (key : String) : Option Int := (spec.get? key).bind Json.asInt64

/-- The value of a field that is a number. -/
def double? (spec : Spec) (key : String) : Option Double := (spec.get? key).bind Json.asDouble

/-- The value of a field that is a truth value. -/
def bool? (spec : Spec) (key : String) : Option Bool := (spec.get? key).bind Json.asBool

/-- The id of the stream: a string that is not empty. -/
def id? (spec : Spec) : Option String := (spec.str? "id").filter (· ≠ "")

/-- The kind of the stream. -/
def kind? (spec : Spec) : Option Kind := (spec.int? "type").bind Kind.ofInt?

/-- The spec with a field put in. -/
def withField (spec : Spec) (key : String) (value : Json) : Spec :=
  ⟨Json.insertMember key value spec.members⟩

end Spec
end MediaNode.Stream
