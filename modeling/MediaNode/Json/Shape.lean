import MediaNode.Json.Printer
import MediaNode.Text.Debug

/-!
# The shapes that values are read as

A record is read from an object by the names of its fields, or from an array by
their places. An object's members are checked in the order of their keys before
missing fields are reported in the order of their declaration; unknown members
are passed over. An array has to hold a value for every field that has no default
and none beyond the last.

`ShapeError` names the causes for which a value has another shape than the one
asked for.
-/
namespace MediaNode.Json

/-- Why a value does not have a shape. -/
inductive ShapeError where
  /-- A value of another type than the one expected. -/
  | invalidType (found : Json) (expected : String)
  /-- An integer outside the range of the type expected. -/
  | invalidValue (found : Int) (expected : String)
  /-- An array of another length than the one expected. -/
  | invalidLength (found : Nat) (expected : String)
  /-- An object without a field that has no default. -/
  | missingField (name : String)
  /-- A value that none of the alternatives accepts. -/
  | noVariant (name : String)
  /-- A message that is not an object. -/
  | notAnObject
deriving Repr, Inhabited

/-- How a value is called in an error. -/
def kindText : Json → String
  | .null => "null"
  | .bool true => "boolean `true`"
  | .bool false => "boolean `false`"
  | .int n => "integer `" ++ Text.signedDecimal n ++ "`"
  | .float x => "floating point `" ++ x.toText ++ "`"
  | .str s => "string " ++ Text.debugQuoted s
  | .arr _ => "sequence"
  | .obj _ => "map"

/-- The wording of each cause. -/
def ShapeError.message : ShapeError → String
  | .invalidType found expected =>
    "invalid type: " ++ kindText found ++ ", expected " ++ expected
  | .invalidValue found expected =>
    "invalid value: integer `" ++ Text.signedDecimal found ++ "`, expected " ++ expected
  | .invalidLength found expected =>
    "invalid length " ++ Text.decimal found ++ ", expected " ++ expected
  | .missingField name => "missing field `" ++ name ++ "`"
  | .noVariant name => "data did not match any variant of untagged enum " ++ name
  | .notAnObject => "message must be a JSON object"

/-- The outcome of reading a value as a shape. -/
abbrev Shaped (α : Type) := Except ShapeError α

/-- A string. -/
def shapeStr : Json → Shaped String
  | .str s => .ok s
  | other => .error (.invalidType other "a string")

/-- A string that names a path. -/
def shapePath : Json → Shaped String
  | .str s => .ok s
  | other => .error (.invalidType other "path string")

/-- A truth value. -/
def shapeBool : Json → Shaped Bool
  | .bool b => .ok b
  | other => .error (.invalidType other "a boolean")

/-- An integer between two bounds, named by its type in errors. -/
def shapeInt (low high : Int) (name : String) : Json → Shaped Int
  | .int n => if low ≤ n ∧ n ≤ high then .ok n else .error (.invalidValue n name)
  | other => .error (.invalidType other name)

/-- A 32-bit integer with a sign. -/
def shapeInt32 : Json → Shaped Int := shapeInt (-0x80000000) 0x7FFFFFFF "i32"

/-- A 32-bit integer without a sign. -/
def shapeUInt32 (value : Json) : Shaped Nat := (shapeInt 0 0xFFFFFFFF "u32" value).map Int.toNat

/-- A 64-bit integer without a sign. -/
def shapeUInt64 (value : Json) : Shaped Nat :=
  (shapeInt 0 0xFFFFFFFFFFFFFFFF "u64" value).map Int.toNat

/-- Any number as a double. -/
def shapeDouble (value : Json) : Shaped Double :=
  match value.asDouble with
  | some x => .ok x
  | none => .error (.invalidType value "f64")

/-- The items of an array. -/
def shapeArr : Json → Shaped (List Json)
  | .arr items => .ok items
  | other => .error (.invalidType other "a sequence")

/-- A value, or nothing where null stands. -/
def shapeOption {α : Type} (shape : Json → Shaped α) : Json → Shaped (Option α)
  | .null => .ok none
  | other => (shape other).map some

/-- What a record does about a field that is not there. -/
inductive Absence where
  /-- The field has to be there. -/
  | required
  /-- An object may leave the field out, an array may not. -/
  | optional
  /-- The field has a default. -/
  | defaulted
deriving DecidableEq, Repr

/-- A field of a record: its name, the check of its values, and its absence. -/
structure Field where
  name : String
  check : Json → Option ShapeError
  absence : Absence

/-- The check that a shape makes. -/
def failure {α : Type} (shape : Json → Shaped α) (value : Json) : Option ShapeError :=
  match shape value with
  | .ok _ => none
  | .error e => some e

/-- A field whose values have a shape. -/
def Field.of {α : Type} (name : String) (absence : Absence) (shape : Json → Shaped α) : Field :=
  { name, check := failure shape, absence }

/-- A record type: its name and its fields in the order of declaration. -/
structure RecordType where
  name : String
  fields : List Field

/-- The text that names a record type and its size. -/
def RecordType.sizeText (type : RecordType) : String :=
  let n := type.fields.length
  "struct " ++ type.name ++ " with " ++ Text.decimal n ++
    (if n = 1 then " element" else " elements")

/-- The first value among members that its field refuses. -/
def firstRefused (fields : List Field) : List (String × Json) → Option ShapeError
  | [] => none
  | (key, value) :: rest =>
    match fields.find? (·.name = key) with
    | none => firstRefused fields rest
    | some field =>
      match field.check value with
      | some e => some e
      | none => firstRefused fields rest

/-- The first required field without a member. -/
def firstMissing (members : List (String × Json)) : List Field → Option ShapeError
  | [] => none
  | field :: rest =>
    if field.absence = .required ∧ (lookup field.name members).isNone then
      some (.missingField field.name)
    else firstMissing members rest

/-- Pair the fields with the items at their places. -/
def placeFields (type : RecordType) (count : Nat) :
    Nat → List Field → List Json → Shaped (List (String × Json))
  | _, [], [] => .ok []
  | _, [], _ :: _ => .error (.invalidLength count "fewer elements in array")
  | place, field :: fields, [] =>
    if field.absence = .defaulted then placeFields type count (place + 1) fields []
    else .error (.invalidLength place type.sizeText)
  | place, field :: fields, item :: items =>
    match field.check item with
    | some e => .error e
    | none => (placeFields type count (place + 1) fields items).map ((field.name, item) :: ·)

/-- The checked members of a record. -/
def record (type : RecordType) : Json → Shaped (List (String × Json))
  | .obj members =>
    match firstRefused type.fields members with
    | some e => .error e
    | none =>
      match firstMissing members type.fields with
      | some e => .error e
      | none => .ok members
  | .arr items => placeFields type items.length 0 type.fields items
  | other => .error (.invalidType other ("struct " ++ type.name))

/-- A field of checked members in its shape; `none` where it is not there. -/
def fieldOf {α : Type} (members : List (String × Json)) (name : String)
    (shape : Json → Shaped α) : Option α :=
  (lookup name members).bind fun value => (shape value).toOption

end MediaNode.Json
