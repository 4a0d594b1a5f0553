import MediaNode.Double.Basic

/-!
# JSON values

An integer and a floating-point number are different values even when they are
numerically equal. The members of an object are kept in increasing order of
their keys, compared by code point, and every key occurs once: `insert` and
`ofMembers` are the ways to build one, and `Ordered` says what they keep.
-/
namespace MediaNode

/-- A JSON value. -/
inductive Json where
  | null
  | bool (value : Bool)
  | int (value : Int)
  | float (value : Double)
  | str (value : String)
  | arr (items : List Json)
  | obj (members : List (String × Json))
deriving BEq, Repr, Inhabited

namespace Json

/-- Put a member into an ordered list of members; the last value of a key wins. -/
def insertMember (key : String) (value : Json) : List (String × Json) → List (String × Json)
  | [] => [(key, value)]
  | (k, v) :: rest =>
    if key < k then (key, value) :: (k, v) :: rest
    else if key = k then (key, value) :: rest
    else (k, v) :: insertMember key value rest

/-- The ordered members that a sequence of members builds. -/
def orderMembers (members : List (String × Json)) : List (String × Json) :=
  members.foldl (fun built (k, v) => insertMember k v built) []

/-- The object that a sequence of members builds. -/
def ofMembers (members : List (String × Json)) : Json := .obj (orderMembers members)

/-- The value of a key among members. -/
def lookup (key : String) : List (String × Json) → Option Json
  | [] => none
  | (k, v) :: rest => if k = key then some v else lookup key rest

/-- The value of a key of an object. -/
def get? (key : String) : Json → Option Json
  | .obj members => lookup key members
  | _ => none

/-- Members in strictly increasing order of their keys. -/
def OrderedMembers (members : List (String × Json)) : Prop :=
  (members.map Prod.fst).Pairwise (· < ·)

mutual
/-- Every object inside the value has its members in order. -/
def Ordered : Json → Prop
  | .arr items => OrderedItems items
  | .obj members => OrderedMembers members ∧ OrderedValues members
  | _ => True
/-- Every item is ordered. -/
def OrderedItems : List Json → Prop
  | [] => True
  | item :: rest => Ordered item ∧ OrderedItems rest
/-- The value of every member is ordered. -/
def OrderedValues : List (String × Json) → Prop
  | [] => True
  | (_, value) :: rest => Ordered value ∧ OrderedValues rest
end

/-- The integers that a value can hold as integers. -/
def IntegerRange (n : Int) : Prop := -0x8000000000000000 ≤ n ∧ n ≤ 0xFFFFFFFFFFFFFFFF

mutual
/-- Every number inside the value is an integer of the range. -/
def Integral : Json → Prop
  | .int n => IntegerRange n
  | .float _ => False
  | .arr items => IntegralItems items
  | .obj members => IntegralValues members
  | _ => True
/-- Every item is integral. -/
def IntegralItems : List Json → Prop
  | [] => True
  | item :: rest => Integral item ∧ IntegralItems rest
/-- The value of every member is integral. -/
def IntegralValues : List (String × Json) → Prop
  | [] => True
  | (_, value) :: rest => Integral value ∧ IntegralValues rest
end

mutual
/-- How many arrays and objects are nested in the value. -/
def depth : Json → Nat
  | .arr items => depthItems items + 1
  | .obj members => depthValues members + 1
  | _ => 0
/-- The greatest depth of the items. -/
def depthItems : List Json → Nat
  | [] => 0
  | item :: rest => max (depth item) (depthItems rest)
/-- The greatest depth of the members' values. -/
def depthValues : List (String × Json) → Nat
  | [] => 0
  | (_, value) :: rest => max (depth value) (depthValues rest)
end

/-- A string's text. -/
def asStr : Json → Option String
  | .str s => some s
  | _ => none

/-- A Boolean. -/
def asBool : Json → Option Bool
  | .bool b => some b
  | _ => none

/-- An integer that fits into 64 bits with a sign. -/
def asInt64 : Json → Option Int
  | .int n => if n ≤ 0x7FFFFFFFFFFFFFFF then some n else none
  | _ => none

/-- An integer that is not negative. -/
def asNat : Json → Option Nat
  | .int n => if 0 ≤ n then some n.toNat else none
  | _ => none

/-- Any number, rounded to a double. -/
def asDouble : Json → Option Double
  | .int n => some (Double.ofInt n)
  | .float x => some x
  | _ => none

/-- The items of an array. -/
def asArr : Json → Option (List Json)
  | .arr items => some items
  | _ => none

/-- The members of an object. -/
def asObj : Json → Option (List (String × Json))
  | .obj members => some members
  | _ => none

/-- Whether the value is an object. -/
def isObj : Json → Bool
  | .obj _ => true
  | _ => false

/-- Whether the value is a string. -/
def isStr : Json → Bool
  | .str _ => true
  | _ => false

end Json
end MediaNode
