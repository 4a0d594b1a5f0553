import MediaNode.Json.Basic

/-!
# Building values

Values of what reports are made of: counts, and optional and repeated parts. What
is absent is null.
-/
namespace MediaNode.Json

/-- A count. -/
def ofNat (n : Nat) : Json := .int n

/-- An optional value. -/
def ofOption {α : Type} (encode : α → Json) : Option α → Json
  | some x => encode x
  | none => .null

/-- The values of a list. -/
def ofList {α : Type} (encode : α → Json) (xs : List α) : Json := .arr (xs.map encode)

/-- Texts in order. -/
def ofSorted (texts : List String) : Json :=
  ofList .str (texts.mergeSort fun a b => decide (a ≤ b))

end MediaNode.Json
