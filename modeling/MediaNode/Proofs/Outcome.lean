/-!
# Chains of steps that may fail

A chain of two steps is peeled from the front: it succeeds exactly when the first
step gives a value and the second succeeds on it. Every proof about a handler or a
reader that stops at its first fault goes through this one fact, and through its case
for a check that has nothing to hand on.
-/
namespace MediaNode

/-- A chain of two steps succeeds exactly when both do, the second on what the first gave. -/
theorem bind_eq_ok_iff {ε α β : Type} {first : Except ε α} {second : α → Except ε β} {result : β} :
    first >>= second = .ok result ↔ ∃ value, first = .ok value ∧ second value = .ok result := by
  cases first <;> simp [bind, Except.bind]

/-- What throws gives no value. -/
@[simp] theorem throw_ne_ok {ε α : Type} {fault : ε} {value : α} :
    (throw fault : Except ε α) ≠ .ok value := by
  simp [throw, throwThe, MonadExceptOf.throw]

/-- A check with a fault behind it lets pass exactly what it does not catch. -/
theorem check_eq_ok_iff {ε α β : Type} {caught : Prop} [Decidable caught] {fault : ε}
    {skipped : α → Except ε β} {rest : Except ε β} {result : β} :
    (if caught then throw fault >>= skipped else rest) = .ok result ↔
      ¬ caught ∧ rest = .ok result := by
  split
  next holds => simp [holds, bind_eq_ok_iff]
  next fails => simp [fails]

end MediaNode
