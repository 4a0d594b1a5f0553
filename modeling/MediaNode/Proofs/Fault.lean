import Mathlib.Logic.Function.Iterate
import MediaNode.Fault

/-!
# Faults that are passed on

Who receives an error object makes a fault of it, and may report that fault to the next one. For six
codes the receiver has a fault of its own, and five of them are passed on as they came, as often as
one likes: their fault keeps the message itself, or its wording is the message. An unknown method is
the exception. Its fault takes the whole message for the name of the method, and words it with the
preface once more, so that the message grows by one preface each time.
-/
namespace MediaNode

/-- What the next one receives when the fault that an error object reports is reported again. -/
def Rpc.ErrorObject.passOn (e : ErrorObject) : ErrorObject := (Fault.ofErrorObject e).toErrorObject

namespace Fault

open Rpc

/-- The codes for which the receiver has a fault of its own. -/
def ownCodes : List Int :=
  [Code.notActivated, Code.permissionDenied, Code.invalidParams, Code.methodNotFound,
   Code.shutdownInProgress, Code.activationFailed]

/-- What is put in front of the name of an unknown method. -/
def unknownPreface : String := "Method not found: "

/-- So many prefaces of an unknown method. -/
def prefaces : Nat → String
  | 0 => ""
  | n + 1 => unknownPreface ++ prefaces n

/-- The more prefaces there are, the longer they are. -/
theorem length_prefaces (n : Nat) : (prefaces n).length = 18 * n := by
  induction n with
  | zero => rfl
  | succ n inductionHypothesis =>
    rw [prefaces, String.length_append, inductionHypothesis, Nat.mul_succ, Nat.add_comm]
    rfl

/-- The faults that are reported under one of these codes. -/
theorem code_mem_ownCodes {fault : Fault} (own : fault.toErrorObject.code ∈ ownCodes) :
    fault = notActivated ∨ fault = permissionDenied ∨ (∃ reason, fault = invalidParams reason) ∨
      (∃ method, fault = methodNotFound method) ∨ fault = shutdownInProgress ∨
      (∃ reason, fault = activation reason) ∨ fault = unsupportedProtocol := by
  cases fault with
  | config cause =>
    -- a directory that cannot be made has another code than any other flaw of a spec
    cases cause <;>
      simp only [toErrorObject, ErrorObject.withErrno] at own <;> exact absurd own (by decide)
  | streamExists _ | streamNotExist _ | streamNotFound | spawn _ | upload _ | io _ =>
    simp only [toErrorObject, ErrorObject.withErrno] at own
    exact absurd own (by decide)
  | json _ | setup _ | codec _ =>
    simp only [toErrorObject, ErrorObject.internalError, ErrorObject.plain] at own
    exact absurd own (by decide)
  | _ => simp

/-- An error object with such a code is passed on as it is, unless it is about a method. -/
theorem passOn_eq {fault : Fault} (own : fault.toErrorObject.code ∈ ownCodes)
    (known : fault.toErrorObject.code ≠ Code.methodNotFound) :
    fault.toErrorObject.passOn = fault.toErrorObject := by
  obtain rfl | rfl | ⟨reason, rfl⟩ | ⟨method, rfl⟩ | rfl | ⟨reason, rfl⟩ | rfl :=
    code_mem_ownCodes own
  case inr.inr.inr.inl => exact absurd rfl known
  all_goals rfl

/-- An unknown method gets another preface. -/
theorem passOn_methodNotFound (message : String) :
    (ErrorObject.plain Code.methodNotFound message).passOn =
      .plain Code.methodNotFound (unknownPreface ++ message) := rfl

/-- Only an unknown method is reported as such. -/
theorem eq_plain_methodNotFound {fault : Fault}
    (unknown : fault.toErrorObject.code = Code.methodNotFound) :
    fault.toErrorObject = .plain Code.methodNotFound fault.message := by
  have own : fault.toErrorObject.code ∈ ownCodes := by
    rw [unknown]
    decide
  obtain rfl | rfl | ⟨reason, rfl⟩ | ⟨method, rfl⟩ | rfl | ⟨reason, rfl⟩ | rfl :=
    code_mem_ownCodes own
  case inr.inr.inr.inl => rfl
  all_goals cases unknown

/-- Passing an unknown method on puts as many prefaces in front of its message. -/
theorem iterate_passOn_methodNotFound (times : Nat) (message : String) :
    ErrorObject.passOn^[times] (.plain Code.methodNotFound message) =
      .plain Code.methodNotFound (prefaces times ++ message) := by
  induction times with
  | zero => simp [prefaces]
  | succ times inductionHypothesis =>
    rw [Function.iterate_succ_apply', inductionHypothesis, passOn_methodNotFound, prefaces,
      String.append_assoc]

/-- What a fault reports under a code of the receiver's own keeps its code and its data, and with
them its error number, however often it is passed on. Its message stays what it was unless the
fault is an unknown method: then each time puts the preface in front of it once more. -/
theorem passed_on {fault : Fault} (own : fault.toErrorObject.code ∈ ownCodes) (times : Nat) :
    let first := fault.toErrorObject
    let last := ErrorObject.passOn^[times] first
    last.code = first.code ∧ last.data = first.data ∧ last.errno = first.errno ∧
      (first.code ≠ Code.methodNotFound → last.message = first.message) ∧
      (first.code = Code.methodNotFound → last.message = prefaces times ++ first.message) ∧
      (last = first ↔ times = 0 ∨ first.code ≠ Code.methodNotFound) := by
  intro first last
  by_cases known : first.code = Code.methodNotFound
  · have reported : first = .plain Code.methodNotFound fault.message :=
      eq_plain_methodNotFound known
    have after : last = .plain Code.methodNotFound (prefaces times ++ fault.message) := by
      simp only [last, reported, iterate_passOn_methodNotFound]
    have grown : last = first ↔ times = 0 := by
      constructor
      · intro same
        have length := congrArg (fun e : ErrorObject => e.message.length) same
        simp only [after, reported, ErrorObject.plain, String.length_append,
          length_prefaces] at length
        omega
      · rintro rfl
        rfl
    refine ⟨?_, ?_, ?_, fun other => absurd known other, fun _ => ?_, ?_⟩
    · rw [after, known]
      rfl
    · rw [after, reported]
      rfl
    · rw [after, reported]
      rfl
    · rw [after, reported]
      rfl
    · rw [grown, or_iff_left (not_not.mpr known)]
  · have same : last = first := Function.iterate_fixed (passOn_eq own known) times
    simp only [same, known, ne_eq, not_false_eq_true, or_true, implies_true, and_self,
      false_implies]

/-- A protocol that is not supported is reported as a fault of the parameters and stays what it is
from then on; an unknown method has three prefaces after it was passed on twice. -/
theorem passed_on_twice :
    let unsupported := unsupportedProtocol.toErrorObject
    let unknown := (methodNotFound "foo").toErrorObject
    unsupported.code ∈ ownCodes ∧ ErrorObject.passOn^[2] unsupported = unsupported ∧
      unknown.code ∈ ownCodes ∧ (ErrorObject.passOn^[2] unknown).message =
        "Method not found: Method not found: Method not found: foo" := by
  have own : unsupportedProtocol.toErrorObject.code ∈ ownCodes := by decide
  have ownUnknown : (methodNotFound "foo").toErrorObject.code ∈ ownCodes := by decide
  obtain ⟨-, -, -, -, -, same⟩ := passed_on own 2
  obtain ⟨-, -, -, -, grown, -⟩ := passed_on ownUnknown 2
  exact ⟨own, same.mpr (.inr (by decide)), ownUnknown, (grown rfl).trans (by decide)⟩

/-- The message about an unknown method grows when it is passed on. -/
theorem unknown_method_grows :
    (methodNotFound "foo").toErrorObject.code ∈ ownCodes ∧
      (methodNotFound "foo").toErrorObject.message = "Method not found: foo" ∧
      (methodNotFound "foo").toErrorObject.passOn.message =
        "Method not found: Method not found: foo" ∧
      (methodNotFound "foo").toErrorObject.passOn.message ≠
        (methodNotFound "foo").toErrorObject.message := by
  decide

end Fault
end MediaNode
