import MediaNode.Proofs.Rpc.Sharing

/-!
# Calls and their answers

Whatever the callers of a client do at the same time, and whatever arrives, a step moves each
call in one of a few ways (`Move`). A caller learns once how its call ended, and what it learns
has a reason (`Reason`): the first response to its own id that was read since it was registered,
or that its request could not be written, that reading failed, or that it gave up.

A response that is read before its call is registered is not kept for it: it answers nothing,
and the call is completed by the next one.
-/
namespace MediaNode.Rpc

open Json (lookup)

/-- How a step completes a call that is not completed. -/
inductive Completes (pending : List Id) (id : Id) (act : Act) : Except CallError Json → Prop where
  /-- The answer to its id is read while it is awaited. -/
  | answered (response : Response) (answer : act.answer? id = some response)
      (awaited : id ∈ pending) : Completes pending id act response.outcome
  /-- Reading fails. -/
  | broken (cause : CodecError) (failed : act = .broken cause) :
      Completes pending id act (.error (.io cause.message))
  /-- Its caller gives up. -/
  | late (now : Nat) (gave : act = .giveUp id now) : Completes pending id act (.error .timeout)

/-- What a step makes of the call with an id. -/
inductive Move (pending : List Id) (id : Id) (act : Act) : Option Call → Option Call → Prop where
  | kept (found : Option Call) : Move pending id act found found
  /-- It is registered. -/
  | registered : act = .await id → Move pending id act none (some { id })
  /-- Its request is written. -/
  | sent (call : Call) (now : Nat) (done : act = .sent id now) (writing : call.isWriting = true) :
      Move pending id act (some call) (some (call.sent now))
  /-- Its request could not be written. -/
  | unsent (call : Call) (now : Nat) (cause : CodecError) (failed : act = .unsent id now cause)
      (writing : call.isWriting = true) :
      Move pending id act (some call) (some (call.unsent now cause))
  /-- It is completed. -/
  | completed (call : Call) (outcome : Except CallError Json) (open_ : call.outcome = none)
      (completes : Completes pending id act outcome) :
      Move pending id act (some call) (some (call.complete outcome))

namespace Move

variable {shared : Shared} {pending : List Id} {id : Id} {act : Act}

/-- Completing a call keeps it if it is completed already. -/
theorem complete {outcome : Except CallError Json} (completes : Completes pending id act outcome)
    (found : Option Call) : Move pending id act found (found.map (·.complete outcome)) := by
  cases found with
  | none => exact .kept none
  | some call =>
    cases done : call.outcome with
    | none => exact .completed call outcome done completes
    | some before =>
      rw [Option.map_some, Call.complete_of_isSome (by rw [done]; rfl)]
      exact .kept _

/-- Changing the call with one id keeps all others. -/
theorem of_change {client : Client} {other : Id} {f : Call → Call}
    (kept : ∀ call, (f call).id = call.id)
    (own : id = other → Move pending id act (client.call? id) ((client.call? id).map f)) :
    Move pending id act (client.call? id) ((client.change other f).call? id) := by
  rw [Client.call?_change kept]
  split
  · next same =>
    subst same
    exact own rfl
  · exact .kept _

/-- A call whose request is being written moves as such calls do. -/
theorem of_writing {found : Option Call} {f : Call → Call}
    (writing : found.any Call.isWriting = true)
    (moves : ∀ call, call.isWriting = true → Move pending id act (some call) (some (f call))) :
    Move pending id act found (found.map f) := by
  cases found with
  | none => cases writing
  | some call => exact moves call writing

/-- One step moves each call by one of these. -/
theorem of_allows (allowed : shared.Allows act) (id : Id) :
    Move shared.client.pending id act (shared.client.call? id)
      ((shared.perform act).client.call? id) := by
  cases act with
  | number => exact .kept _
  | await other =>
    have registered : (shared.perform (.await other)).client.call? id = _ :=
      Client.call?_await
    rw [registered]
    by_cases same : id = other
    · subst same
      rw [if_pos rfl]
      cases shared.client.call? id with
      | none => exact .registered rfl
      | some call => exact .kept _
    · rw [if_neg same, Option.or_none]
      exact .kept _
  | sent other now =>
    refine of_change (fun _ => rfl) fun same => ?_
    subst same
    exact of_writing allowed fun call writing => .sent call now rfl writing
  | unsent other now cause =>
    refine of_change (fun _ => rfl) fun same => ?_
    subst same
    exact of_writing allowed fun call writing => .unsent call now cause rfl writing
  | read payload =>
    have heard : (shared.perform (.read payload)).client = shared.client.hear payload := rfl
    rw [heard]
    cases shared.client.heard payload with
    | consumed response read awaited same =>
      rw [same]
      refine of_change (fun _ => rfl) fun own => ?_
      subst own
      have answer : (Act.read payload).answer? response.id = some response := by
        rw [Act.answer?_of_response read, if_pos rfl]
      exact .complete (.answered response answer awaited) _
    | unknown response read unknown same =>
      rw [same]
      exact .kept _
    | offered message read other same =>
      obtain ⟨inbox, held, reading, deposited⟩ := shared.client.deposit_eq message
      rw [same, deposited]
      exact .kept _
    | malformed cause read same =>
      rw [same]
      exact .kept _
  | broken cause =>
    have failed : (shared.perform (.broken cause)).client = shared.client.fail cause := rfl
    rw [failed, Client.call?_fail]
    split
    · exact .complete (.broken cause rfl) _
    · exact .kept _
  | ended => exact .kept _
  | giveUp other now =>
    refine of_change (fun _ => rfl) fun same => ?_
    subst same
    exact .complete (.late now rfl) _
  | take =>
    obtain ⟨inbox, held, taken⟩ := shared.client.take_eq
    have same : (shared.perform .take).client = shared.client.take.1 := rfl
    rw [same, taken]
    exact .kept _

/-- What a caller has learned does not change. -/
theorem result_eq {found moved : Option Call} {outcome : Except CallError Json}
    (move : Move pending id act found moved) (learned : found.bind Call.result = some outcome) :
    moved.bind Call.result = some outcome := by
  cases move with
  | kept => exact learned
  | registered => cases learned
  | sent call now done writing =>
    rw [Option.bind_some, Call.result_of_isWriting writing] at learned
    cases learned
  | unsent call now cause failed writing =>
    rw [Option.bind_some, Call.result_of_isWriting writing] at learned
    cases learned
  | completed call other open_ completes =>
    obtain ⟨-, done⟩ := Call.result_eq_some_iff.1 learned
    rw [open_] at done
    cases done

end Move

/-- How a call came to be completed in a history. -/
inductive Reason (acts : List Act) (id : Id) : Except CallError Json → Prop where
  /-- The first response to its id that was read since it was registered says so. -/
  | answered (response : Response) (first : (answers id acts).head? = some response) :
      Reason acts id response.outcome
  /-- Its request could not be written. -/
  | unsent (now : Nat) (cause : CodecError) (failed : Act.unsent id now cause ∈ acts) :
      Reason acts id (.error (.codec cause))
  /-- Reading failed. -/
  | broken (cause : CodecError) (failed : Act.broken cause ∈ acts) :
      Reason acts id (.error (.io cause.message))
  /-- Its caller gave up. -/
  | late (now : Nat) (gave : Act.giveUp id now ∈ acts) : Reason acts id (.error .timeout)

namespace Reason

variable {acts : List Act} {act : Act} {id : Id} {outcome : Except CallError Json}

/-- What a call was completed by stays what it was completed by. -/
theorem concat (reason : Reason acts id outcome) : Reason (acts ++ [act]) id outcome := by
  cases reason with
  | answered response first => exact .answered response (head?_answers_concat first)
  | unsent now cause failed => exact .unsent now cause (List.mem_append_left _ failed)
  | broken cause failed => exact .broken cause (List.mem_append_left _ failed)
  | late now gave => exact .late now (List.mem_append_left _ gave)

/-- A call that a step completes is completed by that step. What was awaited was not answered,
so that the answer is the first one. -/
theorem of_completes {shared : Shared} (awaiting : Awaiting acts shared)
    (completes : Completes shared.client.pending id act outcome) :
    Reason (acts ++ [act]) id outcome := by
  have last : act ∈ acts ++ [act] := List.mem_append_right _ (List.mem_singleton.2 rfl)
  cases completes with
  | answered response answer awaited =>
    obtain ⟨registered, unanswered⟩ := awaiting.pending id awaited
    refine .answered response ?_
    rw [answers_concat registered, unanswered, answer]
    rfl
  | broken cause failed => exact .broken cause (failed ▸ last)
  | late now gave => exact .late now (gave ▸ last)

end Reason

/-- That each call that is completed has a reason. -/
def Explained (acts : List Act) (shared : Shared) : Prop :=
  ∀ id call outcome, shared.client.call? id = some call → call.outcome = some outcome →
    Reason acts id outcome

/-- One step keeps the reasons. -/
theorem Explained.perform {acts : List Act} {act : Act} {shared : Shared}
    (explained : Explained acts shared) (awaiting : Awaiting acts shared)
    (allowed : shared.Allows act) : Explained (acts ++ [act]) (shared.perform act) := by
  intro id call outcome found done
  have move := Move.of_allows allowed id
  rw [found] at move
  generalize before : shared.client.call? id = earlier at move
  cases move with
  | kept => exact (explained id call outcome before done).concat
  | registered => cases done
  | sent call now written writing => exact (explained id call outcome before done).concat
  | unsent call now cause failed writing =>
    cases done
    exact .unsent now cause (failed ▸ List.mem_append_right _ (List.mem_singleton.2 rfl))
  | completed call other open_ completes =>
    rw [Call.outcome_complete open_] at done
    cases done
    exact .of_completes awaiting completes

/-- What a caller has learned has a reason. -/
theorem Explained.reason {acts : List Act} {shared : Shared} (explained : Explained acts shared)
    {id : Id} {outcome : Except CallError Json}
    (learned : shared.client.outcome? id = some outcome) : Reason acts id outcome := by
  obtain ⟨call, found, result⟩ := Option.bind_eq_some_iff.1 learned
  exact explained id call outcome found (Call.result_eq_some_iff.1 result).2

/-- What answers an id is a response to it that was read. -/
theorem Act.exists_of_answer? {id : Id} {act : Act} {response : Response}
    (answer : act.answer? id = some response) :
    ∃ payload, act = .read payload ∧ Message.parseBytes payload = .ok (.response response) ∧
      response.id = id := by
  obtain ⟨read, own⟩ := Option.filter_eq_some_iff.1 answer
  cases act with
  | read payload =>
    refine ⟨payload, rfl, ?_, of_decide_eq_true own⟩
    rw [response?, message?] at read
    cases parsed : Message.parseBytes payload with
    | error cause =>
      rw [parsed] at read
      cases read
    | ok message =>
      rw [parsed] at read
      cases message with
      | response body =>
        cases read
        rfl
      | _ => cases read
  | _ => cases read

/-- The answer to an id that is awaited completes its call. -/
theorem Shared.call?_perform_of_answer {shared : Shared} {act : Act} {id : Id}
    {response : Response} (answer : act.answer? id = some response)
    (awaited : id ∈ shared.client.pending) :
    (shared.perform act).client.call? id =
      (shared.client.call? id).map (·.complete response.outcome) := by
  obtain ⟨payload, rfl, read, rfl⟩ := Act.exists_of_answer? answer
  have heard : (shared.perform (.read payload)).client = shared.client.hear payload := rfl
  rw [heard, Client.hear, read]
  simp only
  rw [Client.receive_awaited awaited, Client.call?_complete, if_pos rfl]
  rfl

/-- A call that is not completed after a step was not completed before, or is new. -/
theorem Move.open_before {pending : List Id} {id : Id} {act : Act} {earlier : Option Call}
    {call : Call} (move : Move pending id act earlier (some call)) (open_ : call.outcome = none) :
    earlier = none ∧ act = .await id ∨ ∃ before, earlier = some before ∧ before.outcome = none := by
  cases move with
  | kept => exact .inr ⟨call, rfl, open_⟩
  | registered registers => exact .inl ⟨rfl, registers⟩
  | sent before now done writing => exact .inr ⟨before, rfl, open_⟩
  | unsent before now cause failed writing => cases open_
  | completed before outcome openBefore completes =>
    rw [Call.outcome_complete openBefore] at open_
    cases open_

/-- That no call with an answer is left uncompleted. -/
def Served (acts : List Act) (shared : Shared) : Prop :=
  ∀ id call, shared.client.call? id = some call → call.outcome = none → answers id acts = []

/-- One step leaves no call with an answer uncompleted. -/
theorem Served.perform {acts : List Act} {act : Act} {shared : Shared}
    (served : Served acts shared) (numbering : Numbering acts shared)
    (awaiting : Awaiting acts shared) (allowed : shared.Allows act) :
    Served (acts ++ [act]) (shared.perform act) := by
  intro id call found open_
  have move := Move.of_allows allowed id
  rw [found] at move
  rcases move.open_before open_ with ⟨missing, rfl⟩ | ⟨before, there, openBefore⟩
  · have unregistered : Act.await id ∉ acts := by
      rw [← numbering.registered, Client.mem_ids_iff, missing]
      rintro ⟨call, ⟨⟩⟩
    exact answers_concat_of_unregistered unregistered
  · have unanswered := served id before there openBefore
    cases answer : act.answer? id with
    | none => rw [answers_concat_of_quiet answer, unanswered]
    | some response =>
      obtain ⟨payload, rfl, -, -⟩ := Act.exists_of_answer? answer
      have reading : shared.client.reading = true := (Bool.and_eq_true_iff.1 allowed).1
      have registered : Act.await id ∈ acts :=
        (numbering.registered id).1 (Client.mem_ids_iff.2 ⟨before, there⟩)
      have awaited := awaiting.complete reading id registered unanswered
      rw [Shared.call?_perform_of_answer answer awaited, there] at found
      rw [← Option.some.inj found, Call.outcome_complete openBefore] at open_
      cases open_

/-- What holds of a client and its callers after every history. -/
structure Invariant (acts : List Act) (shared : Shared) : Prop where
  numbering : Numbering acts shared
  awaiting : Awaiting acts shared
  queued : Queued acts shared
  explained : Explained acts shared
  served : Served acts shared

/-- Every history keeps the invariant. -/
theorem invariant_of_after {acts : List Act} {shared : Shared}
    (ran : ({} : Shared).after acts = some shared) : Invariant acts shared := by
  refine Shared.of_after ⟨?_, ?_, ?_, ?_, ?_⟩ ?_ ran
  · exact ⟨.nil, by simp [Client.ids], by simp [Client.ids]⟩
  · exact ⟨by simp, by simp⟩
  · exact ⟨rfl, fun _ => rfl, rfl⟩
  · intro id call outcome found
    cases found
  · intro id call found
    cases found
  · rintro acts shared act ⟨numbering, awaiting, queued, explained, served⟩ allowed
    exact ⟨numbering.perform allowed, awaiting.perform numbering allowed, queued.perform allowed,
      explained.perform awaiting allowed, served.perform numbering awaiting allowed⟩

/-- What a caller has learned it has learned ever after. -/
theorem Shared.outcome?_after {acts : List Act} {shared later : Shared}
    (ran : shared.after acts = some later) {id : Id} {outcome : Except CallError Json}
    (learned : shared.client.outcome? id = some outcome) :
    later.client.outcome? id = some outcome := by
  induction acts using List.reverseRecOn generalizing later with
  | nil =>
    cases ran
    exact learned
  | append_singleton acts act inductionHypothesis =>
    obtain ⟨middle, before, allowed, rfl⟩ := after_concat.1 ran
    exact (Move.of_allows allowed id).result_eq (inductionHypothesis before)

/-- An answer is a frame that was read, with the id of the call in it, and it says what the
object of the frame says. -/
theorem exists_of_mem_answers {acts : List Act} {id : Id} {response : Response}
    (member : response ∈ answers id acts) :
    ∃ payload members, Act.read payload ∈ acts ∧
      Message.parseBytes payload = .ok (.response response) ∧
      Message.object? payload = some members ∧ lookup "id" members = some id.toJson ∧
      Tells members response.outcome := by
  obtain ⟨act, there, answer⟩ := List.mem_filterMap.1 member
  obtain ⟨payload, rfl, read, rfl⟩ := Act.exists_of_answer? answer
  obtain ⟨members, object, reads⟩ := Message.reads_of_parseBytes read
  have own : lookup "id" members = some response.id.toJson := reads.2.2.2.2
  exact ⟨payload, members, List.dropWhile_subset _ there, read, object, own, tells_of_reads reads⟩

/-- What a history makes of the calls of a client and of its inbox. -/
structure Correlated (acts : List Act) (shared : Shared) : Prop where
  /-- No two calls share an id, and every id is a number. -/
  distinct : (shared.client.ids ++ shared.drawn).Nodup
  numbers : ∀ id ∈ shared.client.ids ++ shared.drawn, ∃ n, id = .number n
  /-- A caller learns once how its call ended. -/
  once : ∀ more later id outcome, shared.after more = some later →
    shared.client.outcome? id = some outcome → later.client.outcome? id = some outcome
  /-- A response completes a call only if it is the first to its id that was read since the call
  was registered. -/
  reason : ∀ id outcome, shared.client.outcome? id = some outcome → Reason acts id outcome
  /-- With an answer, a call whose request is written has ended. -/
  served : ∀ id call, shared.client.call? id = some call → call.isWriting = false →
    answers id acts ≠ [] → (shared.client.outcome? id).isSome = true
  /-- An answer has the id of the call in its frame, and says what its frame says. -/
  frames : ∀ id, ∀ response ∈ answers id acts, ∃ payload members, Act.read payload ∈ acts ∧
    Message.parseBytes payload = .ok (.response response) ∧
    Message.object? payload = some members ∧ lookup "id" members = some id.toJson ∧
    Tells members response.outcome
  /-- A response to an id that is unknown or was answered changes nothing. -/
  ignored : ∀ payload response later, Message.parseBytes payload = .ok (.response response) →
    shared.step (.read payload) = some later →
    Act.await response.id ∉ acts ∨ answers response.id acts ≠ [] → later = shared
  /-- A request or notification completes no call. -/
  passed : ∀ payload message later, Message.parseBytes payload = .ok message →
    message.isResponse = false → shared.step (.read payload) = some later →
    later.client.calls = shared.client.calls ∧ later.client.pending = shared.client.pending
  /-- What is taken and what waits to be taken is the requests and notifications that were read,
  in order. -/
  conserved : shared.taken ++ shared.client.inbox ++ shared.client.held.toList =
    acts.filterMap Act.offered?
  /-- Where there is nothing to take, all of them were taken. -/
  emptied : shared.client.take.2 = none → shared.taken = acts.filterMap Act.offered?

/-- After every history of the callers of a client and every sequence of frames, calls have the
answers to their own ids, and the inbox has everything else. The invariant is kept step by step;
what was read of an id since its call was registered says whether the id is awaited. -/
theorem Shared.correlated {acts : List Act} {shared : Shared}
    (ran : ({} : Shared).after acts = some shared) : Correlated acts shared := by
  obtain ⟨numbering, awaiting, queued, explained, served⟩ := invariant_of_after ran
  constructor
  case distinct => exact numbering.distinct
  case numbers =>
    intro id member
    obtain ⟨n, -, same⟩ := numbering.numbers id member
    exact ⟨n, same⟩
  case once =>
    intro more later id outcome onward learned
    exact outcome?_after onward learned
  case reason =>
    intro id outcome learned
    exact explained.reason learned
  case served =>
    intro id call found written answered
    cases done : call.outcome with
    | none => exact absurd (served id call found done) answered
    | some outcome =>
      have learned : call.result = some outcome := Call.result_eq_some_iff.2 ⟨written, done⟩
      rw [Client.outcome?, found, Option.bind_some, learned]
      rfl
  case frames =>
    intro id response member
    exact exists_of_mem_answers member
  case ignored =>
    intro payload response later read stepped gone
    have unknown : response.id ∉ shared.client.pending := by
      intro awaited
      obtain ⟨registered, unanswered⟩ := awaiting.pending _ awaited
      exact gone.elim (fun missing => missing registered) fun answered => answered unanswered
    obtain ⟨-, rfl⟩ := step_eq_some_iff.1 stepped
    rw [perform, Client.hear, read]
    simp only [Client.receive_unknown unknown]
  case passed =>
    intro payload message later read other stepped
    obtain ⟨-, rfl⟩ := step_eq_some_iff.1 stepped
    obtain ⟨inbox, held, reading, deposited⟩ := shared.client.deposit_eq message
    rw [perform, Client.hear, read]
    simp only [Client.receive_other other, deposited, and_self]
  case conserved => exact queued.conserved
  case emptied =>
    intro nothing
    have inbox : shared.client.inbox = [] := by
      cases waiting : shared.client.inbox with
      | nil => rfl
      | cons message rest =>
        rw [Client.take, waiting] at nothing
        cases nothing
    have conserved := queued.conserved
    rw [inbox, queued.behind inbox, List.append_nil, Option.toList_none, List.append_nil]
      at conserved
    exact conserved

/-- How a call ended, in words. -/
def wording (outcome : Except CallError Json) : Except String String :=
  (outcome.mapError CallError.kind).map Json.compact

/-- Two calls that are registered and answered in the other order, with a response to a text that
looks like a number, a notification and a response that comes twice in between. -/
theorem correlated_crossed :
    let acts : List Act :=
      [.number, .number, .await (.number 2), .await (.number 1), .sent (.number 1) 0,
        .read (Text.bytes "\x7b\"jsonrpc\":\"2.0\",\"id\":\"1\",\"result\":0\x7d"),
        .read (Text.bytes "\x7b\"jsonrpc\":\"2.0\",\"id\":2,\"result\":7\x7d"),
        .sent (.number 2) 0,
        .read (Text.bytes "\x7b\"jsonrpc\":\"2.0\",\"method\":\"mark\"\x7d"),
        .read (Text.bytes "\x7b\"jsonrpc\":\"2.0\",\"id\":2,\"result\":8\x7d"),
        .read (Text.bytes "\x7b\"jsonrpc\":\"2.0\",\"id\":1,\"result\":null\x7d"), .take]
    ∃ shared, ({} : Shared).after acts = some shared ∧
      (shared.client.outcome? (.number 1)).map wording = some (.error "UnexpectedResponse") ∧
      (shared.client.outcome? (.number 2)).map wording = some (.ok "7") ∧
      shared.taken.map Message.method = [some "mark"] ∧ Correlated acts shared := by
  intro acts
  have told : (({} : Shared).after acts).map (fun shared =>
        ((shared.client.outcome? (.number 1)).map wording,
          (shared.client.outcome? (.number 2)).map wording, shared.taken.map Message.method)) =
      some (some (.error "UnexpectedResponse"), some (.ok "7"), [some "mark"]) := by
    decide +kernel
  obtain ⟨shared, ran, told⟩ := Option.map_eq_some_iff.1 told
  obtain ⟨first, told⟩ := Prod.mk.inj told
  obtain ⟨second, taken⟩ := Prod.mk.inj told
  exact ⟨shared, ran, first, second, taken, Shared.correlated ran⟩

/-- The first response to the id of a call is not always what completes it. One that is read
before the call is registered is passed over, and the next one is taken. -/
theorem early_response_passed_over :
    let acts : List Act :=
      [.read (Text.bytes "\x7b\"jsonrpc\":\"2.0\",\"id\":1,\"result\":\"early\"\x7d"),
        .number, .await (.number 1), .sent (.number 1) 0,
        .read (Text.bytes "\x7b\"jsonrpc\":\"2.0\",\"id\":1,\"result\":\"late\"\x7d")]
    ∃ shared, ({} : Shared).after acts = some shared ∧
      (acts.filterMap (Act.answer? (.number 1))).map (fun response => wording response.outcome) =
        [.ok "\"early\"", .ok "\"late\""] ∧
      (shared.client.outcome? (.number 1)).map wording = some (.ok "\"late\"") := by
  intro acts
  have answered : (acts.filterMap (Act.answer? (.number 1))).map
      (fun response => wording response.outcome) = [.ok "\"early\"", .ok "\"late\""] := by
    decide +kernel
  have told : (({} : Shared).after acts).map
      (fun shared => (shared.client.outcome? (.number 1)).map wording) =
        some (some (.ok "\"late\"")) := by
    decide +kernel
  obtain ⟨shared, ran, told⟩ := Option.map_eq_some_iff.1 told
  exact ⟨shared, ran, answered, told⟩

end MediaNode.Rpc
