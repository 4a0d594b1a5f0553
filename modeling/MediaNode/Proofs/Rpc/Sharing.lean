import Mathlib.Data.List.Induction
import Mathlib.Data.List.Nodup
import Mathlib.Data.List.TakeWhile
import MediaNode.Proofs.Rpc.Calls

/-!
# Clients that are shared

Any number of callers may share a client: they draw numbers, register their calls, write their
requests and give up, while one reader takes what arrives. When no call is under way, somebody may
take messages from the inbox. An `Act` is one step of any of them, so that a list of acts is any
interleaving and any sequence of frames.

Three things stay as they are with every step. No id is drawn twice (`Numbering`). An id is
awaited exactly as long as its call is registered and not answered (`Awaiting`), where the
answers to a call are the responses to its id that were read since it was registered
(`answers`). And what is taken from the inbox is what was read apart from responses, in order
(`Queued`).
-/
namespace MediaNode.Rpc

/-- A client that many callers share. -/
structure Shared where
  client : Client := {}
  /-- The ids that callers have drawn and not yet registered. -/
  drawn : List Id := []
  /-- What was taken from the inbox, in order. -/
  taken : List Message := []

/-- One step of a caller, of the reader, or of the one who takes messages. -/
inductive Act where
  /-- A caller draws the id of its call. -/
  | number
  /-- A caller registers its call, whose response is awaited from now on. -/
  | await (id : Id)
  /-- The request of a call is written. -/
  | sent (id : Id) (now : Nat)
  /-- The request of a call could not be written. -/
  | unsent (id : Id) (now : Nat) (cause : CodecError)
  /-- The reader takes the payload of a frame. -/
  | read (payload : List UInt8)
  /-- Reading fails. -/
  | broken (cause : CodecError)
  /-- The connection ends. -/
  | ended
  /-- A caller has waited long enough. -/
  | giveUp (id : Id) (now : Nat)
  /-- The first message of the inbox is taken, if there is one. -/
  | take

namespace Shared

/-- Whether a step can be taken. Callers may share the client among themselves, but nobody takes
a message while one of them has begun a call and does not know its outcome. -/
def Allows (shared : Shared) : Act → Prop
  | .number => True
  | .take => shared.drawn = [] ∧ shared.client.inUse = false
  | .await id => id ∈ shared.drawn
  | .sent id _ | .unsent id _ _ => (shared.client.call? id).any Call.isWriting = true
  | .read _ | .broken _ | .ended => shared.client.accepts = true
  | .giveUp id now => id ∈ shared.client.due now

instance (shared : Shared) : DecidablePred shared.Allows
  | .number => .isTrue trivial
  | .take => inferInstanceAs (Decidable (shared.drawn = [] ∧ shared.client.inUse = false))
  | .await id => inferInstanceAs (Decidable (id ∈ shared.drawn))
  | .sent id _ | .unsent id _ _ =>
    inferInstanceAs (Decidable ((shared.client.call? id).any Call.isWriting = true))
  | .read _ | .broken _ | .ended => inferInstanceAs (Decidable (shared.client.accepts = true))
  | .giveUp id now => inferInstanceAs (Decidable (id ∈ shared.client.due now))

/-- Take a step. -/
def perform (shared : Shared) : Act → Shared
  | .number =>
    let (client, id) := shared.client.number
    { shared with client, drawn := shared.drawn ++ [id] }
  | .await id =>
    { shared with client := shared.client.await id, drawn := shared.drawn.erase id }
  | .sent id now => { shared with client := shared.client.sent id now }
  | .unsent id now cause => { shared with client := shared.client.unsent id now cause }
  | .read payload => { shared with client := shared.client.hear payload }
  | .broken cause => { shared with client := shared.client.fail cause }
  | .ended => { shared with client := shared.client.ended }
  | .giveUp id _ => { shared with client := shared.client.giveUp id }
  | .take =>
    let (client, message) := shared.client.take
    { shared with client, taken := shared.taken ++ message.toList }

/-- Take a step that can be taken. -/
def step (shared : Shared) (act : Act) : Option Shared :=
  if shared.Allows act then some (shared.perform act) else none

/-- The client after a history. -/
def after (shared : Shared) (acts : List Act) : Option Shared := acts.foldlM step shared

variable {acts : List Act} {act : Act} {shared later : Shared}

/-- A step is taken if it can be. -/
theorem step_eq_some_iff :
    shared.step act = some later ↔ shared.Allows act ∧ shared.perform act = later := by
  rw [step, Option.ite_none_right_eq_some, Option.some.injEq]

/-- Histories follow each other. -/
theorem after_append {middle : Shared} {before more : List Act}
    (ran : shared.after before = some middle) :
    shared.after (before ++ more) = middle.after more := by
  rw [after, List.foldlM_append, ← after, ran]
  rfl

/-- The last step of a history. -/
theorem after_concat : shared.after (acts ++ [act]) = some later ↔
    ∃ middle, shared.after acts = some middle ∧ middle.Allows act ∧ middle.perform act = later := by
  simp only [after, List.foldlM_append, List.foldlM_cons, List.foldlM_nil, bind_pure,
    Option.bind_eq_bind, Option.bind_eq_some_iff, step_eq_some_iff]

/-- What holds of a client that nothing happened to, and stays with every step, holds after every
history. -/
theorem of_after {holds : List Act → Shared → Prop} (start : holds [] {})
    (next : ∀ acts shared act, holds acts shared → shared.Allows act →
      holds (acts ++ [act]) (shared.perform act))
    (ran : ({} : Shared).after acts = some shared) : holds acts shared := by
  induction acts using List.reverseRecOn generalizing shared with
  | nil =>
    cases ran
    exact start
  | append_singleton acts act inductionHypothesis =>
    obtain ⟨middle, before, allowed, rfl⟩ := after_concat.1 ran
    exact next acts middle act (inductionHypothesis before) allowed

end Shared

namespace Act

/-- The message that was read. -/
def message? : Act → Option Message
  | .read payload => (Message.parseBytes payload).toOption
  | _ => none

/-- The response that was read. -/
def response? (act : Act) : Option Response :=
  match act.message? with
  | some (.response response) => some response
  | _ => none

/-- The response to an id that was read. -/
def answer? (id : Id) (act : Act) : Option Response := act.response?.filter (·.id = id)

/-- The request or notification that was read. -/
def offered? (act : Act) : Option Message := act.message?.filter (!·.isResponse)

/-- Whether a call with an id is registered. -/
def awaits (id : Id) : Act → Bool
  | .await other => other = id
  | _ => false

theorem awaits_iff {id : Id} {act : Act} : act.awaits id = true ↔ act = .await id := by
  cases act <;> simp [awaits]

/-- A response that is read answers its id. -/
theorem answer?_of_response {payload : List UInt8} {response : Response}
    (read : Message.parseBytes payload = .ok (.response response)) {id : Id} :
    (Act.read payload).answer? id = if response.id = id then some response else none := by
  simp [answer?, response?, message?, read, Except.toOption, Option.filter]

/-- What is read and is no response answers nothing. -/
theorem answer?_of_other {payload : List UInt8} {message : Message}
    (read : Message.parseBytes payload = .ok message) (other : message.isResponse = false)
    {id : Id} : (Act.read payload).answer? id = none := by
  cases message with
  | response body => cases other
  | _ => simp [answer?, response?, message?, read, Except.toOption]

/-- What is read and is no response is offered to the one who takes messages. -/
theorem offered?_of_other {payload : List UInt8} {message : Message}
    (read : Message.parseBytes payload = .ok message) (other : message.isResponse = false) :
    (Act.read payload).offered? = some message := by
  simp [offered?, message?, read, other, Except.toOption]

/-- A response is not. -/
theorem offered?_of_response {payload : List UInt8} {response : Response}
    (read : Message.parseBytes payload = .ok (.response response)) :
    (Act.read payload).offered? = none := by
  simp [offered?, message?, read, Message.isResponse, Except.toOption]

end Act

/-- The responses to an id that were read since a call with it was registered, in order. -/
def answers (id : Id) (acts : List Act) : List Response :=
  (acts.dropWhile fun act => !act.awaits id).filterMap (Act.answer? id)

section
variable {id : Id} {acts : List Act} {act : Act}

/-- Looking for the registration of a call passes over everything where there is none. -/
theorem dropWhile_eq_nil_iff_unregistered :
    (acts.dropWhile fun act => !act.awaits id) = [] ↔ Act.await id ∉ acts := by
  simp only [List.dropWhile_eq_nil_iff, Bool.not_eq_true', ← Bool.not_eq_true, Act.awaits_iff]
  exact ⟨fun none member => none _ member rfl, fun none act member same => none (same ▸ member)⟩

/-- Nothing answers a call that was not registered. -/
theorem answers_of_unregistered (unregistered : Act.await id ∉ acts) : answers id acts = [] := by
  rw [answers, dropWhile_eq_nil_iff_unregistered.2 unregistered, List.filterMap_nil]

/-- What is read next answers its call if the call is registered. -/
theorem answers_concat (registered : Act.await id ∈ acts) :
    answers id (acts ++ [act]) = answers id acts ++ (act.answer? id).toList := by
  have found : (acts.dropWhile fun act => !act.awaits id).isEmpty = false := by
    rw [Bool.eq_false_iff, ne_eq, List.isEmpty_iff, dropWhile_eq_nil_iff_unregistered]
    exact not_not_intro registered
  rw [answers, List.dropWhile_append, found, answers]
  simp only [Bool.false_eq_true, if_false, List.filterMap_append, List.filterMap_cons,
    List.filterMap_nil]
  cases act.answer? id <;> rfl

/-- What is read before a call is registered does not answer it, nor does its registration. -/
theorem answers_concat_of_unregistered (unregistered : Act.await id ∉ acts) :
    answers id (acts ++ [act]) = [] := by
  rw [answers, List.dropWhile_append, dropWhile_eq_nil_iff_unregistered.2 unregistered]
  cases act with
  | await other => by_cases same : other = id <;> simp [Act.awaits, Act.answer?, Act.response?, Act.message?, same]
  | _ => simp [Act.awaits]

/-- What is read next answers no other call. -/
theorem answers_concat_of_quiet (quiet : act.answer? id = none) :
    answers id (acts ++ [act]) = answers id acts := by
  by_cases registered : Act.await id ∈ acts
  · rw [answers_concat registered, quiet]
    exact List.append_nil _
  · rw [answers_concat_of_unregistered registered, answers_of_unregistered registered]

/-- The first answer stays the first. -/
theorem head?_answers_concat {response : Response}
    (first : (answers id acts).head? = some response) :
    (answers id (acts ++ [act])).head? = some response := by
  by_cases registered : Act.await id ∈ acts
  · rw [answers_concat registered, List.head?_append, first]
    rfl
  · rw [answers_of_unregistered registered] at first
    cases first

end

/-- Which ids there are: those of the calls that were registered, and those that were drawn and
will be. They are the numbers below the next one, each once. -/
structure Numbering (acts : List Act) (shared : Shared) : Prop where
  distinct : (shared.client.ids ++ shared.drawn).Nodup
  numbers : ∀ id ∈ shared.client.ids ++ shared.drawn, ∃ n < shared.client.next, id = .number n
  registered : ∀ id, id ∈ shared.client.ids ↔ Act.await id ∈ acts

namespace Numbering

variable {acts : List Act} {act : Act} {shared later : Shared}

/-- Nothing but drawing and registering changes the ids. -/
theorem keep (numbering : Numbering acts shared) (other : ∀ id, act ≠ .await id)
    (ids : later.client.ids = shared.client.ids) (drawn : later.drawn = shared.drawn)
    (next : later.client.next = shared.client.next) : Numbering (acts ++ [act]) later := by
  refine ⟨?_, ?_, fun id => ?_⟩
  · rw [ids, drawn]
    exact numbering.distinct
  · rw [ids, drawn, next]
    exact numbering.numbers
  · rw [ids, List.mem_append, List.mem_singleton]
    exact (numbering.registered id).trans (or_iff_left (other id).symm).symm

/-- One step keeps the ids. -/
theorem perform (numbering : Numbering acts shared) (allowed : shared.Allows act) :
    Numbering (acts ++ [act]) (shared.perform act) := by
  cases act with
  | number =>
    have unused : Id.number shared.client.next ∉ shared.client.ids ++ shared.drawn := by
      intro member
      obtain ⟨n, below, same⟩ := numbering.numbers _ member
      cases same
      exact absurd below (Nat.lt_irrefl _)
    refine ⟨?_, ?_, fun id => ?_⟩
    · show (shared.client.ids ++ (shared.drawn ++ [Id.number shared.client.next])).Nodup
      rw [← List.append_assoc, List.nodup_append_comm, List.singleton_append]
      exact numbering.distinct.cons unused
    · show ∀ id ∈ shared.client.ids ++ (shared.drawn ++ [Id.number shared.client.next]),
        ∃ n < shared.client.next + 1, id = .number n
      rw [← List.append_assoc]
      intro id member
      rcases List.mem_append.1 member with old | new
      · obtain ⟨n, below, same⟩ := numbering.numbers id old
        exact ⟨n, Nat.lt_succ_of_lt below, same⟩
      · exact ⟨shared.client.next, Nat.lt_succ_self _, List.mem_singleton.1 new⟩
    · show id ∈ shared.client.ids ↔ _
      simpa using numbering.registered id
  | await id =>
    have moved : (shared.client.ids ++ [id] ++ shared.drawn.erase id).Perm
        (shared.client.ids ++ shared.drawn) := by
      rw [List.append_assoc]
      exact (List.perm_cons_erase allowed).symm.append_left _
    have ids : (shared.client.await id).ids = shared.client.ids ++ [id] := by
      simp [Client.ids, Client.await]
    refine ⟨?_, ?_, fun other => ?_⟩
    · show ((shared.client.await id).ids ++ shared.drawn.erase id).Nodup
      rw [ids, moved.nodup_iff]
      exact numbering.distinct
    · intro other member
      refine numbering.numbers other (moved.mem_iff.1 ?_)
      rw [← ids]
      exact member
    · show other ∈ (shared.client.await id).ids ↔ _
      rw [ids, List.mem_append, List.mem_append, numbering.registered]
      simp
  | sent id now => exact numbering.keep (by simp) (Client.ids_change fun _ => rfl) rfl rfl
  | unsent id now cause => exact numbering.keep (by simp) (Client.ids_change fun _ => rfl) rfl rfl
  | read payload =>
    obtain ⟨ids, next⟩ := shared.client.ids_hear payload
    exact numbering.keep (by simp) ids rfl next
  | broken cause =>
    refine numbering.keep (by simp) (shared.client.ids_fail cause) rfl ?_
    show (shared.client.fail cause).next = _
    rw [Client.fail_eq]
  | ended => exact numbering.keep (by simp) rfl rfl rfl
  | giveUp id now => exact numbering.keep (by simp) (Client.ids_change fun _ => rfl) rfl rfl
  | take =>
    obtain ⟨inbox, held, taken⟩ := shared.client.take_eq
    refine numbering.keep (by simp) ?_ rfl ?_
    · show shared.client.take.1.ids = _
      rw [taken]
      rfl
    · show shared.client.take.1.next = _
      rw [taken]

end Numbering

/-- Which ids are awaited: those of the calls that were registered and have no answer yet, as
long as the connection is read. -/
structure Awaiting (acts : List Act) (shared : Shared) : Prop where
  pending : ∀ id ∈ shared.client.pending, Act.await id ∈ acts ∧ answers id acts = []
  complete : shared.client.reading = true →
    ∀ id, Act.await id ∈ acts → answers id acts = [] → id ∈ shared.client.pending

namespace Awaiting

variable {acts : List Act} {act : Act} {shared later : Shared}

/-- A step that registers no call and answers none changes nothing that is awaited. -/
theorem keep (awaiting : Awaiting acts shared) (other : ∀ id, act ≠ .await id)
    (quiet : ∀ id, act.answer? id = none) (pending : later.client.pending = shared.client.pending)
    (reading : later.client.reading = true → shared.client.reading = true) :
    Awaiting (acts ++ [act]) later := by
  constructor
  · intro id member
    rw [pending] at member
    obtain ⟨registered, unanswered⟩ := awaiting.pending id member
    exact ⟨List.mem_append_left _ registered, (answers_concat_of_quiet (quiet id)).trans unanswered⟩
  · intro stillReading id registered unanswered
    rw [answers_concat_of_quiet (quiet id)] at unanswered
    rw [pending]
    refine awaiting.complete (reading stillReading) id ?_ unanswered
    rcases List.mem_append.1 registered with before | last
    · exact before
    · exact absurd (List.mem_singleton.1 last).symm (other id)

/-- A call that is registered is awaited. -/
theorem await (awaiting : Awaiting acts shared) {id : Id} (unregistered : Act.await id ∉ acts) :
    Awaiting (acts ++ [.await id]) (shared.perform (.await id)) := by
  have quiet (other : Id) : (Act.await id).answer? other = none := rfl
  constructor
  · intro other member
    rw [answers_concat_of_quiet (quiet other)]
    rcases List.mem_append.1 member with old | new
    · obtain ⟨registered, unanswered⟩ := awaiting.pending other old
      exact ⟨List.mem_append_left _ registered, unanswered⟩
    · rw [List.mem_singleton.1 new]
      exact ⟨List.mem_append_right _ (List.mem_singleton.2 rfl),
        answers_of_unregistered unregistered⟩
  · intro reading other registered unanswered
    rw [answers_concat_of_quiet (quiet other)] at unanswered
    rcases List.mem_append.1 registered with before | last
    · exact List.mem_append_left _ (awaiting.complete reading other before unanswered)
    · cases List.mem_singleton.1 last
      exact List.mem_append_right _ (List.mem_singleton.2 rfl)

/-- A response that is read is the answer to its id, which is not awaited any more. -/
theorem respond (awaiting : Awaiting acts shared) (accepts : shared.client.accepts = true)
    {payload : List UInt8} {response : Response}
    (read : Message.parseBytes payload = .ok (.response response))
    (pending : ∀ id, id ∈ later.client.pending ↔ id ∈ shared.client.pending ∧ id ≠ response.id) :
    Awaiting (acts ++ [.read payload]) later := by
  constructor
  · intro id member
    obtain ⟨old, other⟩ := (pending id).1 member
    obtain ⟨registered, unanswered⟩ := awaiting.pending id old
    refine ⟨List.mem_append_left _ registered, ?_⟩
    rw [answers_concat registered, unanswered, Act.answer?_of_response read,
      if_neg (Ne.symm other)]
    rfl
  · intro _ id registered unanswered
    have before : Act.await id ∈ acts := by simpa using registered
    rw [answers_concat before, Act.answer?_of_response read] at unanswered
    obtain ⟨unanswered, quiet⟩ := List.append_eq_nil_iff.1 unanswered
    have reading : shared.client.reading = true := (Bool.and_eq_true_iff.1 accepts).1
    refine (pending id).2 ⟨awaiting.complete reading id before unanswered, ?_⟩
    rintro rfl
    rw [if_pos rfl] at quiet
    cases quiet

/-- One step keeps what is awaited. -/
theorem perform (awaiting : Awaiting acts shared) (numbering : Numbering acts shared)
    (allowed : shared.Allows act) : Awaiting (acts ++ [act]) (shared.perform act) := by
  cases act with
  | number => exact awaiting.keep (by simp) (fun _ => rfl) rfl id
  | await id =>
    refine awaiting.await fun registered => ?_
    have there : id ∈ shared.client.ids := (numbering.registered id).2 registered
    exact (List.nodup_append.1 numbering.distinct).2.2 id there id allowed rfl
  | sent id now => exact awaiting.keep (by simp) (fun _ => rfl) rfl fun reading => reading
  | unsent id now cause => exact awaiting.keep (by simp) (fun _ => rfl) rfl fun reading => reading
  | read payload =>
    cases shared.client.heard payload with
    | consumed response read awaited same =>
      refine awaiting.respond allowed read fun id => ?_
      show id ∈ (shared.client.hear payload).pending ↔ _
      rw [same]
      simp [Client.complete, Client.change]
    | unknown response read unknown same =>
      refine awaiting.respond allowed read fun id => ?_
      show id ∈ (shared.client.hear payload).pending ↔ _
      rw [same]
      exact ⟨fun member => ⟨member, fun equal => unknown (equal ▸ member)⟩, And.left⟩
    | offered message read other same =>
      obtain ⟨inbox, held, reading, deposited⟩ := shared.client.deposit_eq message
      refine awaiting.keep (by simp) (fun id => ?_) ?_ fun _ => (Bool.and_eq_true_iff.1 allowed).1
      · exact Act.answer?_of_other read other
      · show (shared.client.hear payload).pending = _
        rw [same, deposited]
    | malformed cause read same =>
      refine awaiting.keep (by simp) (fun id => ?_) ?_ fun _ => (Bool.and_eq_true_iff.1 allowed).1
      · simp [Act.answer?, Act.response?, Act.message?, read, Except.toOption]
      · show (shared.client.hear payload).pending = _
        rw [same]
  | broken cause =>
    have broken : (shared.perform (.broken cause)).client =
        shared.client.fail cause := rfl
    rw [Client.fail_eq] at broken
    constructor
    · intro id member
      rw [broken] at member
      cases member
    · intro reading
      rw [broken] at reading
      cases reading
  | ended =>
    refine awaiting.keep (by simp) (fun _ => rfl) rfl fun reading => ?_
    cases reading
  | giveUp id now => exact awaiting.keep (by simp) (fun _ => rfl) rfl fun reading => reading
  | take =>
    obtain ⟨inbox, held, taken⟩ := shared.client.take_eq
    have same : (shared.perform .take).client = shared.client.take.1 := rfl
    rw [taken] at same
    refine awaiting.keep (by simp) (fun _ => rfl) ?_ ?_
    · rw [same]
    · rw [same]
      exact fun reading => reading

end Awaiting

/-- What is taken from the inbox and what waits in it is what was read apart from responses, in
order. A message is held back only behind others. -/
structure Queued (acts : List Act) (shared : Shared) : Prop where
  conserved : shared.taken ++ shared.client.inbox ++ shared.client.held.toList =
    acts.filterMap Act.offered?
  behind : shared.client.inbox = [] → shared.client.held = none
  owned : shared.client.owned = true

namespace Queued

variable {acts : List Act} {act : Act} {shared later : Shared}

/-- A step that reads neither a request nor a notification and takes nothing leaves the inbox. -/
theorem keep (queued : Queued acts shared) (quiet : act.offered? = none)
    (taken : later.taken = shared.taken) (inbox : later.client.inbox = shared.client.inbox)
    (held : later.client.held = shared.client.held)
    (owned : later.client.owned = shared.client.owned) : Queued (acts ++ [act]) later := by
  refine ⟨?_, ?_, owned.trans queued.owned⟩
  · rw [taken, inbox, held, queued.conserved, List.filterMap_append,
      List.filterMap_cons_none quiet, List.filterMap_nil, List.append_nil]
  · rw [inbox, held]
    exact queued.behind

/-- A message that is read is put behind all others: into the inbox, or behind a full inbox. -/
theorem deposit (queued : Queued acts shared) (accepts : shared.client.accepts = true)
    {payload : List UInt8} {message : Message} (read : Message.parseBytes payload = .ok message)
    (other : message.isResponse = false) :
    Queued (acts ++ [.read payload])
      { shared with client := shared.client.deposit message } := by
  have free : shared.client.held = none :=
    Option.isNone_iff_eq_none.1 (Bool.and_eq_true_iff.1 accepts).2
  have offered : (acts ++ [Act.read payload]).filterMap Act.offered? =
      shared.taken ++ shared.client.inbox ++ [message] := by
    have conserved := queued.conserved
    rw [free, Option.toList_none, List.append_nil] at conserved
    rw [List.filterMap_append, ← conserved,
      List.filterMap_cons_some (Act.offered?_of_other read other), List.filterMap_nil]
  have owned : ¬(!shared.client.owned) = true := by rw [queued.owned]; decide
  rw [Client.deposit, if_neg owned]
  split
  · refine ⟨?_, fun empty => ?_, queued.owned⟩
    · show shared.taken ++ (shared.client.inbox ++ [message]) ++ shared.client.held.toList = _
      rw [offered, free, Option.toList_none, List.append_nil, List.append_assoc]
    · exact absurd empty (by simp)
  · next full =>
    refine ⟨?_, fun empty => ?_, queued.owned⟩
    · show shared.taken ++ shared.client.inbox ++ [message] = _
      rw [offered]
    · have empty : shared.client.inbox = [] := empty
      rw [empty] at full
      exact absurd (by decide) full

/-- What is taken is the first message that was not. -/
theorem take (queued : Queued acts shared) : Queued (acts ++ [.take]) (shared.perform .take) := by
  have offered : (acts ++ [Act.take]).filterMap Act.offered? = acts.filterMap Act.offered? := by
    rw [List.filterMap_append]
    exact List.append_nil _
  cases waiting : shared.client.inbox with
  | nil =>
    have nothing : shared.client.take = (shared.client, none) := by rw [Client.take, waiting]
    have same : shared.perform .take = shared := by
      rw [Shared.perform, nothing]
      simp
    rw [same]
    exact ⟨queued.conserved.trans offered.symm, queued.behind, queued.owned⟩
  | cons message rest =>
    have first : shared.client.take =
        ({ shared.client with inbox := rest ++ shared.client.held.toList, held := none },
          some message) := by rw [Client.take, waiting]
    rw [Shared.perform, first]
    refine ⟨?_, fun _ => rfl, queued.owned⟩
    rw [offered, ← queued.conserved, waiting]
    simp

/-- One step keeps the order of messages. -/
theorem perform (queued : Queued acts shared) (allowed : shared.Allows act) :
    Queued (acts ++ [act]) (shared.perform act) := by
  cases act with
  | read payload =>
    have heard : shared.perform (.read payload) =
        { shared with client := shared.client.hear payload } := rfl
    rw [heard]
    cases shared.client.heard payload with
    | consumed response read awaited same =>
      rw [same]
      exact queued.keep (Act.offered?_of_response read) rfl rfl rfl rfl
    | unknown response read unknown same =>
      rw [same]
      exact queued.keep (Act.offered?_of_response read) rfl rfl rfl rfl
    | offered message read other same =>
      rw [same]
      exact queued.deposit allowed read other
    | malformed cause read same =>
      rw [same]
      refine queued.keep ?_ rfl rfl rfl rfl
      simp [Act.offered?, Act.message?, read, Except.toOption]
  | broken cause =>
    have failed : shared.perform (.broken cause) =
        { shared with client := shared.client.fail cause } := rfl
    rw [failed, Client.fail_eq]
    exact queued.keep rfl rfl rfl rfl rfl
  | take => exact queued.take
  | _ => exact queued.keep rfl rfl rfl rfl rfl

end Queued

end MediaNode.Rpc
