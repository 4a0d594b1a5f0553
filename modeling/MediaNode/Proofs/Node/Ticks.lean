import MediaNode.Proofs.Node.Numbering

/-!
# One round of questions

When the chore of asking is due, every verified session is asked under a new id, unless it left
three questions unanswered or nobody listens to it; then it is forgotten. A session that is not
verified is passed over. `Ticked` says this of one name, and `pingEach_ticked` shows it for every
name of a table, although the table is gone through once and the ids come from one counter.
-/
namespace MediaNode

/-- The session after it was asked under a number. -/
def Session.ask (session : Session) (number : Nat) : Session :=
  { session with pending := (session.pending.insert (.number number) Node.pingMethod).fst }

namespace Node

variable {node : Node}

/-- The messages that a session gets by some effects. -/
def messagesTo (name : String) (effects : List Effect) : List Rpc.Message :=
  effects.filterMap (Effect.messageTo (.session name))

/-- Messages come part by part. -/
theorem messagesTo_append (name : String) (before later : List Effect) :
    messagesTo name (before ++ later) = messagesTo name before ++ messagesTo name later :=
  List.filterMap_append

/-- A client gets the messages that are sent into its channel. -/
theorem mem_messagesTo {name : String} {effects : List Effect} {message : Rpc.Message} :
    message ∈ messagesTo name effects ↔ Effect.deliver (.session name) message ∈ effects := by
  rw [messagesTo, List.mem_filterMap]
  constructor
  · rintro ⟨effect, member, gotten⟩
    unfold Effect.messageTo at gotten
    split at gotten
    · split at gotten
      · next same =>
        cases gotten
        exact same ▸ member
      · cases gotten
    · cases gotten
  · intro member
    exact ⟨_, member, if_pos rfl⟩

/-- The question whether a client is still there. -/
def question (params : Json) (number : Nat) : Rpc.Message :=
  .request (.make pingMethod (some params) (.number number))

/-- What a round of questions makes of the session of a name, and the messages that its client
gets. -/
inductive Ticked (before after : Outbox) (params : Json) (name : String) :
    Option Session → Option Session → List Rpc.Message → Prop where
  | absent : Ticked before after params name none none []
  | passed {session : Session} (unverified : session.verified = false) :
      Ticked before after params name (some session) (some session) []
  | forgotten {session : Session} (verified : session.verified = true)
      (cause : maxUnansweredPings ≤ session.pending.countMethod pingMethod ∨
        before.isOpen (.session name) = false) :
      Ticked before after params name (some session) none []
  | asked {session : Session} {number : Nat} (verified : session.verified = true)
      (few : session.pending.countMethod pingMethod < maxUnansweredPings)
      (listening : before.isOpen (.session name) = true)
      (fresh : before.nextRequest ≤ number ∧ number < after.nextRequest) :
      Ticked before after params name (some session) (some (session.ask number))
        [question params number]

/-- A round that begins later and ends earlier is a part of a longer one. -/
theorem Ticked.mono {before first last after : Outbox} {params : Json} {name : String}
    {old new : Option Session} {messages : List Rpc.Message}
    (ticked : Ticked first last params name old new messages) (closed : first.closed = before.closed)
    (begins : before.nextRequest ≤ first.nextRequest) (ends : last.nextRequest ≤ after.nextRequest) :
    Ticked before after params name old new messages := by
  have same : first.isOpen (.session name) = before.isOpen (.session name) := by
    simp only [Outbox.isOpen, closed]
  cases ticked with
  | absent => exact .absent
  | passed unverified => exact .passed unverified
  | forgotten verified cause => exact .forgotten verified (same ▸ cause)
  | asked verified few listening fresh =>
    exact .asked verified few (same ▸ listening)
      ⟨Nat.le_trans begins fresh.1, Nat.lt_of_lt_of_le fresh.2 ends⟩

/-- Where there is no session, nothing happens. -/
theorem Ticked.of_absent {before after : Outbox} {params : Json} {name : String}
    {new : Option Session} {messages : List Rpc.Message}
    (ticked : Ticked before after params name none new messages) : new = none ∧ messages = [] := by
  cases ticked
  exact ⟨rfl, rfl⟩

section session

variable {outbox : Outbox} {name : String} {session : Session}

/-- A session that left few questions unanswered is asked, if somebody listens. -/
theorem pingSession_asked (node : Node) (params : Json)
    (few : session.pending.countMethod pingMethod < maxUnansweredPings)
    (known : node.senders.contains name = true) (listening : outbox.isOpen (.session name) = true) :
    node.pingSession outbox params name session =
      ({ outbox with nextRequest := outbox.nextRequest + 1 },
        some (session.ask outbox.nextRequest,
          [.deliver (.session name) (question params outbox.nextRequest)])) := by
  simp only [pingSession, if_pos few, channelOf, if_pos known, Outbox.request, if_pos listening]
  rfl

/-- Otherwise it is not asked. -/
theorem pingSession_forgotten (node : Node) (params : Json)
    (cause : maxUnansweredPings ≤ session.pending.countMethod pingMethod ∨
      outbox.isOpen (.session name) = false) :
    (node.pingSession outbox params name session).snd = none := by
  unfold pingSession
  split
  · next few =>
    have closed := cause.resolve_left (Nat.not_le.mpr few)
    split
    · rfl
    · next channel known =>
      rw [eq_of_channelOf known]
      simp [Outbox.request, closed]
  · rfl

end session

/-- A table is gone through from one session to the next. Each is passed over, asked or
forgotten, and nobody else gets a message by it. -/
theorem pingEach_cons (params : Json) (outbox : Outbox) (name : String) (session : Session)
    (rest : List (String × Session)) (known : node.senders.contains name = true) :
    ∃ (next : Outbox) (stays : Option Session) (effects : List Effect),
      Advances outbox next effects ∧
        Ticked outbox next params name (some session) stays (messagesTo name effects) ∧
        (∀ other ≠ name, messagesTo other effects = []) ∧
        node.pingEach params outbox ((name, session) :: rest) =
          let later := node.pingEach params next rest
          (later.fst, (stays.map (name, ·)).toList ++ later.snd.fst,
            (if stays.isNone then [name] else []) ++ later.snd.snd.fst,
            effects ++ later.snd.snd.snd) := by
  cases verified : session.verified with
  | false =>
    refine ⟨outbox, some session, [], .of_quiet rfl, .passed verified, fun _ _ => rfl, ?_⟩
    simp [pingEach, verified]
  | true =>
    have advances := node.pingSession_advances params outbox name session
    by_cases askable : session.pending.countMethod pingMethod < maxUnansweredPings ∧
        outbox.isOpen (.session name) = true
    · have asked := node.pingSession_asked params askable.1 known askable.2
      rw [asked] at advances
      refine ⟨_, some (session.ask outbox.nextRequest), _, advances, ?_, fun other different => ?_, ?_⟩
      · have ticked : Ticked outbox { outbox with nextRequest := outbox.nextRequest + 1 } params name
            (some session) (some (session.ask outbox.nextRequest)) _ :=
          .asked verified askable.1 askable.2 ⟨Nat.le_refl _, Nat.lt_succ_self _⟩
        simpa [messagesTo, Effect.messageTo] using ticked
      · simp [messagesTo, Effect.messageTo, Ne.symm different]
      · simp [pingEach, verified, asked]
    · have cause : maxUnansweredPings ≤ session.pending.countMethod pingMethod ∨
          outbox.isOpen (.session name) = false := by
        rw [← Nat.not_lt, ← Bool.not_eq_true]
        exact Decidable.not_and_iff_not_or_not.mp askable
      have forgotten := node.pingSession_forgotten params cause
      rw [forgotten] at advances
      refine ⟨_, none, [], advances, .forgotten verified cause, fun _ _ => rfl, ?_⟩
      cases outcome : node.pingSession outbox params name session with
      | mk next question =>
        rw [outcome] at forgotten
        subst forgotten
        simp [pingEach, verified, outcome]

/-- A name that is not in a table has no session in it. -/
theorem lookup_eq_none_of_not_mem {sessions : List (String × Session)} {name : String}
    (absent : name ∉ sessions.map Prod.fst) : sessions.lookup name = none := by
  rw [List.lookup_eq_none_iff]
  rintro ⟨other, session⟩ listed
  have different : name ≠ other := by
    rintro rfl
    exact absent (List.mem_map_of_mem listed)
  simpa using different

/-- A round treats every session of a table by the rule. -/
theorem pingEach_ticked (params : Json) (outbox : Outbox) {sessions : List (String × Session)}
    (distinct : (sessions.map Prod.fst).Nodup)
    (known : ∀ entry ∈ sessions, node.senders.contains entry.fst = true) (name : String) :
    let round := node.pingEach params outbox sessions
    Ticked outbox round.fst params name (sessions.lookup name) (round.snd.fst.lookup name)
      (messagesTo name round.snd.snd.snd) := by
  induction sessions generalizing outbox with
  | nil => exact .absent
  | cons entry rest inductionHypothesis =>
    obtain ⟨first, session⟩ := entry
    obtain ⟨fresh, distinct⟩ := List.nodup_cons.mp distinct
    obtain ⟨knownFirst, known⟩ := List.forall_mem_cons.mp known
    obtain ⟨next, stays, effects, advances, ticked, others, round⟩ :=
      pingEach_cons params outbox first session rest knownFirst
    have later := inductionHypothesis next distinct known
    have forward := (node.pingEach_advances params next rest).numbered.forward
    simp only [round, messagesTo_append, List.lookup_append, List.lookup_cons]
    by_cases same : name = first
    · subst same
      rw [lookup_eq_none_of_not_mem fresh] at later
      obtain ⟨gone, silent⟩ := later.of_absent
      have entry : (stays.map (name, ·)).toList.lookup name = stays := by cases stays <;> simp
      rw [gone, silent, entry, List.append_nil, Option.or_none]
      simpa using ticked.mono rfl (Nat.le_refl _) forward
    · have entry : (stays.map (first, ·)).toList.lookup name = none := by
        cases stays <;> simp [same]
      have other : (name == first) = false := beq_false_of_ne same
      rw [entry, others name same, other, Option.none_or, List.nil_append]
      exact later.mono advances.closed advances.numbered.forward (Nat.le_refl _)

/-- The sessions that stay are those that are not forgotten, in their order. -/
theorem names_pingEach (node : Node) (params : Json) (outbox : Outbox)
    {sessions : List (String × Session)}
    (distinct : (sessions.map Prod.fst).Nodup)
    (known : ∀ entry ∈ sessions, node.senders.contains entry.fst = true) :
    let round := node.pingEach params outbox sessions
    round.snd.snd.fst ⊆ sessions.map Prod.fst ∧
      round.snd.fst.map Prod.fst =
        (sessions.map Prod.fst).filter fun name => !round.snd.snd.fst.contains name := by
  induction sessions generalizing outbox with
  | nil => exact ⟨List.Subset.refl _, rfl⟩
  | cons entry rest inductionHypothesis =>
    obtain ⟨first, session⟩ := entry
    obtain ⟨fresh, distinct⟩ := List.nodup_cons.mp distinct
    obtain ⟨knownFirst, known⟩ := List.forall_mem_cons.mp known
    obtain ⟨next, stays, effects, -, -, -, round⟩ :=
      pingEach_cons params outbox first session rest knownFirst
    obtain ⟨listed, left⟩ := inductionHypothesis next distinct known
    simp only [round]
    cases stays with
    | some after =>
      have kept : first ∉ (node.pingEach params next rest).snd.snd.fst := fun gone =>
        fresh (listed gone)
      simp [left, kept, List.subset_cons_of_subset _ listed]
    | none =>
      have others : (rest.map Prod.fst).filter (fun name =>
            !(first :: (node.pingEach params next rest).snd.snd.fst).contains name) =
          (rest.map Prod.fst).filter fun name =>
            !(node.pingEach params next rest).snd.snd.fst.contains name := by
        refine List.filter_congr fun name member => ?_
        have different : name ≠ first := by
          rintro rfl
          exact fresh member
        simp [different]
      exact ⟨List.cons_subset_cons first listed, (left.trans others.symm).trans (by simp)⟩

end Node
end MediaNode
