import MediaNode.Proofs.Node.Table
import Mathlib.Data.List.Induction

/-!
# Questions that are not answered

What a session remembers as unanswered is what its client was asked over its connection and has
not answered since: `Outstanding` reads this off a history, and `tracks_after` shows that the
table agrees with it. There are never more than three such questions, because a client that left
three is not asked a fourth time but forgotten. So a client that answers every question before
the next round stays, and one that answers nothing is asked three times and forgotten in the
fourth round.
-/
namespace MediaNode.Node

variable {start : Node} {history : List Moment} {moment : Moment} {name : String} {id : Rpc.Id}

/-- That a client is asked under an id whether it is still there. -/
def Pings (effects : List Effect) (name : String) (id : Rpc.Id) : Prop :=
  ∃ params, Effect.deliver (.session name) (.request (.make pingMethod params id)) ∈ effects

/-- Whether an event is the answer of a client to the question with an id. -/
def Answers (event : Event) (name : String) (id : Rpc.Id) : Prop :=
  ∃ response, event = .heard name (.response response) ∧ response.id = id

/-- That a client was asked under an id over the connection that it has, and has not answered
since. -/
def Outstanding (start : Node) (history : List Moment) (name : String) (id : Rpc.Id) : Prop :=
  ∃ before moment later, history = before ++ moment :: later ∧
    Pings ((start.after before).step moment).effects name id ∧
    ∀ next ∈ later, ¬ next.event.renews name ∧ ¬ Answers next.event name id

/-- At a moment a question may be asked; those from before are outstanding still unless they were
answered or the connection was another one. -/
theorem outstanding_snoc_iff :
    Outstanding start (history ++ [moment]) name id ↔
      Pings ((start.after history).step moment).effects name id ∨
        (Outstanding start history name id ∧ ¬ moment.event.renews name ∧
          ¬ Answers moment.event name id) := by
  constructor
  · rintro ⟨before, asking, later, split, asked, since⟩
    rcases List.eq_nil_or_concat' later with rfl | ⟨between, last, rfl⟩
    · obtain ⟨rfl, rfl⟩ := List.append_inj' split rfl |>.imp_right List.singleton_inj.mp
      exact .inl asked
    · rw [← List.cons_append, ← List.append_assoc] at split
      obtain ⟨rfl, same⟩ := List.append_inj' split rfl
      obtain rfl := List.singleton_inj.mp same
      refine .inr ⟨⟨before, asking, between, rfl, asked, fun next member => ?_⟩, ?_⟩
      · exact since next (List.mem_append_left _ member)
      · exact since _ (List.mem_append_right _ (List.mem_singleton_self _))
  · rintro (asked | ⟨⟨before, asking, later, rfl, asked, since⟩, now⟩)
    · exact ⟨history, moment, [], rfl, asked, by simp⟩
    · refine ⟨before, asking, later ++ [moment], by simp, asked, fun next member => ?_⟩
      rcases List.mem_append.mp member with here | last
      · exact since next here
      · exact List.mem_singleton.mp last ▸ now

/-- Only rounds of questions ask clients. -/
theorem not_request_of_undue {node : Node} {trace : List Effect}
    (life : Worker.Lifecycle node.supervisor trace) (undue : moment.event ≠ .due .ping)
    (request : Rpc.Request) :
    Effect.deliver (.session name) (.request request) ∉ (node.step moment).effects := by
  intro member
  cases sent_step life moment member with
  | worker about => cases about
  | asked _ _ due => exact undue due
  | deferred heard identified unanswered job =>
    rcases job with ⟨work, other⟩ | ⟨work, other⟩ <;> cases other

/-- So outside of them nobody is asked. -/
theorem not_pings_of_undue {node : Node} {trace : List Effect}
    (life : Worker.Lifecycle node.supervisor trace) (undue : moment.event ≠ .due .ping) :
    ¬ Pings (node.step moment).effects name id := fun ⟨_, member⟩ =>
  not_request_of_undue life undue _ member

/-- A client that gets no message is not asked. -/
theorem not_pings_of_silent {effects : List Effect} (silent : messagesTo name effects = []) :
    ¬ Pings effects name id := by
  rintro ⟨params, member⟩
  rw [← mem_messagesTo, silent] at member
  cases member

/-- A client that gets one question is asked under its id. -/
theorem pings_iff_of_question {effects : List Effect} {params : Json} {number : Nat}
    (asked : messagesTo name effects = [question params number]) :
    Pings effects name id ↔ id = .number number := by
  constructor
  · rintro ⟨given, member⟩
    rw [← mem_messagesTo, asked, List.mem_singleton] at member
    exact Option.some.inj (congrArg Rpc.Request.id (Rpc.Message.request.inj member))
  · rintro rfl
    refine ⟨some params, mem_messagesTo.mp ?_⟩
    rw [asked]
    exact List.mem_singleton_self _

/-- A question that was not asked nor answered now is outstanding as before. -/
theorem outstanding_snoc_of_idle
    (unasked : ¬ Pings ((start.after history).step moment).effects name id)
    (lasting : ¬ moment.event.renews name)
    (unanswering : ∀ response, moment.event ≠ .heard name (.response response)) :
    Outstanding start (history ++ [moment]) name id ↔ Outstanding start history name id := by
  have unanswered : ¬ Answers moment.event name id := fun ⟨response, heard, _⟩ =>
    unanswering response heard
  rw [outstanding_snoc_iff]
  simp only [unasked, lasting, unanswered, not_false_eq_true, and_true, false_or]

/-- That a session remembers exactly the questions that are outstanding. -/
structure Tracks (start : Node) (history : List Moment) (name : String) (session : Session) :
    Prop where
  pending_iff : ∀ id method, (id, method) ∈ session.pending ↔
    method = pingMethod ∧ Outstanding start history name id
  /-- Each of them is remembered once, -/
  distinct : (session.pending.map Prod.fst).Nodup
  /-- and there are never more than three. -/
  few : session.pending.length ≤ maxUnansweredPings
  quiet : session.verified = false → session.pending = []
  numbered : ∀ entry ∈ session.pending, ∃ number < (start.after history).outbox.nextRequest,
    entry.fst = .number number

namespace Tracks

variable {session after : Session}

/-- All that is remembered are questions whether the client is still there. -/
theorem countMethod (tracks : Tracks start history name session) :
    session.pending.countMethod pingMethod = session.pending.length := by
  rw [Pending.countMethod, List.filter_eq_self.mpr]
  intro entry member
  exact decide_eq_true ((tracks.pending_iff entry.fst entry.snd).mp member).1

/-- A moment that neither asks nor answers keeps what is remembered right. -/
theorem idle (tracks : Tracks start history name session) (same : after.pending = session.pending)
    (verified : after.verified = false → session.verified = false)
    (unasked : ∀ id, ¬ Pings ((start.after history).step moment).effects name id)
    (lasting : ¬ moment.event.renews name)
    (unanswering : ∀ response, moment.event ≠ .heard name (.response response)) :
    Tracks start (history ++ [moment]) name after where
  pending_iff := by
    intro id method
    rw [same, tracks.pending_iff, outstanding_snoc_of_idle (unasked id) lasting unanswering]
  distinct := same ▸ tracks.distinct
  few := same ▸ tracks.few
  quiet := fun unverified => same.trans (tracks.quiet (verified unverified))
  numbered := by
    intro entry member
    obtain ⟨number, below, named⟩ := tracks.numbered entry (same ▸ member)
    refine ⟨number, Nat.lt_of_lt_of_le below ?_, named⟩
    rw [after_append]
    exact (numbered_step _ moment).forward

/-- A new connection remembers nothing. -/
theorem opened {peer : Peer} {trace : List Effect}
    (life : Worker.Lifecycle (start.after history).supervisor trace)
    (connected : moment.event = .connected name peer) :
    Tracks start (history ++ [moment]) name { peer } where
  pending_iff := by
    intro id method
    have renewed : moment.event.renews name := by rw [connected]; rfl
    have unasked : ¬ Pings ((start.after history).step moment).effects name id :=
      not_pings_of_undue life (by rw [connected]; exact Event.noConfusion)
    rw [outstanding_snoc_iff]
    simp [renewed, unasked]
  distinct := .nil
  few := Nat.zero_le _
  quiet := fun _ => rfl
  numbered := by simp

/-- A response takes the question that it answers away. -/
theorem answered (tracks : Tracks start history name session) {trace : List Effect}
    (life : Worker.Lifecycle (start.after history).supervisor trace) {response : Rpc.Response}
    (heard : moment.event = .heard name (.response response)) :
    Tracks start (history ++ [moment]) name (session.takePending response.id).fst := by
  have unasked : ∀ id, ¬ Pings ((start.after history).step moment).effects name id := fun id =>
    not_pings_of_undue life (by rw [heard]; exact Event.noConfusion)
  have lasting : ¬ moment.event.renews name := by rw [heard]; exact not_false
  have answers_iff : ∀ id, Answers moment.event name id ↔ response.id = id := by
    intro id
    constructor
    · rintro ⟨other, same, named⟩
      rw [heard] at same
      cases same
      exact named
    · exact fun named => ⟨response, heard, named⟩
  exact {
    pending_iff := by
      intro id method
      change (id, method) ∈ session.pending.filter (·.fst ≠ response.id) ↔ _
      rw [List.mem_filter, tracks.pending_iff, outstanding_snoc_iff, or_iff_right (unasked id),
        answers_iff, and_assoc, decide_eq_true_eq, ne_comm]
      simp only [lasting, not_false_eq_true, true_and, ne_eq]
    distinct := tracks.distinct.sublist (List.filter_sublist.map _)
    few := Nat.le_trans (List.length_filter_le _ _) tracks.few
    quiet := fun unverified => by
      simp [Session.takePending, Pending.take, tracks.quiet unverified]
    numbered := by
      intro entry member
      obtain ⟨number, below, named⟩ := tracks.numbered entry (List.mem_of_mem_filter member)
      refine ⟨number, Nat.lt_of_lt_of_le below ?_, named⟩
      rw [after_append]
      exact (numbered_step _ moment).forward }

/-- No question is remembered under an id that was not used yet. -/
theorem unknown (tracks : Tracks start history name session) {number : Nat}
    (fresh : (start.after history).outbox.nextRequest ≤ number) :
    ∀ entry ∈ session.pending, entry.fst ≠ .number number := by
  intro entry member
  obtain ⟨other, below, named⟩ := tracks.numbered entry member
  rw [named, ne_eq, Rpc.Id.number.injEq]
  exact Nat.ne_of_lt (Nat.lt_of_lt_of_le below fresh)

/-- So a new question is remembered besides all others. -/
theorem pending_ask (tracks : Tracks start history name session) {number : Nat}
    (fresh : (start.after history).outbox.nextRequest ≤ number) :
    (session.ask number).pending = (.number number, pingMethod) :: session.pending := by
  simp only [Session.ask, Pending.insert]
  rw [List.filter_eq_self.mpr fun entry member =>
    decide_eq_true (tracks.unknown fresh entry member)]

/-- A session remembers nothing exactly when its client has answered everything. -/
theorem pending_eq_nil_iff (tracks : Tracks start history name session) :
    session.pending = [] ↔ ∀ id, ¬ Outstanding start history name id := by
  constructor
  · intro empty id outstanding
    have remembered := (tracks.pending_iff id pingMethod).mpr ⟨rfl, outstanding⟩
    rw [empty] at remembered
    cases remembered
  · intro answered
    refine List.eq_nil_iff_forall_not_mem.mpr fun entry member => ?_
    exact answered entry.fst ((tracks.pending_iff entry.fst entry.snd).mp member).2

/-- A question is remembered. -/
theorem asked (tracks : Tracks start history name session) {params : Json} {number : Nat}
    (due : moment.event = .due .ping) (verified : session.verified = true)
    (few : session.pending.countMethod pingMethod < maxUnansweredPings)
    (fresh : (start.after history).outbox.nextRequest ≤ number ∧
      number < ((start.after history).step moment).node.outbox.nextRequest)
    (sent : messagesTo name ((start.after history).step moment).effects = [question params number]) :
    Tracks start (history ++ [moment]) name (session.ask number) := by
  have unknown := tracks.unknown fresh.1
  have remembered := tracks.pending_ask fresh.1
  have lasting : ¬ moment.event.renews name := by rw [due]; exact not_false
  have unanswered : ∀ id, ¬ Answers moment.event name id := by
    rintro id ⟨response, heard, -⟩
    rw [due] at heard
    cases heard
  exact {
    pending_iff := by
      intro id method
      rw [outstanding_snoc_iff, pings_iff_of_question sent, remembered]
      simp only [List.mem_cons, Prod.mk.injEq, tracks.pending_iff, lasting, unanswered,
        not_false_eq_true, and_true]
      constructor
      · rintro (⟨rfl, rfl⟩ | ⟨rfl, before⟩)
        · exact ⟨rfl, .inl rfl⟩
        · exact ⟨rfl, .inr before⟩
      · rintro ⟨rfl, rfl | before⟩
        · exact .inl ⟨rfl, rfl⟩
        · exact .inr ⟨rfl, before⟩
    distinct := by
      rw [remembered, List.map_cons, List.nodup_cons]
      refine ⟨fun member => ?_, tracks.distinct⟩
      obtain ⟨entry, listed, same⟩ := List.mem_map.mp member
      exact unknown entry listed same
    few := by
      rw [tracks.countMethod] at few
      rw [remembered]
      exact few
    quiet := fun unverified => absurd (verified.symm.trans unverified) (by decide)
    numbered := by
      intro entry member
      rw [after_append]
      rcases List.mem_cons.mp (remembered ▸ member) with rfl | old
      · exact ⟨number, fresh.2, rfl⟩
      · obtain ⟨other, below, named⟩ := tracks.numbered entry old
        exact ⟨other, Nat.lt_of_lt_of_le below (numbered_step _ moment).forward, named⟩ }

end Tracks

/-- In every history the sessions remember what is outstanding. -/
theorem tracks_after (settings : Settings) (history : List Moment) {name : String}
    {session : Session}
    (found : ((ofSettings settings).after history).session? name = some session) :
    Tracks (ofSettings settings) history name session := by
  -- from the end of the history, since what is outstanding is decided by the last moments
  induction history using List.reverseRecOn generalizing session with
  | nil => cases found
  | append_singleton history moment inductionHypothesis =>
    have life := after_lifecycle settings history
    have becomes := becomes_step (registered_after settings history) moment name
    rw [after_append] at found
    change (((ofSettings settings).after history).step moment).node.session? name =
      some session at found
    generalize was : ((ofSettings settings).after history).session? name = old,
      (((ofSettings settings).after history).step moment).node.session? name = new at becomes found
    cases becomes with
    | opened connected =>
      cases found
      exact .opened life connected
    | closed dropped => cases found
    | activated activates =>
      cases found
      obtain ⟨request, heard⟩ : ∃ request, moment.event = .heard name (.request request) := by
        obtain ⟨asked, -⟩ := activates
        exact ⟨_, asked⟩
      exact (inductionHypothesis was).idle rfl (fun unverified => by cases unverified)
        (fun id => not_pings_of_undue life (by simp [heard])) (by rw [heard]; exact not_false)
        (by simp [heard])
    | answered heard =>
      obtain ⟨before, rfl, rfl⟩ := Option.map_eq_some_iff.mp found
      exact (inductionHypothesis was).answered life heard
    | ticked due ticked =>
      have lasting : ¬ moment.event.renews name := by rw [due]; exact not_false
      generalize silent : messagesTo name _ = messages at ticked
      cases ticked with
      | absent => cases found
      | passed unverified =>
        cases found
        exact (inductionHypothesis was).idle rfl id (fun id => not_pings_of_silent silent) lasting
          (by simp [due])
      | forgotten verified cause => cases found
      | asked verified few listening fresh =>
        cases found
        exact (inductionHypothesis was).asked due verified few fresh silent
    | kept lasting unanswering undue =>
      exact (inductionHypothesis (was.trans found)).idle rfl id
        (fun id => not_pings_of_undue life undue) lasting unanswering

/-- That a client keeps its connection, and has answered everything whenever a round begins. -/
structure Punctual (start : Node) (history later : List Moment) (name : String) : Prop where
  connected : ∀ moment ∈ later, moment.event ≠ .dropped name
  answered : ∀ before moment rest, later = before ++ moment :: rest → moment.event = .due .ping →
    (start.after (history ++ before)).outbox.isOpen (.session name) = true ∧
      ∀ id, ¬ Outstanding start (history ++ before) name id

/-- A client that answers each question before the next round is not forgotten. -/
theorem present_of_punctual (settings : Settings) (history later : List Moment) {name : String}
    (present : (((ofSettings settings).after history).session? name).isSome = true)
    (punctual : Punctual (ofSettings settings) history later name) :
    (((ofSettings settings).after (history ++ later)).session? name).isSome = true := by
  induction later using List.reverseRecOn with
  | nil => rwa [List.append_nil]
  | append_singleton later moment inductionHypothesis =>
    have before : Punctual (ofSettings settings) history later name :=
      ⟨fun next member => punctual.connected next (List.mem_append_left _ member),
        fun before next rest split => punctual.answered before next (rest ++ [moment])
          (by rw [split, List.append_assoc, List.cons_append])⟩
    have there := inductionHypothesis before
    have now := punctual.answered later moment [] rfl
    have stays := punctual.connected moment (List.mem_append_right _ (List.mem_singleton_self _))
    rw [← List.append_assoc, after_append, after_cons, after_nil]
    have becomes := becomes_step (registered_after settings (history ++ later)) moment name
    have tracks : ∀ session, ((ofSettings settings).after (history ++ later)).session? name =
        some session → Tracks (ofSettings settings) (history ++ later) name session :=
      fun session => tracks_after settings (history ++ later)
    generalize ((ofSettings settings).after (history ++ later)).session? name = old,
      (((ofSettings settings).after (history ++ later)).step moment).node.session? name = new
      at becomes there tracks
    cases becomes with
    | opened connected => rfl
    | closed dropped => exact absurd dropped stays
    | activated activates => rfl
    | answered heard => simpa using there
    | ticked due ticked =>
      obtain ⟨listening, answered⟩ := now due
      generalize messagesTo name _ = messages at ticked
      cases ticked with
      | absent => exact there
      | passed unverified => rfl
      | forgotten verified cause =>
        have nothing := (tracks _ rfl).pending_eq_nil_iff.mpr answered
        rcases cause with many | deaf
        · rw [nothing] at many
          exact absurd many (by decide)
        · rw [listening] at deaf
          cases deaf
      | asked verified few listening fresh => rfl
    | kept lasting unanswering undue => exact there

/-- Whether a round of questions is due at a moment. -/
def isRound (moment : Moment) : Bool :=
  match moment.event with
  | .due .ping => true
  | _ => false

/-- Whether a message asks a client if it is still there. -/
def isQuestion : Rpc.Message → Bool
  | .request request => request.method = pingMethod
  | _ => false

/-- How many questions a client gets by some effects. -/
def questionsTo (name : String) (effects : List Effect) : Nat :=
  (messagesTo name effects).countP isQuestion

/-- Questions are asked part by part. -/
theorem questionsTo_append (before later : List Effect) :
    questionsTo name (before ++ later) = questionsTo name before + questionsTo name later := by
  rw [questionsTo, messagesTo_append, List.countP_append]
  rfl

/-- A round is due exactly when its chore is. -/
theorem isRound_iff : isRound moment = true ↔ moment.event = .due .ping := by
  unfold isRound
  split
  · next due => simp [due]
  · next other => simpa using other

/-- Outside of rounds there are no questions. -/
theorem questionsTo_of_undue {node : Node} {trace : List Effect}
    (life : Worker.Lifecycle node.supervisor trace) (undue : moment.event ≠ .due .ping) :
    questionsTo name (node.step moment).effects = 0 := by
  refine List.countP_eq_zero.mpr fun message gotten => ?_
  cases message with
  | request request =>
    exact absurd (mem_messagesTo.mp gotten) (not_request_of_undue life undue request)
  | notification notification => exact Bool.false_ne_true
  | response response => exact Bool.false_ne_true

/-- That a client neither answers nor hangs up at a moment, and keeps its connection. -/
structure Silent (name : String) (moment : Moment) : Prop where
  lasting : ¬ moment.event.renews name
  unanswering : ∀ response, moment.event ≠ .heard name (.response response)
  listening : moment.event ≠ .hungUp (.session name)

/-- How it stands with a silent client after some rounds: it was asked in each of the first three
and is gone from the fourth on. -/
inductive Waits (node : Node) (name : String) (rounds : Nat) : Prop where
  | asked {session : Session} (found : node.session? name = some session)
      (verified : session.verified = true)
      (unanswered : session.pending.length = rounds)
      (listening : node.outbox.isOpen (.session name) = true)
  | gone (many : maxUnansweredPings < rounds) (found : node.session? name = none)

/-- A silent client keeps its channel. -/
theorem Silent.isOpen (silent : Silent name moment) (node : Node) :
    (node.step moment).node.outbox.isOpen (.session name) = node.outbox.isOpen (.session name) := by
  refine node.isOpen_step (fun other peer connected same => silent.lasting ?_) silent.listening
  rw [connected]
  exact (Channel.session.inj same).symm

section silence

variable {settings : Settings} {rounds : Nat}

/-- A moment without a round leaves it as it is with a silent client. -/
theorem Waits.pass (waits : Waits ((ofSettings settings).after history) name rounds)
    (silent : Silent name moment) (undue : moment.event ≠ .due .ping) :
    Waits (((ofSettings settings).after history).step moment).node name rounds := by
  have still := silent.isOpen ((ofSettings settings).after history)
  have becomes := becomes_step (registered_after settings history) moment name
  cases waits with
  | asked found verified unanswered listening =>
    rw [found] at becomes
    generalize left : (((ofSettings settings).after history).step moment).node.session? name = new
      at becomes
    cases becomes with
    | opened connected =>
      exact absurd (show moment.event.renews name by rw [connected]; rfl) silent.lasting
    | closed dropped =>
      exact absurd (show moment.event.renews name by rw [dropped]; rfl) silent.lasting
    | activated activates => exact .asked left rfl unanswered (still.trans listening)
    | answered heard => exact absurd heard (silent.unanswering _)
    | ticked due ticked => exact absurd due undue
    | kept => exact .asked left verified unanswered (still.trans listening)
  | gone many found =>
    rw [found] at becomes
    generalize left : (((ofSettings settings).after history).step moment).node.session? name = new
      at becomes
    cases becomes with
    | opened connected =>
      exact absurd (show moment.event.renews name by rw [connected]; rfl) silent.lasting
    | closed dropped => exact .gone many left
    | answered heard => exact .gone many left
    | ticked due ticked => exact absurd due undue
    | kept => exact .gone many left

/-- A round asks a silent client once more, unless it left three questions unanswered; then it is
gone. -/
theorem Waits.round (waits : Waits ((ofSettings settings).after history) name rounds)
    (silent : Silent name moment) (due : moment.event = .due .ping) :
    Waits (((ofSettings settings).after history).step moment).node name (rounds + 1) ∧
      questionsTo name (((ofSettings settings).after history).step moment).effects =
        if rounds < maxUnansweredPings then 1 else 0 := by
  have still := silent.isOpen ((ofSettings settings).after history)
  have ticked := ticked_step (registered_after settings history) due name
  cases waits with
  | asked found verified unanswered listening =>
    have tracks := tracks_after settings history found
    have counted := tracks.countMethod.trans unanswered
    rw [found] at ticked
    unfold questionsTo
    generalize left : (((ofSettings settings).after history).step moment).node.session? name = new,
      messagesTo name (((ofSettings settings).after history).step moment).effects = messages
      at ticked
    cases ticked with
    | passed unverified => exact absurd (verified.symm.trans unverified) (by decide)
    | forgotten _ cause =>
      have many : maxUnansweredPings ≤ rounds := by
        rcases cause with many | deaf
        · exact counted ▸ many
        · exact absurd (listening.symm.trans deaf) (by decide)
      rw [if_neg (Nat.not_lt.mpr many)]
      exact ⟨.gone (Nat.lt_succ_of_le many) left, rfl⟩
    | asked _ few _ fresh =>
      rw [if_pos (counted ▸ few)]
      refine ⟨.asked left verified ?_ (still.trans listening), rfl⟩
      rw [tracks.pending_ask fresh.1, List.length_cons, unanswered]
  | gone many found =>
    rw [found] at ticked
    obtain ⟨absent, nothing⟩ := ticked.of_absent
    rw [if_neg (Nat.not_lt_of_gt many), questionsTo, nothing]
    exact ⟨.gone (Nat.lt_succ_of_lt many) absent, rfl⟩

/-- So after any rounds a silent client was asked in each of the first three, and is gone from the
fourth on. -/
theorem waits_after {later : List Moment}
    (waits : Waits ((ofSettings settings).after history) name 0)
    (silent : ∀ moment ∈ later, Silent name moment) :
    Waits ((ofSettings settings).after (history ++ later)) name (later.countP isRound) ∧
      questionsTo name (((ofSettings settings).after history).effectsOf later) =
        min (later.countP isRound) maxUnansweredPings := by
  induction later using List.reverseRecOn with
  | nil => exact ⟨by simpa using waits, rfl⟩
  | append_singleton later moment inductionHypothesis =>
    obtain ⟨before, asked⟩ := inductionHypothesis fun next member =>
      silent next (List.mem_append_left _ member)
    have quiet := silent moment (List.mem_append_right _ (List.mem_singleton_self _))
    have life := after_lifecycle settings (history ++ later)
    rw [← List.append_assoc, after_append, after_cons, after_nil, List.countP_append,
      List.countP_singleton, effectsOf_append, questionsTo_append, ← after_append, asked, effectsOf,
      effectsOf, List.append_nil]
    cases due : isRound moment with
    | false =>
      have undue : moment.event ≠ .due .ping := fun same => by
        rw [isRound_iff.mpr same] at due
        cases due
      exact ⟨before.pass quiet undue, by rw [questionsTo_of_undue life undue]; simp⟩
    | true =>
      obtain ⟨waits, once⟩ := before.round quiet (isRound_iff.mp due)
      refine ⟨waits, ?_⟩
      rw [once, if_pos rfl]
      split <;> omega

end silence

/-- No two requests of the node share an id. -/
theorem askedIds_nodup (node : Node) (history : List Moment) :
    (askedIds (node.effectsOf history)).Nodup := by
  obtain ⟨-, numbers, ids, increasing, -⟩ := node.numbered_after history
  have injective : Function.Injective (some ∘ Rpc.Id.number) := fun _ _ same =>
    Rpc.Id.number.inj (Option.some.inj same)
  rw [ids, List.nodup_map_iff injective]
  exact increasing.imp Nat.ne_of_lt

/-- As long as the counter did not run over, neither did an id. -/
theorem askedIds_bounded (node : Node) (history : List Moment) {bound : Nat}
    (few : (node.after history).outbox.nextRequest ≤ bound) :
    ∀ id ∈ askedIds (node.effectsOf history), ∃ number < bound, id = some (.number number) := by
  obtain ⟨-, numbers, ids, -, between⟩ := node.numbered_after history
  intro id member
  rw [ids] at member
  obtain ⟨number, listed, named⟩ := List.mem_map.mp member
  exact ⟨number, Nat.lt_of_lt_of_le (between number listed).2 few, named.symm⟩

/-- That a session left as many questions unanswered as it may, or that nobody listens to it. -/
def Lost (node : Node) (name : String) (session : Session) : Prop :=
  maxUnansweredPings ≤ session.pending.length ∨ node.outbox.isOpen (.session name) = false

/-- What a round does to a session. -/
structure Treats (node : Node) (moment : Moment) (name : String) (session : Session) : Prop where
  /-- It forgets a session that is verified and lost, -/
  forgotten : (node.step moment).node.session? name = none ↔
    session.verified = true ∧ node.Lost name session
  /-- and sends it nothing. -/
  silent : session.verified = true → node.Lost name session →
    messagesTo name (node.step moment).effects = []
  /-- Any other one that is verified is asked once. -/
  asked : session.verified = true → ¬ node.Lost name session → ∃ number,
    messagesTo name (node.step moment).effects = [question (timestamp moment.around.now) number]
  /-- One that is not verified is sent nothing. -/
  unverified : session.verified = false → messagesTo name (node.step moment).effects = []

/-- A round treats a session by what it remembers and by whether somebody listens to it. -/
theorem ping_treats {settings : Settings} {session : Session} (due : moment.event = .due .ping)
    (found : ((ofSettings settings).after history).session? name = some session) :
    ((ofSettings settings).after history).Treats moment name session := by
  have counted := (tracks_after settings history found).countMethod
  have ticked := ticked_step (registered_after settings history) due name
  set node := (ofSettings settings).after history
  set round := node.step moment with stepped
  rw [found] at ticked
  change Ticked node.outbox round.node.outbox _ name _ (round.node.session? name)
    (messagesTo name round.effects) at ticked
  suffices treated : (round.node.session? name = none ↔
        session.verified = true ∧ node.Lost name session) ∧
      (session.verified = true → node.Lost name session → messagesTo name round.effects = []) ∧
      (session.verified = true → ¬ node.Lost name session → ∃ number,
        messagesTo name round.effects = [question (timestamp moment.around.now) number]) ∧
      (session.verified = false → messagesTo name round.effects = []) by
    obtain ⟨forgotten, silent, asked, unverified⟩ := treated
    exact { forgotten, silent, asked, unverified }
  generalize round.node.session? name = new, messagesTo name round.effects = messages at ticked ⊢
  cases ticked with
  | passed unverified => simp [unverified]
  | forgotten verified cause =>
    have gone : node.Lost name session := cause.imp_left fun many => counted ▸ many
    simp [verified, gone]
  | asked verified few listening fresh =>
    have kept : ¬ node.Lost name session := by
      rintro (many | deaf)
      · exact absurd (counted ▸ few) (Nat.not_lt.mpr many)
      · exact absurd (listening.symm.trans deaf) (by decide)
    simp [verified, kept]

/-- How the questions of a history are accounted for. -/
structure Questioning (start : Node) (history : List Moment) : Prop where
  /-- The sessions are those that can be sent to, -/
  registered : (start.after history).Registered
  /-- and each remembers exactly the questions that its client has not answered, three at most. -/
  tracked : ∀ name session, (start.after history).session? name = some session →
    Tracks start history name session
  /-- No two requests of the node share an id, -/
  distinct : (askedIds (start.effectsOf history)).Nodup
  /-- and while few enough were made, the ids fit into sixty-four bits. -/
  bounded : (start.after history).outbox.nextRequest - start.outbox.nextRequest < UInt64.size →
    ∀ id ∈ askedIds (start.effectsOf history), ∃ number < UInt64.size, id = some (.number number)
  /-- A round forgets a session exactly when it is verified and lost. -/
  treated : ∀ moment name session, moment.event = .due .ping →
    (start.after history).session? name = some session →
    (start.after history).Treats moment name session
  /-- So a client that answers before the next round stays. -/
  stays : ∀ later name, ((start.after history).session? name).isSome = true →
    Punctual start history later name →
    (((start.after history).after later).session? name).isSome = true
  /-- A verified client that has answered everything and is silent then is asked three times, and it
  is gone after the fourth round. -/
  silence : ∀ later name session, (start.after history).session? name = some session →
    session.verified = true → (∀ id, ¬ Outstanding start history name id) →
    (start.after history).outbox.isOpen (.session name) = true →
    (∀ moment ∈ later, Silent name moment) →
    questionsTo name ((start.after history).effectsOf later) =
        min (later.countP isRound) maxUnansweredPings ∧
      ((((start.after history).after later).session? name).isSome = true ↔
        later.countP isRound ≤ maxUnansweredPings)

/-- Every question of a history is accounted for, from the start of the node on. -/
theorem pings_accounted (settings : Settings) (history : List Moment) :
    Questioning (ofSettings settings) history where
  registered := registered_after settings history
  tracked name session found := tracks_after settings history found
  distinct := askedIds_nodup _ history
  bounded few := by
    refine askedIds_bounded _ history ?_
    have one : (ofSettings settings).outbox.nextRequest = 1 := rfl
    omega
  treated moment name session due found := ping_treats due found
  stays later name present punctual := by
    rw [← after_append]
    exact present_of_punctual settings history later present punctual
  silence later name session found verified answered listening silent := by
    have tracks := tracks_after settings history found
    have empty := tracks.pending_eq_nil_iff.mpr answered
    have waits : Waits ((ofSettings settings).after history) name 0 :=
      .asked found verified (by rw [empty]; rfl) listening
    obtain ⟨waits, asked⟩ := waits_after waits silent
    rw [after_append] at waits
    refine ⟨asked, ?_⟩
    cases waits with
    | asked there _ unanswered _ =>
      have few := (tracks_after settings (history ++ later) (by rw [after_append]; exact there)).few
      rw [there, ← unanswered]
      exact ⟨fun _ => few, fun _ => rfl⟩
    | gone many gone =>
      rw [gone]
      exact ⟨fun there => (by cases there), fun few => absurd many (Nat.not_lt.mpr few)⟩

/-- A client has answered everything if its session remembers nothing. -/
theorem answered_of_any (settings : Settings) (history : List Moment) (name : String)
    (idle : (((ofSettings settings).after history).session? name).any (·.pending.isEmpty) = true) :
    ∀ id, ¬ Outstanding (ofSettings settings) history name id := by
  obtain ⟨there, empty⟩ := Option.any_eq_true_iff_get .. |>.mp idle
  have tracks := tracks_after settings history (Option.some_get there).symm
  exact tracks.pending_eq_nil_iff.mp (List.isEmpty_iff.mp empty)

/-- A round of questions. -/
def questionRound : Moment := ⟨default, .empty, .due .ping⟩

/-- The client of `relayHistory` answers the question with a number. -/
def relayAnswer (number : Nat) : Moment :=
  ⟨default, .empty, .heard "c" (.response (.success (.number number) .null))⟩

/-- The client that activated its session in `relayHistory` stays if it answers; if it does not, it
is asked three times in four rounds and is gone. -/
theorem pings_accounted_channel :
    let node := (ofSettings relaySettings).after (relayHistory.take 2)
    (∃ number, messagesTo "c" (node.step questionRound).effects =
      [question (timestamp 0) number]) ∧
    ((node.after [questionRound, relayAnswer 1, questionRound]).session? "c").isSome = true ∧
    questionsTo "c" (node.effectsOf (.replicate 4 questionRound)) = 3 ∧
    ((node.after (.replicate 4 questionRound)).session? "c").isSome = false := by
  have accounted := pings_accounted relaySettings (relayHistory.take 2)
  intro node
  have active : (node.session? "c").any
      (fun session => session.verified && session.pending.isEmpty) = true := by decide +kernel
  have listening : node.outbox.isOpen (.session "c") = true := by decide +kernel
  have answered := answered_of_any relaySettings (relayHistory.take 2) "c" (by decide +kernel)
  obtain ⟨there, active⟩ := Option.any_eq_true_iff_get .. |>.mp active
  obtain ⟨verified, empty⟩ := Bool.and_eq_true_iff.mp active
  have found := (Option.some_get there).symm
  refine ⟨(accounted.treated questionRound "c" _ rfl found).asked verified ?_,
    accounted.stays _ "c" there ?_, ?_⟩
  · rintro (many | deaf)
    · rw [List.isEmpty_iff.mp empty] at many
      exact absurd many (by decide)
    · exact absurd (listening.symm.trans deaf) (by decide)
  · refine ⟨by simp [questionRound, relayAnswer], fun before moment rest split due => ?_⟩
    -- a round begins the history and ends it; in between the client answers
    rcases before with _ | ⟨first, _ | ⟨second, _ | ⟨third, more⟩⟩⟩
    · exact ⟨listening, answered⟩
    · rw [List.cons_append, List.nil_append, List.cons.injEq, List.cons.injEq] at split
      obtain ⟨-, rfl, -⟩ := split
      cases due
    · obtain ⟨rfl, rfl, -⟩ : questionRound = first ∧ relayAnswer 1 = second ∧
          [questionRound] = moment :: rest := by simpa using split
      exact ⟨by decide +kernel, answered_of_any relaySettings _ "c" (by decide +kernel)⟩
    · simp at split
  · obtain ⟨asked, gone⟩ := accounted.silence (.replicate 4 questionRound) "c" _ found verified answered
      listening (by simpa using ⟨not_false, nofun, nofun⟩)
    exact ⟨asked, Bool.eq_false_iff.mpr fun stays => absurd (gone.mp stays) (by decide)⟩

end MediaNode.Node
