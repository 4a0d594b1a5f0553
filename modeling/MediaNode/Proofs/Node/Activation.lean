import Mathlib.Data.List.Induction
import MediaNode.Proofs.Node.Guards
import MediaNode.Proofs.Node.Sessions

/-!
# Where verification comes from

A session is verified only by an activation of its own, with the license of the node and
before that license expires, and it keeps the access that the last one asked for. So a
node whose license was over when it started verifies nobody, tells nobody anything that
was not asked for, and launches no worker for a session. A session that is gone stays
gone, whatever is still sent in its name.
-/
namespace MediaNode

open Worker (launchedSerials)

/-- The session that gets a message without having asked for it. -/
def Effect.unaskedFor? : Effect → Option String
  | .deliver (.session name) (.request _) => some name
  | .deliver (.session name) (.notification _) => some name
  | _ => none

namespace Node

/-- That the last activation of a name in a history, in the connection that it now has,
granted an access until a time. -/
def ActivatedLast (start : Node) (history : List Moment) (name : String) (expiration : Int)
    (access : Access) : Prop :=
  ∃ before moment later, history = before ++ moment :: later ∧
    (start.after before).Activates moment name expiration access ∧
    ∀ between next rest, later = between ++ next :: rest →
      ¬ next.event.renews name ∧
        ∀ expiration access,
          ¬ (start.after (before ++ moment :: between)).Activates next name expiration access

namespace ActivatedLast

variable {start : Node} {history : List Moment} {moment : Moment} {name : String}
  {expiration : Int} {access : Access}

/-- An activation that just happened is the last one. -/
theorem of_activates (activates : (start.after history).Activates moment name expiration access) :
    ActivatedLast start (history ++ [moment]) name expiration access :=
  ⟨history, moment, [], rfl, activates, by simp⟩

/-- It stays the last one as long as there is no other and the connection lasts. -/
theorem snoc (last : ActivatedLast start history name expiration access)
    (lasting : ¬ moment.event.renews name)
    (idle : ∀ expiration access, ¬ (start.after history).Activates moment name expiration access) :
    ActivatedLast start (history ++ [moment]) name expiration access := by
  obtain ⟨before, first, later, rfl, activates, calm⟩ := last
  refine ⟨before, first, later ++ [moment], by simp, activates, fun between next rest split => ?_⟩
  rcases List.eq_nil_or_concat rest with rfl | ⟨earlier, ending, rfl⟩
  · obtain ⟨rfl, same⟩ := List.append_inj' split rfl
    obtain rfl : moment = next := by simpa using same
    exact ⟨lasting, idle⟩
  · rw [List.concat_eq_append, ← List.cons_append, ← List.append_assoc] at split
    obtain ⟨rfl, -⟩ := List.append_inj' split rfl
    exact calm between next earlier rfl

/-- What an activation grants lasts until the license of the node expires. -/
theorem expires (last : ActivatedLast start history name expiration access) :
    start.settings.licenseKey.bind License.expireTime = some expiration := by
  obtain ⟨before, first, later, -, activates, -⟩ := last
  obtain ⟨-, -, -, -, licensed, expires, -, -, -⟩ := activates
  rw [after_settings] at licensed
  rw [licensed, Option.bind_some, expires]

end ActivatedLast

/-- A verified session has been activated, and has what its last activation granted. -/
theorem activatedLast_of_verified (start : Node) (empty : start.sessions = [])
    (history : List Moment) {name : String} {session : Session}
    (listed : (name, session) ∈ (start.after history).sessions)
    (verified : session.verified = true) :
    ActivatedLast start history name session.expiration session.access := by
  induction history using List.reverseRecOn generalizing session with
  | nil => simp [empty] at listed
  | append_singleton history moment inductionHypothesis =>
    rw [after_append, after_cons, after_nil] at listed
    cases session_step listed with
    | opened peer connected => cases verified
    | activated present activates => exact .of_activates activates
    | kept pending present lasting idle =>
      exact (inductionHypothesis present verified).snoc lasting idle

section unlicensed

variable {settings : Settings} {start : Int}
  (lapsed : ∀ license, settings.licenseKey = some license → License.isActive license start = false)
include lapsed

/-- Nothing activates a session of a node whose license is over. -/
theorem not_activates_of_lapsed {node : Node} (same : node.settings = settings) {moment : Moment}
    (late : start ≤ moment.around.now) {name : String} (expiration : Int) (access : Access) :
    ¬ node.Activates moment name expiration access := by
  rintro ⟨-, -, -, -, licensed, expires, good, -, -⟩
  have ended := lapsed _ (same ▸ licensed)
  simp only [License.isActive, expires, decide_eq_false_iff_not] at ended
  exact ended (Int.lt_of_le_of_lt late good)

/-- So no session is ever verified. -/
theorem unverified_of_lapsed {history : List Moment}
    (late : ∀ moment ∈ history, start ≤ moment.around.now) {name : String} {session : Session}
    (listed : (name, session) ∈ ((ofSettings settings).after history).sessions) :
    session.verified = false := by
  rw [Bool.eq_false_iff]
  intro verified
  obtain ⟨before, moment, later, rfl, activates, -⟩ :=
    activatedLast_of_verified (ofSettings settings) rfl history listed verified
  have stillLate := late moment (List.mem_append_right before List.mem_cons_self)
  exact not_activates_of_lapsed lapsed (after_settings _ _) stillLate _ _ activates

end unlicensed

/-- What is about a worker goes to no session. -/
theorem unaskedFor?_of_worker {effect : Effect} {serial : Nat}
    (about : effect.worker? = some serial) : effect.unaskedFor? = none := by
  unfold Effect.worker? at about
  split at about
  · rfl
  · rfl
  · rfl
  · rfl
  · rfl
  · cases about

/-- In every history, messages that nobody asked for go to verified sessions only. -/
theorem verified_of_unaskedFor (settings : Settings) (history : List Moment) (moment : Moment)
    {effect : Effect}
    (wanted : effect ∈ (((ofSettings settings).after history).step moment).effects)
    {name : String} (unasked : effect.unaskedFor? = some name) :
    ∃ session, (name, session) ∈ ((ofSettings settings).after history).sessions ∧
      session.verified = true := by
  have life := after_lifecycle settings history
  rcases (step_follows _ moment).wanted effect wanted with called | aside
  · obtain ⟨serial, about⟩ := (life.run_about _).1 effect called
    rw [unaskedFor?_of_worker about] at unasked
    cases unasked
  · cases aside with
    | told listed verified message =>
      cases message with
      | response response => cases unasked
      | request request => cases unasked; exact ⟨_, listed, verified⟩
      | notification notification => cases unasked; exact ⟨_, listed, verified⟩
    | reply channel response => cases channel <;> cases unasked
    | _ => cases unasked

/-- All that a session without verification can call is a stop of all workers. -/
theorem calls_of_unverified {node : Node} {name : String}
    (unverified : (node.session? name).any Session.verified = false) (around : Surroundings)
    (files : FileTree) (message : Rpc.Message) :
    ∀ operation ∈ node.calls ⟨around, files, .heard name message⟩,
      operation = .stopAll node.outbox := by
  intro operation called
  cases message with
  | notification notification => cases called
  | response response => cases called
  | request request =>
    obtain ⟨method, -, passed, called⟩ := of_mem_requestCalls called
    by_cases closed : method.guard = .anyone ∨ method.guard = .verifiedOrLocal
    · rcases closed with opened | opened
      · cases Method.eq_activate_of_guard opened
        cases called
      · cases Method.eq_stopService_of_guard opened
        obtain ⟨delay, -, called⟩ := List.mem_flatMap.mp called
        exact eq_stopAll_of_mem_shutdownCalls called
    · rw [not_or] at closed
      rw [Guard.check_of_unverified unverified closed.1 fun opened =>
        absurd opened closed.2] at passed
      cases passed

/-- Hence such a session launches no worker, and no serial number is handed out for it. -/
theorem launches_nothing_of_unverified (settings : Settings) (history : List Moment)
    {name : String}
    (unverified : (((ofSettings settings).after history).session? name).any Session.verified =
      false) (around : Surroundings) (files : FileTree) (message : Rpc.Message) :
    let turn := ((ofSettings settings).after history).step ⟨around, files, .heard name message⟩
    launchedSerials turn.effects = [] ∧
      turn.node.supervisor.nextSerial =
        ((ofSettings settings).after history).supervisor.nextSerial := by
  have life := after_lifecycle settings history
  have follows := step_follows ((ofSettings settings).after history)
    ⟨around, files, .heard name message⟩
  have stops := calls_of_unverified unverified around files message
  have still := (life.run_about _).2 fun operation called _ _ _ created => by
    rw [stops operation called] at created
    cases created
  exact ⟨follows.launches.trans still.1, by rw [follows.supervisor, still.2]⟩

section gone

variable {node : Node} {name : String}

/-- A name without a session gets one by a connection only. -/
theorem session?_none_after (gone : node.session? name = none) (later : List Moment)
    (unconnected : ∀ moment ∈ later, ∀ peer, moment.event ≠ .connected name peer) :
    (node.after later).session? name = none := by
  induction later generalizing node with
  | nil => exact gone
  | cons moment rest inductionHypothesis =>
    refine inductionHypothesis (session?_eq_none_iff.mpr fun session listed => ?_)
      fun other member => unconnected other (List.mem_cons_of_mem moment member)
    have absent := session?_eq_none_iff.mp gone
    cases session_step listed with
    | opened peer connected => exact unconnected moment List.mem_cons_self peer connected
    | activated present activates => exact absent _ present
    | kept pending present lasting idle => exact absent _ present

/-- What is still sent in the name of a session that is gone changes nothing. -/
theorem step_of_session?_none (gone : node.session? name = none) (around : Surroundings)
    (files : FileTree) (message : Rpc.Message) :
    (node.step ⟨around, files, .heard name message⟩).node = node ∧
      (node.step ⟨around, files, .heard name message⟩).files = files := by
  simp only [step]
  cases message with
  | notification notification => exact ⟨rfl, rfl⟩
  | response response => simp only [receive, answered, gone, and_self]
  | request request =>
    by_cases method : request.method = Method.activate.name
    · refine receive_of_not_activates method fun expiration access => ?_
      rintro ⟨-, -, -, -, -, -, -, present, -⟩
      simp [gone] at present
    · have refused : Refused node around files name request _ :=
        .of_unverified (by rw [gone]; rfl) method (by simp [gone])
      obtain ⟨error, -, -, sameNode, sameFiles, -⟩ := refused
      exact ⟨sameNode, sameFiles⟩

end gone

/-- What verification in a node after a history rests on. -/
structure Provenance (settings : Settings) (history : List Moment) (node : Node) : Prop where
  /-- A verified session has what its last activation granted, until the license expires. -/
  granted : ∀ name session, node.session? name = some session → session.verified = true →
    ActivatedLast (ofSettings settings) history name session.expiration session.access ∧
      settings.licenseKey.bind License.expireTime = some session.expiration
  /-- A request to activate that does not activate changes nothing. -/
  failed : ∀ around files name request, request.method = Method.activate.name →
    (∀ expiration access, ¬ node.Activates ⟨around, files, .heard name (.request request)⟩ name
      expiration access) →
    (node.step ⟨around, files, .heard name (.request request)⟩).node = node ∧
      (node.step ⟨around, files, .heard name (.request request)⟩).files = files
  /-- Without a license, or with one that was over at the start, no session is verified or
  told anything that it did not ask for, and none launches a worker. -/
  unlicensed : ∀ start,
    (∀ license, settings.licenseKey = some license → License.isActive license start = false) →
    (∀ moment ∈ history, start ≤ moment.around.now) →
    (∀ name session, (name, session) ∈ node.sessions → session.verified = false) ∧
      (∀ moment, ∀ effect ∈ (node.step moment).effects, effect.unaskedFor? = none) ∧
      ∀ around files name message,
        let turn := node.step ⟨around, files, .heard name message⟩
        launchedSerials turn.effects = [] ∧
          turn.node.supervisor.nextSerial = node.supervisor.nextSerial
  dropped : ∀ around files name,
    (node.step ⟨around, files, .dropped name⟩).node.session? name = none
  /-- A session that is gone stays gone, and what is sent in its name changes nothing. -/
  gone : ∀ name, node.session? name = none → ∀ later,
    (∀ moment ∈ later, ∀ peer, moment.event ≠ .connected name peer) →
    (node.after later).session? name = none ∧
      ∀ around files message,
        ((node.after later).step ⟨around, files, .heard name message⟩).node = node.after later ∧
          ((node.after later).step ⟨around, files, .heard name message⟩).files = files

/-- After every history, verification rests on activations. -/
theorem provenance_after (settings : Settings) (history : List Moment) :
    Provenance settings history ((ofSettings settings).after history) where
  granted := by
    intro name session found verified
    have last := activatedLast_of_verified (ofSettings settings) rfl history
      (mem_of_session? found) verified
    exact ⟨last, last.expires⟩
  failed := fun around files name request method idle => receive_of_not_activates method idle
  unlicensed := by
    intro start lapsed late
    have unverified : ∀ name session,
        (name, session) ∈ ((ofSettings settings).after history).sessions →
          session.verified = false :=
      fun name session listed => unverified_of_lapsed lapsed late listed
    refine ⟨unverified, fun moment effect wanted => ?_, fun around files name message => ?_⟩
    · cases unasked : effect.unaskedFor? with
      | none => rfl
      | some name =>
        obtain ⟨session, listed, verified⟩ :=
          verified_of_unaskedFor settings history moment wanted unasked
        exact absurd (verified.symm.trans (unverified name session listed)) (by simp)
    · refine launches_nothing_of_unverified settings history ?_ around files message
      cases found : ((ofSettings settings).after history).session? name with
      | none => rfl
      | some session => exact unverified name session (mem_of_session? found)
  dropped := by
    intro around files name
    refine session?_eq_none_iff.mpr fun session listed => ?_
    simpa using (List.mem_filter.mp listed).2
  gone := by
    intro name gone later unconnected
    have stillGone := session?_none_after gone later unconnected
    exact ⟨stillGone, fun around files message =>
      step_of_session?_none stillGone around files message⟩

/-- The session that started a relay has full access from its activation. -/
theorem provenance_after_relay :
    ActivatedLast (ofSettings relaySettings) relayHistory "c" 5000 .full := by
  have verified : (((ofSettings relaySettings).after relayHistory).session? "c").map
      (fun session => (session.verified, session.expiration, session.access)) =
        some (true, 5000, .full) := by decide +kernel
  obtain ⟨session, found, facts⟩ := Option.map_eq_some_iff.mp verified
  obtain ⟨verified, expiration, access⟩ : session.verified = true ∧ session.expiration = 5000 ∧
      session.access = .full := by simpa using facts
  have last := ((provenance_after relaySettings relayHistory).granted "c" session found verified).1
  rwa [expiration, access] at last

end Node
end MediaNode
