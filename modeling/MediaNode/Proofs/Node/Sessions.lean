import MediaNode.Proofs.Node.Frame
import MediaNode.Proofs.Node.History

/-!
# What happens to sessions

`session_step` says once what a moment can do to the session of a name: it was just
opened, it was just activated, or it is as it was but for the questions that it has not
answered. Verification and access therefore come from activations alone, and a name
without a session gets one by a connection only.
-/
namespace MediaNode

/-- Only the word `verify` limits the access, in any case of its letters. -/
theorem Access.ofRequest_eq_verifyOnly_iff (word : Option String) :
    ofRequest word = .verifyOnly ↔ word.map Text.asciiLower = some "verify" := by
  cases word with
  | none => simp [ofRequest]
  | some text =>
    by_cases limits : Text.asciiLower text = "verify" <;> simp [ofRequest, limits]

/-- Two accesses are the same when both limit or neither does. -/
theorem Access.eq_of_verifyOnly_iff {one other : Access}
    (same : one = .verifyOnly ↔ other = .verifyOnly) : one = other := by
  cases one <;> cases other <;> simp_all

/-- Whether an event begins or ends the connection of a name. -/
def Event.renews (name : String) : Event → Prop
  | .connected other _ | .dropped other => other = name
  | _ => False

namespace Node

variable {node : Node}

/-- A session that is found is listed. -/
theorem mem_of_session? {name : String} {session : Session}
    (found : node.session? name = some session) : (name, session) ∈ node.sessions := by
  obtain ⟨before, later, split, -⟩ := List.lookup_eq_some_iff.mp found
  rw [split]
  exact List.mem_append_right before List.mem_cons_self

/-- A name has no session when none is listed under it. -/
theorem session?_eq_none_iff {name : String} :
    node.session? name = none ↔ ∀ session, (name, session) ∉ node.sessions := by
  rw [session?, List.lookup_eq_none_iff]
  constructor
  · intro others session listed
    simpa using others (name, session) listed
  · intro absent entry listed
    obtain ⟨other, session⟩ := entry
    have different : name ≠ other := by
      rintro rfl
      exact absent session listed
    simpa using different

/-- Putting a session in its place changes the entries of its name alone. -/
theorem of_mem_setSession {name other : String} {session after : Session}
    (listed : (other, after) ∈ (node.setSession name session).sessions) :
    (other = name ∧ after = session) ∨ (other ≠ name ∧ (other, after) ∈ node.sessions) := by
  obtain ⟨⟨old, before⟩, member, changed⟩ := List.mem_map.mp listed
  by_cases same : old = name
  · simp only [same, if_true, Prod.mk.injEq] at changed
    exact .inl ⟨changed.1.symm, changed.2.symm⟩
  · simp only [same, if_false, Prod.mk.injEq] at changed
    obtain ⟨rfl, rfl⟩ := changed
    exact .inr ⟨same, member⟩

/-- The event of a moment activates the session of a name: a request with the license of
the node, made before it expires. The access is limited exactly when the request says so. -/
inductive Activates (node : Node) (moment : Moment) (name : String) (expiration : Int)
    (access : Access) : Prop where
  | intro {request : Rpc.Request} {license : String} {word : Option String}
      (asked : moment.event = .heard name (.request request))
      (identified : request.id.isNone = false) (method : request.method = Method.activate.name)
      (read : Request.params Request.activation request.params = .ok (license, word))
      (licensed : node.settings.licenseKey = some license)
      (expires : License.expireTime license = some expiration)
      (good : moment.around.now < expiration) (present : (node.session? name).isSome = true)
      (granted : access = .verifyOnly ↔ word.map Text.asciiLower = some "verify")

section requests

variable {around : Surroundings} {files : FileTree} {name : String} {request : Rpc.Request}

/-- A request that activates verifies its session, and changes no other. -/
theorem sessions_of_activates {expiration : Int} {access : Access}
    (activates : node.Activates ⟨around, files, .heard name (.request request)⟩ name expiration
      access) :
    ∃ session, node.session? name = some session ∧
      (node.receive around files name (.request request)).node.sessions =
        (node.setSession name (session.activate expiration access)).sessions := by
  obtain ⟨asked, identified, method, read, licensed, expires, good, present, granted⟩ := activates
  cases asked
  obtain ⟨session, found⟩ := Option.isSome_iff_exists.mp present
  have named : Method.ofName? request.method = some .activate := by rw [method]; rfl
  have performed := Request.activate_eq_ok_iff.mpr
    ⟨_, _, expiration, session, read, licensed, expires, good, found, rfl⟩
  obtain rfl := Access.eq_of_verifyOnly_iff
    (granted.trans (Access.ofRequest_eq_verifyOnly_iff _).symm)
  refine ⟨session, found, ?_⟩
  simp only [receive, identified, handle, Request.dispatch, named, Method.guard, Guard.check,
    Request.perform, performed, Bool.false_eq_true, if_false]
  rfl

/-- An activation that succeeds activates. -/
theorem activates_of_activate {license : String} {word : Option String} {expiration : Int}
    {session : Session} (identified : request.id.isNone = false)
    (method : request.method = Method.activate.name)
    (read : Request.params Request.activation request.params = .ok (license, word))
    (licensed : node.settings.licenseKey = some license)
    (expires : License.expireTime license = some expiration) (good : around.now < expiration)
    (found : node.session? name = some session) :
    node.Activates ⟨around, files, .heard name (.request request)⟩ name expiration
      (.ofRequest word) :=
  .intro rfl identified method read licensed expires good (by rw [found]; rfl)
    (Access.ofRequest_eq_verifyOnly_iff word)

/-- A request that does not activate leaves all sessions alone. -/
theorem sessions_of_not_activates
    (idle : ∀ expiration access, ¬ node.Activates
      ⟨around, files, .heard name (.request request)⟩ name expiration access) :
    (node.receive around files name (.request request)).node.sessions = node.sessions := by
  cases identified : request.id.isNone with
  | true => simp only [receive, identified, if_true]
  | false =>
    rw [(node.receive_request around files name identified).1]
    have answered := node.handle_answered around files name request
    generalize (node.handle around files name request).fst = turn,
      (node.handle around files name request).snd = response at answered
    cases answered with
    | unknown unnamed => rfl
    | refused named stopped => rfl
    | failed named passed failed => rfl
    | done named passed performed =>
      cases performed with
      | activated read licensed expires good found =>
        have method := (Method.name_of_ofName? named).symm
        exact absurd (activates_of_activate identified method read licensed expires good found)
          (idle _ _)
      | closing read begun => exact (beginShutdown_eq_ok begun).2
      | linked vodLinks codLinks => rfl
      | told result => rfl
      | deferred job idle => rfl
      | supervised called outbox => rfl

/-- A request to activate that does not activate leaves everything alone. -/
theorem receive_of_not_activates (method : request.method = Method.activate.name)
    (idle : ∀ expiration access, ¬ node.Activates
      ⟨around, files, .heard name (.request request)⟩ name expiration access) :
    (node.receive around files name (.request request)).node = node ∧
      (node.receive around files name (.request request)).files = files := by
  have named : Method.ofName? request.method = some .activate := by rw [method]; rfl
  cases identified : request.id.isNone with
  | true => simp only [receive, identified, if_true, and_self]
  | false =>
    cases performed : Request.activate around node name request.params with
    | error fault =>
      simp only [receive, identified, handle, Request.dispatch, named, Method.guard, Guard.check,
        Request.perform, performed, Request.conclude_error, Bool.false_eq_true, if_false, and_self]
    | ok handled =>
      obtain ⟨license, word, expiration, session, read, licensed, expires, good, found, -⟩ :=
        Request.activate_eq_ok_iff.mp performed
      exact absurd (activates_of_activate identified method read licensed expires good found)
        (idle _ _)

end requests

/-- Every command does. -/
theorem sessions_apply (around : Surroundings) (files : FileTree) (command : Command) :
    (node.apply around files command).node.sessions = node.sessions := by
  rw [apply_frame]

/-- Looking for channels that nobody asks for does. -/
theorem sessions_reapEach (clock : Int) (ids : List String) :
    (node.reapEach clock ids).fst.sessions = node.sessions := by
  rw [reapEach_frame]
  rfl

/-- So does every chore but the questions. -/
theorem sessions_doChore (around : Surroundings) (files : FileTree) {chore : Chore}
    (other : chore ≠ .ping) : (node.doChore around files chore).node.sessions = node.sessions := by
  cases chore with
  | ping => exact absurd rfl other
  | reap => exact sessions_reapEach around.clock _
  | sweep => rfl
  | report => rfl
  | license =>
    simp only [doChore, checkLicense]
    split
    · rfl
    · split
      next begun => exact (beginShutdown_eq_ok begun).2
      next => rfl

/-- What becomes of the session of a name at a moment. -/
inductive SessionStep (node : Node) (moment : Moment) (name : String) : Session → Prop where
  | opened (peer : Peer) (connected : moment.event = .connected name peer) :
      SessionStep node moment name { peer }
  | activated {session : Session} {expiration : Int} {access : Access}
      (listed : (name, session) ∈ node.sessions)
      (activates : node.Activates moment name expiration access) :
      SessionStep node moment name (session.activate expiration access)
  | kept {session : Session} (pending : Pending) (listed : (name, session) ∈ node.sessions)
      (lasting : ¬ moment.event.renews name)
      (idle : ∀ expiration access, ¬ node.Activates moment name expiration access) :
      SessionStep node moment name { session with pending }

section step

variable {moment : Moment} {name : String} {session : Session}

/-- A moment at which nobody speaks activates nobody. -/
theorem not_activates (unheard : ∀ message, moment.event ≠ .heard name message)
    (expiration : Int) (access : Access) : ¬ node.Activates moment name expiration access :=
  fun activates => by
    obtain ⟨asked, -⟩ := activates
    exact unheard _ asked

/-- A session may stay as it is. -/
theorem SessionStep.same (listed : (name, session) ∈ node.sessions)
    (lasting : ¬ moment.event.renews name)
    (idle : ∀ expiration access, ¬ node.Activates moment name expiration access) :
    SessionStep node moment name session :=
  .kept session.pending listed lasting idle

/-- What a session says concerns its own entry. -/
theorem session_step_heard (around : Surroundings) (files : FileTree) (speaker : String)
    (message : Rpc.Message)
    (listed : (name, session) ∈ (node.receive around files speaker message).node.sessions) :
    SessionStep node ⟨around, files, .heard speaker message⟩ name session := by
  have others : name ≠ speaker → ∀ expiration access, ¬ node.Activates
      ⟨around, files, .heard speaker message⟩ name expiration access := fun different =>
    not_activates fun other same => different (by cases same; rfl)
  have unrequested : (∀ request, message ≠ .request request) → ∀ expiration access,
      ¬ node.Activates ⟨around, files, .heard speaker message⟩ name expiration access := by
    rintro other expiration access ⟨asked, -⟩
    cases asked
    exact other _ rfl
  cases message with
  | notification notification => exact .same listed not_false (unrequested (by simp))
  | response response =>
    have idle := unrequested (by simp)
    simp only [receive, answered] at listed
    split at listed
    · exact .same listed not_false idle
    next speaking found =>
      rcases of_mem_setSession listed with ⟨rfl, rfl⟩ | ⟨different, listed⟩
      · exact .kept _ (mem_of_session? found) not_false idle
      · exact .same listed not_false idle
  | request request =>
    by_cases activates : ∃ expiration access, node.Activates
        ⟨around, files, .heard speaker (.request request)⟩ speaker expiration access
    · obtain ⟨expiration, access, activates⟩ := activates
      obtain ⟨before, found, sessions⟩ := sessions_of_activates activates
      rw [sessions] at listed
      rcases of_mem_setSession listed with ⟨rfl, rfl⟩ | ⟨different, listed⟩
      · exact .activated (mem_of_session? found) activates
      · exact .same listed not_false (others different)
    · have idle : ∀ expiration access, ¬ node.Activates
          ⟨around, files, .heard speaker (.request request)⟩ speaker expiration access :=
        fun expiration access activated => activates ⟨expiration, access, activated⟩
      rw [sessions_of_not_activates idle] at listed
      by_cases same : name = speaker
      · exact .same listed not_false (same ▸ idle)
      · exact .same listed not_false (others same)

/-- Whatever happens at a moment, the sessions after it come from it or from before in one
of these ways. -/
theorem session_step (listed : (name, session) ∈ (node.step moment).node.sessions) :
    SessionStep node moment name session := by
  obtain ⟨around, files, event⟩ := moment
  have unheard : (∀ speaker message, event ≠ .heard speaker message) → ∀ expiration access,
      ¬ node.Activates ⟨around, files, event⟩ name expiration access := fun other =>
    not_activates (other name)
  cases event with
  | connected other peer =>
    rcases List.mem_append.mp listed with old | isNew
    · obtain ⟨listed, different⟩ := List.mem_filter.mp old
      exact .same listed (fun same => of_decide_eq_true different same.symm) (unheard (by simp))
    · cases List.mem_singleton.mp isNew
      exact .opened peer rfl
  | dropped other =>
    obtain ⟨listed, different⟩ := List.mem_filter.mp listed
    exact .same listed (fun same => of_decide_eq_true different same.symm) (unheard (by simp))
  | hungUp channel => exact .same listed not_false (unheard (by simp))
  | heard speaker message => exact session_step_heard around files speaker message listed
  | commanded command =>
    rw [step, sessions_apply] at listed
    exact .same listed not_false (unheard (by simp))
  | due chore =>
    by_cases question : chore = .ping
    · subst question
      obtain ⟨before, pending, present, rfl⟩ := (pingEach_spec _ _ _).2 name session listed
      exact .kept pending present not_false (unheard (by simp))
    · rw [step, sessions_doChore around files question] at listed
      exact .same listed not_false (unheard (by simp))

end step

end Node
end MediaNode
