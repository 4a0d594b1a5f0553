import MediaNode.Proofs.Node.Sessions
import MediaNode.Proofs.Node.Ticks

/-!
# The table of sessions

There is one session under a name, and the sessions are those that can be sent to. What becomes
of the session of a name at a moment is said by `Becomes`, for names with a session and for names
without one: it is opened or closed by its connection, activated by a request, relieved of a
question by a response, and treated by the rounds of questions. At all other moments it is left
alone.
-/
namespace MediaNode.Node

variable {node : Node}

/-- That the sessions of a node are those that can be sent to, each under its own name. -/
structure Registered (node : Node) : Prop where
  keys : node.sessions.map Prod.fst = node.senders
  distinct : node.senders.Nodup

/-- A node whose table has the same names in the same order is as good. -/
theorem Registered.of_names {after : Node} (registered : node.Registered)
    (names : after.sessions.map Prod.fst = node.sessions.map Prod.fst)
    (senders : after.senders = node.senders) : after.Registered :=
  ⟨by rw [names, senders, registered.keys], senders ▸ registered.distinct⟩

/-- Dropping an entry from both tables keeps them alike. -/
theorem map_filter_names (sessions : List (String × Session)) (name : String) :
    (sessions.filter (·.fst ≠ name)).map Prod.fst = (sessions.map Prod.fst).filter (· ≠ name) := by
  rw [List.filter_map]
  rfl

/-- Who is registered can be sent to. -/
theorem Registered.known (registered : node.Registered) :
    ∀ entry ∈ node.sessions, node.senders.contains entry.fst = true := by
  intro entry listed
  rw [← registered.keys]
  exact List.contains_iff_mem.mpr (List.mem_map_of_mem listed)

/-- Whoever has a session can be sent to, and nobody else. -/
theorem Registered.known_iff (registered : node.Registered) {name : String} :
    node.senders.contains name = true ↔ (node.session? name).isSome = true := by
  cases found : node.session? name with
  | none =>
    rw [session?_eq_none_iff] at found
    rw [← registered.keys]
    refine iff_of_false (fun listed => ?_) Bool.false_ne_true
    obtain ⟨⟨_, session⟩, member, rfl⟩ := List.mem_map.mp (List.contains_iff_mem.mp listed)
    exact found session member
  | some session => exact iff_of_true (registered.known _ (mem_of_session? found)) rfl

/-- Putting a session in its place renames nothing. -/
theorem names_setSession (name : String) (session : Session) :
    (node.setSession name session).sessions.map Prod.fst = node.sessions.map Prod.fst := by
  simp only [setSession, List.map_map]
  refine List.map_congr_left fun entry _ => ?_
  simp only [Function.comp]
  split <;> simp_all

/-- What a session says leaves the names. -/
theorem names_receive (around : Surroundings) (files : FileTree) (name : String)
    (message : Rpc.Message) :
    (node.receive around files name message).node.sessions.map Prod.fst =
      node.sessions.map Prod.fst := by
  cases message with
  | notification notification => rfl
  | response response =>
    simp only [receive, answered]
    split
    · rfl
    · exact names_setSession name _
  | request request =>
    by_cases activates : ∃ expiration access, node.Activates
        ⟨around, files, .heard name (.request request)⟩ name expiration access
    · obtain ⟨expiration, access, activates⟩ := activates
      obtain ⟨session, -, sessions⟩ := sessions_of_activates activates
      rw [sessions, names_setSession]
    · rw [sessions_of_not_activates fun expiration access activated =>
        activates ⟨expiration, access, activated⟩]

/-- It also leaves who can be sent to. -/
theorem senders_receive (around : Surroundings) (files : FileTree) (name : String)
    (message : Rpc.Message) :
    (node.receive around files name message).node.senders = node.senders := by
  cases message with
  | notification notification => rfl
  | response response =>
    simp only [receive, answered]
    split <;> rfl
  | request request =>
    cases identified : request.id.isNone with
    | true => simp only [receive, identified, if_true]
    | false =>
      rw [(node.receive_request around files name identified).1]
      have answered := node.handle_answered around files name request
      generalize (node.handle around files name request).fst = turn,
        (node.handle around files name request).snd = response at answered
      cases answered with
      | unknown unnamed => rfl
      | refused named stopped => rfl
      | failed named passed failed => rfl
      | done named passed performed =>
        cases performed with
        | activated read licensed expires good found left silent => rw [left]; rfl
        | closing read begun => rw [beginShutdown_frame begun]
        | linked vodLinks codLinks => rfl
        | told result => rfl
        | deferred job idle => rfl
        | supervised called outbox => rfl

/-- Every chore but the questions leaves who can be sent to. -/
theorem senders_doChore (around : Surroundings) (files : FileTree) {chore : Chore}
    (other : chore ≠ .ping) : (node.doChore around files chore).node.senders = node.senders := by
  cases chore with
  | ping => exact absurd rfl other
  | reap =>
    simp only [doChore, reap]
    rw [reapEach_frame]
    rfl
  | sweep => rfl
  | report => rfl
  | license =>
    simp only [doChore, checkLicense]
    split
    · rfl
    · split
      · next begun => rw [beginShutdown_frame begun]
      · rfl

/-- A round of questions forgets sessions in both tables. -/
theorem Registered.ping (registered : node.Registered) (now : Int) :
    (node.ping now).fst.Registered := by
  obtain ⟨-, left⟩ := node.names_pingEach (.ofMembers [("timestamp", .int now)]) node.outbox
    (registered.keys ▸ registered.distinct) registered.known
  rw [registered.keys] at left
  exact ⟨left, registered.distinct.filter _⟩

/-- At every moment the tables stay alike. -/
theorem Registered.step (registered : node.Registered) (moment : Moment) :
    (node.step moment).node.Registered := by
  obtain ⟨around, files, event⟩ := moment
  cases event with
  | connected name peer =>
    constructor
    · have appended : ((node.sessions.filter (·.fst ≠ name)) ++
          [(name, ({ peer } : Session))]).map Prod.fst =
            node.senders.filter (· ≠ name) ++ [name] := by
        rw [List.map_append, map_filter_names, registered.keys]
        rfl
      exact appended
    · change (node.senders.filter (· ≠ name) ++ [name]).Nodup
      refine List.nodup_append.mpr ⟨registered.distinct.filter _, List.nodup_singleton name, ?_⟩
      rintro other kept _ new rfl
      rw [List.mem_singleton.mp new] at kept
      simp at kept
  | dropped name =>
    constructor
    · change (node.sessions.filter (·.fst ≠ name)).map Prod.fst = node.senders.filter (· ≠ name)
      rw [map_filter_names, registered.keys]
    · exact registered.distinct.filter _
  | hungUp channel => exact registered.of_names rfl rfl
  | heard name message =>
    exact registered.of_names (names_receive around files name message)
      (senders_receive around files name message)
  | commanded command =>
    refine registered.of_names ?_ ?_ <;> simp only [Node.step] <;> rw [apply_frame]
  | due chore =>
    by_cases question : chore = .ping
    · subst question
      exact registered.ping around.now
    · refine registered.of_names ?_ (senders_doChore around files question)
      simp only [Node.step, sessions_doChore around files question]

/-- So they are alike in every history. -/
theorem registered_after (settings : Settings) (history : List Moment) :
    ((ofSettings settings).after history).Registered := by
  have kept : ∀ (history : List Moment) {node : Node}, node.Registered →
      (node.after history).Registered := by
    intro history
    induction history with
    | nil => exact id
    | cons moment later inductionHypothesis =>
      exact fun registered => inductionHypothesis (registered.step moment)
  exact kept history ⟨rfl, .nil⟩

/-- An entry under another name is passed over. -/
theorem lookup_cons_of_ne {name first : String} (other : name ≠ first) (session : Session)
    (rest : List (String × Session)) :
    ((first, session) :: rest).lookup name = rest.lookup name := by
  rw [List.lookup_cons, beq_false_of_ne other]

/-- Looking up in a table without one name. -/
theorem lookup_filter_names (sessions : List (String × Session)) (dropped name : String) :
    (sessions.filter (·.fst ≠ dropped)).lookup name =
      if name = dropped then none else sessions.lookup name := by
  induction sessions with
  | nil => simp
  | cons entry rest inductionHypothesis =>
    obtain ⟨first, session⟩ := entry
    by_cases gone : first = dropped
    · rw [List.filter_cons_of_neg (by simp [gone]), inductionHypothesis]
      split
      · rfl
      · next other => rw [lookup_cons_of_ne (gone ▸ other)]
    · rw [List.filter_cons_of_pos (by simp [gone])]
      by_cases here : name = first
      · subst here
        rw [if_neg gone, List.lookup_cons_self, List.lookup_cons_self]
      · rw [lookup_cons_of_ne here, lookup_cons_of_ne here, inductionHypothesis]

/-- Whoever connects has a new session, and nobody else's session changes. -/
theorem session?_connect (name other : String) (peer : Peer) :
    (node.connect name peer).session? other =
      if other = name then some { peer } else node.session? other := by
  have found : (node.connect name peer).session? other =
      ((node.sessions.filter (·.fst ≠ name)).lookup other).or
        ([(name, ({ peer } : Session))].lookup other) := List.lookup_append
  rw [found, lookup_filter_names]
  by_cases here : other = name
  · simp [here]
  · rw [if_neg here, if_neg here, lookup_cons_of_ne here, List.lookup_nil, Option.or_none]
    rfl

/-- Whoever is disconnected has no session. -/
theorem session?_disconnect (name other : String) :
    (node.disconnect name).session? other = if other = name then none else node.session? other :=
  lookup_filter_names node.sessions name other

/-- A session that is put in its place is found there. -/
theorem session?_setSession (name other : String) (session : Session) :
    (node.setSession name session).session? other =
      if other = name then (node.session? name).map fun _ => session else node.session? other := by
  simp only [session?, setSession]
  induction node.sessions with
  | nil => simp
  | cons entry rest inductionHypothesis =>
    obtain ⟨first, old⟩ := entry
    rw [List.map_cons]
    by_cases here : other = first
    · subst here
      by_cases same : other = name <;> simp [same]
    · by_cases same : first = name
      · subst same
        simp only [if_true, lookup_cons_of_ne here, inductionHypothesis, if_neg here]
      · simp only [if_neg same, lookup_cons_of_ne here, inductionHypothesis,
          lookup_cons_of_ne (Ne.symm same)]

/-- What is told with the question whether a client is still there. -/
def timestamp (now : Int) : Json := .ofMembers [("timestamp", .int now)]

/-- What becomes of the session of a name at a moment. -/
inductive Becomes (node : Node) (moment : Moment) (name : String) :
    Option Session → Option Session → Prop where
  | opened {old : Option Session} {peer : Peer} (connected : moment.event = .connected name peer) :
      Becomes node moment name old (some { peer })
  | closed {old : Option Session} (dropped : moment.event = .dropped name) :
      Becomes node moment name old none
  | activated {session : Session} {expiration : Int} {access : Access}
      (activates : node.Activates moment name expiration access) :
      Becomes node moment name (some session) (some (session.activate expiration access))
  | answered {old : Option Session} {response : Rpc.Response}
      (heard : moment.event = .heard name (.response response)) :
      Becomes node moment name old (old.map fun session => (session.takePending response.id).fst)
  | ticked {old new : Option Session} (due : moment.event = .due .ping)
      (ticked : Ticked node.outbox (node.step moment).node.outbox (timestamp moment.around.now)
        name old new (messagesTo name (node.step moment).effects)) :
      Becomes node moment name old new
  | kept {old : Option Session} (lasting : ¬ moment.event.renews name)
      (unanswering : ∀ response, moment.event ≠ .heard name (.response response))
      (undue : moment.event ≠ .due .ping) : Becomes node moment name old old

section becomes

variable {name : String}

/-- A round of questions treats the session of every name by the rule. -/
theorem ticked_step (registered : node.Registered) {moment : Moment}
    (due : moment.event = .due .ping) (name : String) :
    Ticked node.outbox (node.step moment).node.outbox (timestamp moment.around.now) name
      (node.session? name) ((node.step moment).node.session? name)
      (messagesTo name (node.step moment).effects) := by
  obtain ⟨around, files, event⟩ := moment
  cases due
  exact pingEach_ticked (timestamp around.now) node.outbox
    (registered.keys ▸ registered.distinct) registered.known name

/-- What a session says is about that session. -/
theorem becomes_heard (around : Surroundings) (files : FileTree) (speaker : String)
    (message : Rpc.Message) :
    Becomes node ⟨around, files, .heard speaker message⟩ name (node.session? name)
      ((node.receive around files speaker message).node.session? name) := by
  have kept (unanswering : ∀ response, name = speaker → message ≠ .response response) :
      Becomes node ⟨around, files, .heard speaker message⟩ name (node.session? name)
        (node.session? name) :=
    .kept not_false (fun response same => by cases same; exact unanswering response rfl rfl)
      Event.noConfusion
  cases message with
  | notification notification => exact kept fun _ _ => Rpc.Message.noConfusion
  | response response =>
    by_cases own : name = speaker
    · subst own
      have relieved : (node.receive around files name (.response response)).node.session? name =
          (node.session? name).map fun session => (session.takePending response.id).fst := by
        simp only [receive, answered]
        cases found : node.session? name with
        | none => exact found
        | some session => simp only [session?_setSession, if_true, found, Option.map_some]
      rw [relieved]
      exact .answered rfl
    · have untouched : (node.receive around files speaker (.response response)).node.session? name =
          node.session? name := by
        simp only [receive, answered]
        split
        · rfl
        · rw [session?_setSession, if_neg own]
      rw [untouched]
      exact kept fun _ same => absurd same own
  | request request =>
    by_cases activates : ∃ expiration access, node.Activates
        ⟨around, files, .heard speaker (.request request)⟩ speaker expiration access
    · obtain ⟨expiration, access, activates⟩ := activates
      obtain ⟨session, found, sessions⟩ := sessions_of_activates activates
      have changed : (node.receive around files speaker (.request request)).node.session? name =
          (node.setSession speaker (session.activate expiration access)).session? name := by
        rw [session?, sessions, session?]
      rw [changed, session?_setSession]
      by_cases own : name = speaker
      · subst own
        rw [if_pos rfl, found]
        exact .activated activates
      · rw [if_neg own]
        exact kept fun _ _ => Rpc.Message.noConfusion
    · have untouched : (node.receive around files speaker (.request request)).node.session? name =
          node.session? name := by
        rw [session?, sessions_of_not_activates fun expiration access activated =>
          activates ⟨expiration, access, activated⟩, session?]
      rw [untouched]
      exact kept fun _ _ => Rpc.Message.noConfusion

/-- Whatever happens at a moment, the session of every name comes out of it in one of these
ways. -/
theorem becomes_step (registered : node.Registered) (moment : Moment) (name : String) :
    Becomes node moment name (node.session? name) ((node.step moment).node.session? name) := by
  obtain ⟨around, files, event⟩ := moment
  cases event with
  | connected other peer =>
    simp only [Node.step, session?_connect]
    by_cases own : name = other
    · subst own
      rw [if_pos rfl]
      exact .opened rfl
    · rw [if_neg own]
      exact .kept (fun same => own same.symm) (by simp) Event.noConfusion
  | dropped other =>
    simp only [Node.step, session?_disconnect]
    by_cases own : name = other
    · subst own
      rw [if_pos rfl]
      exact .closed rfl
    · rw [if_neg own]
      exact .kept (fun same => own same.symm) (by simp) Event.noConfusion
  | hungUp channel => exact .kept not_false (by simp) Event.noConfusion
  | heard speaker message => exact becomes_heard around files speaker message
  | commanded command =>
    have same : (node.apply around files command).node.session? name = node.session? name := by
      rw [session?, sessions_apply, session?]
    simp only [Node.step, same]
    exact .kept not_false (by simp) Event.noConfusion
  | due chore =>
    by_cases question : chore = .ping
    · subst question
      exact .ticked rfl (ticked_step registered rfl name)
    · have same : (node.doChore around files chore).node.session? name = node.session? name := by
        rw [session?, sessions_doChore around files question, session?]
      simp only [Node.step, same]
      exact .kept not_false (by simp) (by simpa using question)

end becomes

end MediaNode.Node
