import MediaNode.Proofs.Node.Table

/-!
# What workers say

A worker asks, tells and answers. What it asks is answered once, over its own link if somebody
listens there. What it asks or tells under one of two methods is passed on, once to every session
that is verified and listens and to no other, whether its own link is open or not. What it answers
is passed on to nobody, and settles the request that it answers.

Nothing else becomes of it: a worker that was starting is running once it spoke, one that was asked
to end stays so, and no other part of the node changes.
-/
namespace MediaNode.Node

open Worker (Handle)

variable {node : Node} {name : String}

/-- The messages that get into a channel by some effects. -/
def sentInto (channel : Channel) (effects : List Effect) : List Rpc.Message :=
  effects.filterMap (Effect.messageTo channel)

/-- Whether somebody has a verified session under a name and listens to it. -/
def hears (node : Node) (name : String) : Bool :=
  (node.session? name).any Session.verified && node.outbox.isOpen (.session name)

/-- What is sent to one session reaches no other. -/
theorem sentInto_sendTo_of_ne {channel : Channel} (other : channel ≠ .session name)
    (message : Rpc.Message) : sentInto channel (node.sendTo name message) = [] := by
  refine List.filterMap_eq_nil_iff.mpr fun effect sent => ?_
  rw [eq_of_mem_sendTo sent]
  exact if_neg other.symm

/-- What is sent to a session that can be sent to reaches it if somebody listens. -/
theorem messagesTo_sendTo (known : node.senders.contains name = true) (message : Rpc.Message) :
    messagesTo name (node.sendTo name message) =
      if node.outbox.isOpen (.session name) then [message] else [] := by
  simp only [sendTo, channelOf, known, if_true, Outbox.send]
  split
  · simp [messagesTo, Effect.messageTo]
  · rfl

/-- A broadcast reaches every session that hears it once, and no other. -/
theorem messagesTo_broadcast (registered : node.Registered) (method : String)
    (params : Option Json) (name : String) :
    messagesTo name (node.broadcast method params) =
      if node.hears name then [.notification (.make method params)] else [] := by
  have distinct := registered.keys ▸ registered.distinct
  have known := registered.known
  unfold broadcast hears session?
  generalize node.sessions = sessions at distinct known ⊢
  induction sessions with
  | nil => rfl
  | cons entry rest inductionHypothesis =>
    obtain ⟨first, session⟩ := entry
    obtain ⟨fresh, distinct⟩ := List.nodup_cons.mp distinct
    obtain ⟨knownFirst, known⟩ := List.forall_mem_cons.mp known
    have later := inductionHypothesis distinct known
    rw [List.flatMap_cons, messagesTo_append, later]
    by_cases same : name = first
    · subst same
      rw [lookup_eq_none_of_not_mem fresh, List.lookup_cons_self]
      cases verified : session.verified with
      | false => simp [messagesTo, verified]
      | true => simp [messagesTo_sendTo knownFirst, verified]
    · have missed : messagesTo name (if session.verified then
          node.sendTo first (.notification (.make method params)) else []) = [] := by
        split
        · exact sentInto_sendTo_of_ne (fun channel => same (Channel.session.inj channel)) _
        · rfl
      rw [lookup_cons_of_ne same]
      exact (congrArg (· ++ _) missed).trans (List.nil_append _)

/-- The methods of workers that are news to sessions. -/
def IsNews (method : String) : Prop :=
  method = "changed_source_stream" ∨ method = "statistic_stream"

/-- Whether a method is news can be computed. -/
instance (method : String) : Decidable (IsNews method) :=
  inferInstanceAs (Decidable (_ ∨ _))

/-- The news in a message of a worker. -/
def news? : Rpc.Message → Option Rpc.Notification
  | .request request => if IsNews request.method then some (.make request.method request.params)
    else none
  | .notification notification => if IsNews notification.method then
      some (.make notification.method notification.params) else none
  | .response _ => none

/-- The answer to a message of a worker: requests with an id have one. -/
def answer? : Rpc.Message → Option Rpc.Response
  | .request request => request.id.map fun id =>
    if IsNews request.method then .success id (.obj []) else .failure id .methodNotFound
  | .notification _ => none
  | .response _ => none

/-- A worker once it spoke: it runs if it was starting, and what it answered is not pending. -/
def spoke (handle : Handle) (message : Rpc.Message) : Handle :=
  { handle with
    phase := if handle.phase = .starting then .running else handle.phase
    pending := match message with
      | .response response => handle.pending.filter (·.fst ≠ response.id)
      | _ => handle.pending }

/-- What becomes of a message of a worker. -/
structure Forwards (node : Node) (files : FileTree) (handle : Handle) (message : Rpc.Message)
    (turn : Turn) : Prop where
  /-- The worker gets the answer if the node holds its link and somebody listens there. -/
  answered : sentInto handle.channel turn.effects =
    if handle.linked && node.outbox.isOpen handle.channel then
      ((answer? message).map .response).toList
    else []
  /-- Whoever hears gets the news, and nobody else gets anything. -/
  told : ∀ name, messagesTo name turn.effects =
    if node.hears name then ((news? message).map .notification).toList else []
  /-- Nothing else is done. -/
  delivered : ∀ effect ∈ turn.effects, ∃ channel sent, effect = .deliver channel sent ∧
    (channel = handle.channel ∨ ∃ name, channel = .session name)
  /-- The handle of the worker is the only thing that changes. -/
  after : turn.node = { node with
    supervisor := node.supervisor.withRegistry
      (node.supervisor.registry.replace (spoke handle message)) }
  files : turn.files = files

/-- The methods that are passed on are news. -/
theorem isForwarded_iff {method : String} :
    Worker.Supervisor.isForwarded method = true ↔ IsNews method := by
  simp [Worker.Supervisor.isForwarded, Worker.Supervisor.forwardedMethods, IsNews]

/-- A worker that is heard spoke. -/
theorem heard_eq_spoke (handle : Handle) (message : Rpc.Message) :
    Worker.Supervisor.heard handle message = spoke handle message := by
  cases message <;> simp [Worker.Supervisor.heard, spoke, Handle.markRunning_eq, Pending.take]

/-- A message is answered over the link of the worker, if there is somebody to hear it. -/
theorem reaction_fst (outbox : Outbox) (handle : Handle) (message : Rpc.Message) :
    (Worker.Supervisor.reaction outbox handle message).fst =
      if handle.linked && outbox.isOpen handle.channel then
        ((answer? message).map fun response =>
          Effect.deliver handle.channel (.response response)).toList
      else [] := by
  cases message with
  | notification | response => simp [Worker.Supervisor.reaction, answer?]
  | request request =>
    simp only [Worker.Supervisor.reaction, answer?, Worker.Supervisor.answerTo, isForwarded_iff,
      Outbox.send]
    cases request.id with
    | none => simp
    | some id => cases handle.linked <;> simp

/-- The news in it is passed on. -/
theorem reaction_snd (outbox : Outbox) (handle : Handle) (message : Rpc.Message) :
    (Worker.Supervisor.reaction outbox handle message).snd.map (fun notification =>
      Rpc.Notification.make notification.method notification.params) = news? message := by
  cases message with
  | response => rfl
  | notification notification =>
    simp only [Worker.Supervisor.reaction, news?, isForwarded_iff]
    split <;> rfl
  | request request =>
    simp only [Worker.Supervisor.reaction, news?, isForwarded_iff]
    split <;> rfl

/-- What is done when a registered worker spoke: its answer, and the news in what it said. -/
theorem apply_workerMessage {handle : Handle}
    (found : node.supervisor.registry.getSerial? handle.id handle.serial = some handle)
    (around : Surroundings) (files : FileTree) (message : Rpc.Message) :
    node.apply around files (.workerMessage handle.id handle.serial message) =
      { node := { node with
          supervisor := node.supervisor.withRegistry
            (node.supervisor.registry.replace (spoke handle message)) }
        files
        effects := (Worker.Supervisor.reaction node.outbox handle message).fst ++
          (news? message).toList.flatMap fun news => node.broadcast news.method news.params } := by
  rw [← heard_eq_spoke, ← reaction_snd node.outbox handle message]
  simp only [apply, workerMessage, Worker.Supervisor.receive, found]
  cases (Worker.Supervisor.reaction node.outbox handle message).snd with
  | none => simp
  | some news =>
    simp only [Option.map_some, Option.toList_some, List.flatMap_singleton]
    rfl

/-- News goes to sessions. -/
theorem of_mem_news {message : Rpc.Message} {effect : Effect}
    (told : effect ∈ (news? message).toList.flatMap fun news =>
      node.broadcast news.method news.params) :
    ∃ name sent, effect = .deliver (.session name) sent := by
  obtain ⟨news, -, told⟩ := List.mem_flatMap.mp told
  obtain ⟨name, -, -, -, rfl⟩ := of_mem_broadcast told
  exact ⟨name, _, rfl⟩

/-- The answer goes to the worker. -/
theorem of_mem_reaction {outbox : Outbox} {handle : Handle} {message : Rpc.Message}
    {effect : Effect} (sent : effect ∈ (Worker.Supervisor.reaction outbox handle message).fst) :
    ∃ response, effect = .deliver handle.channel (.response response) := by
  rw [reaction_fst] at sent
  split at sent
  · obtain ⟨response, -, rfl⟩ := Option.map_eq_some_iff.mp (Option.mem_toList.mp sent)
    exact ⟨response, rfl⟩
  · cases sent

/-- Every message of a registered worker is answered, passed on and noted like this. -/
theorem forwards_of_mem (registered : node.Registered)
    (distinct : node.supervisor.registry.ids.Nodup) {handle : Handle}
    (member : handle ∈ node.supervisor.registry.handles) (around : Surroundings)
    (files : FileTree) (message : Rpc.Message) :
    node.Forwards files handle message
      (node.apply around files (.workerMessage handle.id handle.serial message)) := by
  have found : node.supervisor.registry.getSerial? handle.id handle.serial = some handle :=
    Worker.Registry.getSerial?_eq_some_iff.mpr
      ⟨Worker.Registry.get?_of_mem distinct member, rfl⟩
  rw [apply_workerMessage found]
  refine ⟨?_, fun name => ?_, fun effect sent => ?_, rfl, rfl⟩
  · have unheard : sentInto handle.channel ((news? message).toList.flatMap fun news =>
        node.broadcast news.method news.params) = [] :=
      List.filterMap_eq_nil_iff.mpr fun effect told => by
        obtain ⟨name, sent, rfl⟩ := of_mem_news told
        rfl
    have append (before later : List Effect) : sentInto handle.channel (before ++ later) =
        sentInto handle.channel before ++ sentInto handle.channel later := List.filterMap_append
    rw [append, unheard, List.append_nil, reaction_fst]
    split
    · cases answer? message with
      | none => rfl
      | some response => simp [sentInto, Effect.messageTo]
    · rfl
  · have unheard :
        messagesTo name (Worker.Supervisor.reaction node.outbox handle message).fst = [] :=
      List.filterMap_eq_nil_iff.mpr fun effect sent => by
        obtain ⟨response, rfl⟩ := of_mem_reaction sent
        rfl
    rw [messagesTo_append, unheard, List.nil_append]
    cases news : news? message with
    | none => simp [messagesTo]
    | some notification =>
      have made : Rpc.Notification.make notification.method notification.params = notification := by
        rw [← reaction_snd node.outbox handle] at news
        obtain ⟨passedOn, -, rfl⟩ := Option.map_eq_some_iff.mp news
        rfl
      simp [messagesTo_broadcast registered, made]
  · rcases List.mem_append.mp sent with sent | told
    · obtain ⟨response, rfl⟩ := of_mem_reaction sent
      exact ⟨_, _, rfl, .inl rfl⟩
    · obtain ⟨name, message, rfl⟩ := of_mem_news told
      exact ⟨_, _, rfl, .inr ⟨name, rfl⟩⟩

/-- After every history, every message of a registered worker is answered, passed on and noted like
this, however far the worker has come and whoever listens. -/
theorem after_forwards (settings : Settings) (history : List Moment) :
    let node := (ofSettings settings).after history
    ∀ handle ∈ node.supervisor.registry.handles, ∀ around files message,
      node.Forwards files handle message
        (node.apply around files (.workerMessage handle.id handle.serial message)) := by
  intro node handle member around files message
  exact forwards_of_mem (registered_after settings history)
    (after_lifecycle settings history).distinct member around files message

/-- A request for something that is news. -/
def newsRequest : Rpc.Message := .request (.make "statistic_stream" none (.number 7))

/-- The relay that was asked to end makes such a request: it is answered, the session that restarted
the relay is told, and the relay is still to end. -/
theorem after_forwards_relay :
    let node := (ofSettings relaySettings).after relayHistory
    ∃ handle ∈ node.supervisor.registry.handles,
      let turn := node.apply default .empty (.workerMessage handle.id handle.serial newsRequest)
      handle.phase = .stopRequested ∧ (spoke handle newsRequest).phase = .stopRequested ∧
        sentInto handle.channel turn.effects = [.response (.success (.number 7) (.obj []))] ∧
        messagesTo "c" turn.effects = [.notification (.make "statistic_stream" none)] ∧
        turn.node.supervisor.registry = node.supervisor.registry.replace (spoke handle newsRequest)
    := by
  intro node
  have asked : ∃ handle ∈ node.supervisor.registry.handles, handle.phase = .stopRequested ∧
      (handle.linked && node.outbox.isOpen handle.channel) = true := by
    decide +kernel
  obtain ⟨handle, member, stopping, listens⟩ := asked
  have hears : node.hears "c" = true := by decide +kernel
  have forwards : node.Forwards .empty handle newsRequest _ :=
    after_forwards relaySettings relayHistory handle member default .empty newsRequest
  have answered := forwards.answered
  have told := forwards.told "c"
  rw [if_pos listens] at answered
  rw [if_pos hears] at told
  refine ⟨handle, member, stopping, ?_, answered, told, ?_⟩
  · simp [spoke, stopping]
  · rw [forwards.after]
    rfl

end MediaNode.Node
