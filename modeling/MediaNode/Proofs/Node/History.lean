import MediaNode.Node.Chores
import MediaNode.Proofs.Node.Requests

/-!
# Histories of a node

A history is a list of moments. Each brings an event together with the surroundings and
the files that the node finds then, so that every order of requests, commands, chores,
connections and drops is a history, at any times and on any files.

What a history does to the workers is a history of the supervisor: the calls of its
moments, in order. So what holds in every run of a supervisor holds in every history of a
node. A site counts its requests outside of histories; nothing here depends on it.
-/
namespace MediaNode

open Worker (Operation launchedSerials)

/-- Something that happens to a node. -/
inductive Event where
  | connected (name : String) (peer : Peer)
  /-- The connection of a session ended. -/
  | dropped (name : String)
  /-- Nobody listens to a channel any more. -/
  | hungUp (channel : Channel)
  | heard (name : String) (message : Rpc.Message)
  | commanded (command : Command)
  | due (chore : Chore)

/-- An event, and what the node finds when it happens. -/
structure Moment where
  around : Surroundings
  files : FileTree
  event : Event

namespace Node

/-- Take what happens at a moment. -/
def step (node : Node) (moment : Moment) : Turn :=
  match moment.event with
  | .connected name peer => { node := node.connect name peer, files := moment.files }
  | .dropped name => { node := node.disconnect name, files := moment.files }
  | .hungUp channel =>
    { node := { node with outbox := node.outbox.hangUp channel }, files := moment.files }
  | .heard name message => node.receive moment.around moment.files name message
  | .commanded command => node.apply moment.around moment.files command
  | .due chore => node.doChore moment.around moment.files chore

/-- The node after a history. -/
def after (node : Node) : List Moment → Node
  | [] => node
  | moment :: later => (node.step moment).node.after later

@[simp] theorem after_nil (node : Node) : node.after [] = node := rfl

@[simp] theorem after_cons (node : Node) (moment : Moment) (later : List Moment) :
    node.after (moment :: later) = (node.step moment).node.after later := rfl

/-- A history is gone through part by part. -/
@[simp] theorem after_append (node : Node) (before later : List Moment) :
    node.after (before ++ later) = (node.after before).after later := by
  induction before generalizing node with
  | nil => rfl
  | cons moment rest inductionHypothesis => exact inductionHypothesis _

/-- What a request of a session calls. -/
def requestCalls (node : Node) (around : Surroundings) (files : FileTree) (name : String)
    (request : Rpc.Request) : List Operation :=
  if request.id.isNone then []
  else
    match Method.ofName? request.method with
    | none => []
    | some method =>
      match method.guard.check (node.session? name) with
      | .error _ => []
      | .ok () => method.calls around node files request.params

/-- What a command calls. The end of a worker that is to be launched again calls for a new
one. -/
def commandCalls (node : Node) (around : Surroundings) (files : FileTree) :
    Command → List Operation
  | .startStream spec => [.create around files spec]
  | .touchStream id => [.touch around.clock id]
  | .workerMessage id serial message => [.receive node.outbox id serial message]
  | .workerLinkClosed id serial => [.linkClosed id serial]
  | .workerExited id serial _ _ =>
    .exited id serial ::
      match (node.supervisor.exited id serial).snd with
      | some handle => if handle.restart then [.create around files handle.spec] else []
      | none => []
  | .expireStream id serial => [.expire node.outbox id serial]
  | .stopWorkers => [.stopAll node.outbox]
  | .preparedDirectories _ _ _ => []

/-- The end of a worker calls for its removal and a new worker, at most. -/
theorem of_mem_exitCalls {node : Node} {around : Surroundings} {files : FileTree} {id : String}
    {serial : Nat} (code signal : Option Int) {operation : Operation}
    (called : operation ∈ node.commandCalls around files (.workerExited id serial code signal)) :
    operation = .exited id serial ∨ ∃ spec, operation = .create around files spec := by
  rcases List.mem_cons.mp called with same | again
  · exact .inl same
  · split at again
    · split at again
      · exact .inr ⟨_, List.mem_singleton.mp again⟩
      · cases again
    · cases again

/-- What looking for channels that nobody asks for calls: a stop for each that is idle. -/
def reapCalls (node : Node) (clock : Int) : List String → List Operation
  | [] => []
  | id :: rest =>
    match node.supervisor.registry.get? id with
    | none => reapCalls node clock rest
    | some handle =>
      if handle.isStopping || !node.isIdle clock handle then reapCalls node clock rest
      else
        match node.supervisor.stop node.outbox id with
        | .error _ => reapCalls node clock rest
        | .ok (outbox, supervisor, _) =>
          .stop node.outbox id :: reapCalls (node.withWorkers outbox supervisor) clock rest

/-- What a chore calls. -/
def choreCalls (node : Node) (around : Surroundings) : Chore → List Operation
  | .reap => node.reapCalls around.clock node.codLinks.streamIds
  | .license => if node.isLicensed around.now then [] else node.shutdownCalls 0
  | .ping | .sweep | .report => []

/-- What is called at a moment. -/
def calls (node : Node) (moment : Moment) : List Operation :=
  match moment.event with
  | .connected _ _ | .dropped _ | .hungUp _ | .heard _ (.notification _)
  | .heard _ (.response _) => []
  | .heard name (.request request) => node.requestCalls moment.around moment.files name request
  | .commanded command => node.commandCalls moment.around moment.files command
  | .due chore => node.choreCalls moment.around chore

/-- What a whole history calls. -/
def callsOf (node : Node) : List Moment → List Operation
  | [] => []
  | moment :: later => node.calls moment ++ (node.step moment).node.callsOf later

/-- The calls of a history come part by part. -/
theorem callsOf_append (node : Node) (before later : List Moment) :
    node.callsOf (before ++ later) = node.callsOf before ++ (node.after before).callsOf later := by
  induction before generalizing node with
  | nil => rfl
  | cons moment rest inductionHypothesis =>
    simp only [List.cons_append, callsOf, after_cons, inductionHypothesis, List.append_assoc]

variable {node : Node}

/-- What a request calls, its method calls, once the guard has let it pass. -/
theorem of_mem_requestCalls {around : Surroundings} {files : FileTree} {name : String}
    {request : Rpc.Request} {operation : Operation}
    (called : operation ∈ node.requestCalls around files name request) :
    ∃ method, Method.ofName? request.method = some method ∧
      method.guard.check (node.session? name) = .ok () ∧
      operation ∈ method.calls around node files request.params := by
  unfold requestCalls at called
  split at called
  · cases called
  · split at called
    · cases called
    next method named =>
      split at called
      · cases called
      next passed => exact ⟨method, named, passed, called⟩

/-- A request acts on the workers by its calls, whether it succeeds or fails. -/
theorem handle_follows (node : Node) (around : Surroundings) (files : FileTree) (name : String)
    (request : Rpc.Request) (identified : request.id.isNone = false) :
    node.Follows (node.requestCalls around files name request)
      (node.handle around files name request).fst.node
      (node.handle around files name request).fst.effects := by
  unfold requestCalls
  rw [if_neg (by simp [identified])]
  have answered := node.handle_answered around files name request
  generalize (node.handle around files name request).fst = turn,
    (node.handle around files name request).snd = response at answered ⊢
  cases answered with
  | unknown unnamed =>
    rw [unnamed]
    exact .still rfl rfl
  | refused named stopped =>
    simp only [named, stopped]
    exact .still rfl rfl
  | failed named passed failed =>
    simp only [named, passed]
    exact .vain (Request.calls_of_error failed)
  | done named passed performed =>
    simp only [named, passed]
    exact performed.follows

/-- So does everything else that a session says. -/
theorem receive_follows (around : Surroundings) (files : FileTree) (name : String)
    (message : Rpc.Message) :
    node.Follows (node.calls ⟨around, files, .heard name message⟩)
      (node.receive around files name message).node
      (node.receive around files name message).effects := by
  cases message with
  | notification notification => exact .still rfl rfl
  | response response =>
    simp only [calls, receive, answered]
    split
    · exact .still rfl rfl
    · exact .still rfl rfl
  | request request =>
    cases identified : request.id.isNone with
    | true =>
      simp only [calls, requestCalls, receive, identified, if_true]
      exact .still rfl rfl
    | false =>
      have follows := node.handle_follows around files name request identified
      simp only [calls, receive, identified, Bool.false_eq_true, if_false]
      split
      next response answered =>
        exact follows.append fun _ => aside_of_mem_sendTo
      next deferred => exact follows

/-- Starting a stream that was asked for is one call. -/
theorem lazyStart_follows (around : Surroundings) (files : FileTree) (spec : Stream.Spec) :
    node.Follows [.create around files spec] (node.lazyStart around files spec).node
      (node.lazyStart around files spec).effects :=
  .single (by rfl) (by rfl)

/-- The node without a worker. -/
def without (node : Node) (id : String) (serial : Nat) : Node :=
  { node with supervisor := (node.supervisor.exited id serial).fst }

/-- The end of a worker takes it away and starts its stream again if its handle says so.
What is done besides, for the sessions and for old chunks, is aside. -/
theorem workerExited_of_getSerial? (around : Surroundings) (files : FileTree) {id : String}
    {serial : Nat} (code signal : Option Int) {handle : Worker.Handle}
    (found : node.supervisor.registry.getSerial? id serial = some handle) :
    ∃ told, (∀ effect ∈ told, node.Aside effect) ∧
      node.workerExited around files id serial code signal =
        let start : Turn :=
          if handle.restart then (node.without id serial).lazyStart around files handle.spec
          else { node := node.without id serial, files }
        { start with effects := told ++ start.effects } := by
  refine ⟨(node.without id serial).broadcast "quit_status_stream"
    (some (quitParams id code signal)) ++ cleanup handle, fun effect member => ?_, ?_⟩
  · rcases List.mem_append.mp member with sent | cleaned
    · exact aside_of_mem_broadcast (by rfl) sent
    · unfold cleanup at cleaned
      split at cleaned
      · rw [List.mem_singleton.mp cleaned]
        exact .removeChunks _
      · cases cleaned
  · simp only [workerExited, without, Worker.Supervisor.exited_of_getSerial? found]

/-- The end of a worker calls for its removal, and for a new worker if it was to be
launched again. -/
theorem workerExited_follows (around : Surroundings) (files : FileTree) (id : String)
    (serial : Nat) (code signal : Option Int) :
    node.Follows (node.commandCalls around files (.workerExited id serial code signal))
      (node.workerExited around files id serial code signal).node
      (node.workerExited around files id serial code signal).effects := by
  cases found : node.supervisor.registry.getSerial? id serial with
  | none =>
    have gone := Worker.Supervisor.exited_of_getSerial?_none found
    simp only [workerExited, commandCalls, gone]
    exact .vain (by simp [Worker.Supervisor.step, gone])
  | some handle =>
    obtain ⟨told, asides, exit⟩ := workerExited_of_getSerial? around files code signal found
    have removed : node.Follows [.exited id serial] (node.without id serial) [] :=
      .single (by rfl) (by rfl)
    simp only [exit, commandCalls, Worker.Supervisor.exited_of_getSerial? found]
    cases handle.restart with
    | false => exact removed.prepend asides
    | true =>
      have started := removed.trans (lazyStart_follows around files handle.spec) rfl
      exact started.prepend asides

/-- What a worker says is one call. -/
theorem workerMessage_follows (id : String) (serial : Nat) (message : Rpc.Message) :
    node.Follows [.receive node.outbox id serial message]
      (node.workerMessage id serial message).fst (node.workerMessage id serial message).snd := by
  have heard : node.Follows [.receive node.outbox id serial message]
      { node with supervisor := (node.supervisor.receive node.outbox id serial message).fst }
      (node.supervisor.receive node.outbox id serial message).snd.fst :=
    .single (by rfl) (by rfl)
  unfold workerMessage
  simp only
  split
  · exact heard.append fun _ => aside_of_mem_broadcast (by rfl)
  · exact heard

/-- A command acts on the workers by its calls. -/
theorem apply_follows (around : Surroundings) (files : FileTree) (command : Command) :
    node.Follows (node.commandCalls around files command) (node.apply around files command).node
      (node.apply around files command).effects := by
  cases command with
  | startStream spec => exact lazyStart_follows around files spec
  | touchStream id => exact .single (by rfl) (by rfl)
  | workerMessage id serial message => exact workerMessage_follows id serial message
  | workerLinkClosed id serial => exact .single (by rfl) (by rfl)
  | workerExited id serial code signal =>
    exact workerExited_follows around files id serial code signal
  | expireStream id serial => exact .single (by rfl) (by rfl)
  | stopWorkers => exact .single (by rfl) (by rfl)
  | preparedDirectories roots channel response =>
    refine .idle rfl rfl fun effect sent => ?_
    rw [eq_of_mem_send sent]
    exact .reply channel response

/-- Looking for channels that nobody asks for stops the idle ones. -/
theorem reapEach_follows (clock : Int) (ids : List String) :
    node.Follows (node.reapCalls clock ids) (node.reapEach clock ids).fst
      (node.reapEach clock ids).snd.fst := by
  induction ids generalizing node with
  | nil => exact .still rfl rfl
  | cons id rest inductionHypothesis =>
    unfold reapCalls reapEach
    cases node.supervisor.registry.get? id with
    | none => exact inductionHypothesis
    | some handle =>
      simp only
      split
      · exact inductionHypothesis
      · cases stopped : node.supervisor.stop node.outbox id with
        | error fault => exact inductionHypothesis
        | ok result =>
          obtain ⟨outbox, supervisor, effects⟩ := result
          have first : node.Follows [.stop node.outbox id] (node.withWorkers outbox supervisor)
              effects := .single (by rfl) (by simp [Worker.Supervisor.step, stopped, withWorkers])
          exact first.trans inductionHypothesis rfl

/-- A session that is asked gets one question, and remembers it. -/
theorem pingSession_eq_some {outbox : Outbox} {params : Json} {name : String}
    {session after : Session} {effects : List Effect}
    (asked : (node.pingSession outbox params name session).snd = some (after, effects)) :
    ∃ pending question, after = { session with pending } ∧
      effects = [.deliver (.session name) (.request question)] := by
  unfold pingSession at asked
  split at asked
  · split at asked
    · cases asked
    next channel known =>
      split at asked
      next next id message sent =>
        cases asked
        obtain ⟨question, rfl⟩ : ∃ question, message = .request question := by
          unfold Outbox.request at sent
          split at sent <;> cases sent
          exact ⟨_, rfl⟩
        exact ⟨_, question, rfl, by rw [eq_of_channelOf known]⟩
      next => cases asked
  · cases asked

/-- The questions to sessions go to verified ones only, and a session that stays is as it
was but for what it has not answered. -/
theorem pingEach_spec (params : Json) (outbox : Outbox) (sessions : List (String × Session)) :
    (∀ effect ∈ (node.pingEach params outbox sessions).snd.snd.snd, ∃ name session question,
      (name, session) ∈ sessions ∧ session.verified = true ∧
        effect = .deliver (.session name) (.request question)) ∧
      ∀ name after, (name, after) ∈ (node.pingEach params outbox sessions).snd.fst →
        ∃ session pending, (name, session) ∈ sessions ∧ after = { session with pending } := by
  induction sessions generalizing outbox with
  | nil => exact ⟨by simp [pingEach], by simp [pingEach]⟩
  | cons entry rest inductionHypothesis =>
    obtain ⟨first, asked⟩ := entry
    have questions : ∀ next, ∀ effect ∈ (node.pingEach params next rest).snd.snd.snd,
        ∃ name session question, (name, session) ∈ (first, asked) :: rest ∧
          session.verified = true ∧ effect = .deliver (.session name) (.request question) := by
      intro next effect member
      obtain ⟨name, session, question, present, answer⟩ :=
        (inductionHypothesis next).1 effect member
      exact ⟨name, session, question, List.mem_cons_of_mem _ present, answer⟩
    have kept : ∀ next name after, (name, after) ∈ (node.pingEach params next rest).snd.fst →
        ∃ session pending, (name, session) ∈ (first, asked) :: rest ∧
          after = { session with pending } := by
      intro next name after member
      obtain ⟨session, pending, present, same⟩ := (inductionHypothesis next).2 name after member
      exact ⟨session, pending, List.mem_cons_of_mem _ present, same⟩
    cases verified : asked.verified with
    | false =>
      simp only [pingEach, verified, Bool.false_eq_true, if_false]
      refine ⟨questions outbox, fun name after member => ?_⟩
      rcases List.mem_cons.mp member with same | member
      · cases same
        exact ⟨asked, asked.pending, List.mem_cons_self, rfl⟩
      · exact kept outbox name after member
    | true =>
      simp only [pingEach, verified, if_true]
      cases outcome : node.pingSession outbox params first asked with
      | mk next question =>
        cases question with
        | none => exact ⟨questions next, kept next⟩
        | some answer =>
          obtain ⟨stays, effects⟩ := answer
          obtain ⟨pending, question, rfl, rfl⟩ := pingSession_eq_some (by rw [outcome])
          refine ⟨fun effect member => ?_, fun name after member => ?_⟩
          · rcases List.mem_append.mp member with here | member
            · exact ⟨first, asked, question, List.mem_cons_self, verified,
                List.mem_singleton.mp here⟩
            · exact questions next effect member
          · rcases List.mem_cons.mp member with same | member
            · cases same
              exact ⟨asked, pending, List.mem_cons_self, rfl⟩
            · exact kept next name after member

/-- A chore acts on the workers by its calls. -/
theorem doChore_follows (around : Surroundings) (files : FileTree) (chore : Chore) :
    node.Follows (node.choreCalls around chore) (node.doChore around files chore).node
      (node.doChore around files chore).effects := by
  cases chore with
  | ping =>
    refine .idle rfl rfl fun effect asked => ?_
    obtain ⟨name, session, question, listed, verified, rfl⟩ := (pingEach_spec _ _ _).1 effect asked
    exact .told listed verified (.request question)
  | reap => exact reapEach_follows around.clock node.codLinks.streamIds
  | sweep => exact .still rfl rfl
  | report => exact .idle rfl rfl fun _ => aside_of_mem_broadcast (by rfl)
  | license =>
    simp only [doChore, choreCalls, checkLicense]
    cases node.isLicensed around.now with
    | true => exact .still rfl rfl
    | false =>
      cases begun : node.beginShutdown 0 with
      | error fault =>
        simp only [beginShutdown_eq_error begun]
        exact .still rfl rfl
      | ok result => exact (beginShutdown_eq_ok begun).1

/-- At every moment, what happens to the workers is what is called. -/
theorem step_follows (node : Node) (moment : Moment) :
    node.Follows (node.calls moment) (node.step moment).node (node.step moment).effects := by
  obtain ⟨around, files, event⟩ := moment
  cases event with
  | connected name peer => exact .still rfl rfl
  | dropped name => exact .still rfl rfl
  | hungUp channel => exact .still rfl rfl
  | heard name message => exact receive_follows around files name message
  | commanded command => exact apply_follows around files command
  | due chore => exact doChore_follows around files chore

/-- So a history of a node is a history of its supervisor. -/
theorem after_supervisor (node : Node) (history : List Moment) :
    (node.after history).supervisor = (node.supervisor.run (node.callsOf history)).fst := by
  induction history generalizing node with
  | nil => rfl
  | cons moment later inductionHypothesis =>
    rw [after_cons, inductionHypothesis, callsOf, Worker.Supervisor.run_append,
      (node.step_follows moment).supervisor]

/-- The settings of a node never change. -/
theorem after_settings (node : Node) (history : List Moment) :
    (node.after history).settings = node.settings := by
  induction history generalizing node with
  | nil => rfl
  | cons moment later inductionHypothesis =>
    rw [after_cons, inductionHypothesis, (node.step_follows moment).settings]

/-- In every history from the start, the workers live as in a run of their supervisor. -/
theorem after_lifecycle (settings : Settings) (history : List Moment) :
    Worker.Lifecycle ((ofSettings settings).after history).supervisor
      ((Worker.Supervisor.ofSettings settings).run
        ((ofSettings settings).callsOf history)).snd := by
  rw [after_supervisor]
  exact (Worker.Lifecycle.initial settings).run _

/-- A node with a license that expires five seconds after the epoch. -/
def relaySettings : Settings :=
  { licenseKey := some "00000000000013888bdeae83a31fd33508df9c4b10dc0ed5" }

/-- Somebody connects, activates the session, starts a relay and restarts it. -/
def relayHistory : List Moment :=
  let asked (number : Nat) (method : Method) (members : List (String × Json)) : Event :=
    .heard "c" (.request (.make method.name (some (.obj members)) (.number number)))
  [.connected "c" ⟨.ipv4 0x7F000001, 4000⟩,
    asked 1 .activate [("license", .str "00000000000013888bdeae83a31fd33508df9c4b10dc0ed5")],
    asked 2 .startStream Worker.relaySpec.members,
    asked 3 .restartStream [("id", .str "s1")]].map fun event => ⟨default, .empty, event⟩

end Node
end MediaNode
