import MediaNode.Proofs.Node.History

/-!
# What is sent, and why

`sent_step` says once why anything is sent at a moment. What is about a worker is the business
of the supervisor. A session gets notifications, questions when the chore of asking is due, and
responses; a response answers the request that the session just made, or comes with the command
that ends the work on directories. A job is left for a request that is not answered at once.
-/
namespace MediaNode.Node

open Worker (Operation)

variable {node : Node} {moment : Moment} {effect : Effect}

/-- Why something is wanted of the outside at a moment. -/
inductive Sent (node : Node) (moment : Moment) : Effect → Prop where
  | worker {effect : Effect} {serial : Nat} (about : effect.worker? = some serial) :
      Sent node moment effect
  | noted (name : String) (notification : Rpc.Notification) :
      Sent node moment (.deliver (.session name) (.notification notification))
  | asked (name : String) (question : Rpc.Request) (due : moment.event = .due .ping) :
      Sent node moment (.deliver (.session name) (.request question))
  | answered {name : String} {request : Rpc.Request} {response : Rpc.Response}
      (heard : moment.event = .heard name (.request request))
      (identified : request.id.isNone = false)
      (answer : (node.handle moment.around moment.files name request).snd = some response) :
      Sent node moment (.deliver (.session name) (.response response))
  | deferred {name : String} {request : Rpc.Request} {effect : Effect}
      (heard : moment.event = .heard name (.request request))
      (identified : request.id.isNone = false)
      (unanswered : (node.handle moment.around moment.files name request).snd = none)
      (job : (∃ work, effect = .prepare work) ∨ ∃ work, effect = .upload work) :
      Sent node moment effect
  | prepared {roots : PreparedRoots} {channel : Channel} {response : Rpc.Response}
      (commanded : moment.event = .commanded (.preparedDirectories roots channel response)) :
      Sent node moment (.deliver channel (.response response))
  | removeChunks (directories : List Path) : Sent node moment (.removeChunks directories)
  | stopWorkersAfter (milliseconds : Nat) : Sent node moment (.stopWorkersAfter milliseconds)
  | closeAfter (milliseconds : Nat) : Sent node moment (.closeAfter milliseconds)

/-- A broadcast is notifications. -/
theorem sent_of_mem_broadcast {sender : Node} {method : String} {params : Option Json}
    (told : effect ∈ sender.broadcast method params) : Sent node moment effect := by
  obtain ⟨name, session, -, -, rfl⟩ := of_mem_broadcast told
  exact .noted name _

section life

variable {trace : List Effect}

/-- Whatever an operation of the supervisor wants is about a worker. -/
theorem sent_of_step (life : Worker.Lifecycle node.supervisor trace) (operation : Operation) :
    ∀ effect ∈ (node.supervisor.step operation).snd, ∀ sender moment,
      Sent sender moment effect := by
  intro effect wanted sender moment
  have outcome := Worker.Supervisor.step_outcome life.distinct operation
  obtain ⟨serial, about⟩ := (life.step_about outcome).1 effect wanted
  exact .worker about

/-- The beginning of a shutdown stops the workers or sets timers. -/
theorem sent_of_beginShutdown (life : Worker.Lifecycle node.supervisor trace) {delay : Nat}
    {after sender : Node} {effects : List Effect}
    (begun : node.beginShutdown delay = .ok (after, effects)) (wanted : effect ∈ effects) :
    Sent sender moment effect := by
  unfold beginShutdown at begun
  split at begun
  · cases begun
  · split at begun
    · cases begun
      rcases List.mem_append.mp wanted with stop | close
      · exact sent_of_step life (.stopAll node.outbox) effect stop sender moment
      · rw [List.mem_singleton.mp close]
        exact .closeAfter _
    · cases begun
      rcases List.mem_cons.mp wanted with rfl | close
      · exact .stopWorkersAfter delay
      · rw [List.mem_singleton.mp close]
        exact .closeAfter _

/-- A request is answered at once or by a job, and whatever else it does is about workers. -/
theorem sent_of_receive (life : Worker.Lifecycle node.supervisor trace) (around : Surroundings)
    (files : FileTree) (name : String) (message : Rpc.Message)
    (wanted : effect ∈ (node.receive around files name message).effects) :
    Sent node ⟨around, files, .heard name message⟩ effect := by
  cases message with
  | notification notification => cases wanted
  | response response => cases wanted
  | request request =>
    cases identified : request.id.isNone with
    | true =>
      simp only [receive, identified, if_true] at wanted
      cases wanted
    | false =>
      have handled : effect ∈ (node.handle around files name request).fst.effects →
          Sent node ⟨around, files, .heard name (.request request)⟩ effect := by
        intro wanted
        have deferred (unanswered : (node.handle around files name request).snd = none)
            (job : (∃ work, effect = .prepare work) ∨ ∃ work, effect = .upload work) :
            Sent node ⟨around, files, .heard name (.request request)⟩ effect :=
          .deferred rfl identified unanswered job
        have answered := node.handle_answered around files name request
        generalize (node.handle around files name request).fst = turn,
          (node.handle around files name request).snd = response at answered wanted deferred
        cases answered with
        | unknown unnamed => cases wanted
        | refused named stopped => cases wanted
        | failed named passed failed => cases wanted
        | done named passed performed =>
          cases performed with
          | activated read licensed expires good found left silent =>
            rw [silent] at wanted
            cases wanted
          | closing read begun => exact sent_of_beginShutdown life begun wanted
          | linked vodLinks codLinks => cases wanted
          | told result => cases wanted
          | deferred job idle =>
            rw [List.mem_singleton.mp wanted] at deferred ⊢
            exact deferred rfl job
          | supervised called outbox => exact sent_of_step life _ effect wanted _ _
      simp only [receive, identified, Bool.false_eq_true, if_false] at wanted
      split at wanted
      · next response answer =>
        rcases List.mem_append.mp wanted with wanted | sent
        · exact handled wanted
        · rw [eq_of_mem_sendTo sent]
          exact .answered rfl identified answer
      · exact handled wanted

/-- Starting a stream that was asked for is one operation of the supervisor. -/
theorem sent_of_lazyStart (life : Worker.Lifecycle node.supervisor trace) {around : Surroundings}
    {files : FileTree} {spec : Stream.Spec} {sender : Node}
    (wanted : effect ∈ (node.lazyStart around files spec).effects) : Sent sender moment effect :=
  sent_of_step life (.create around files spec) effect wanted sender moment

/-- The end of a worker is told, its chunks may be removed, and it may be launched again. -/
theorem sent_of_workerExited (life : Worker.Lifecycle node.supervisor trace)
    {around : Surroundings} {files : FileTree} {id : String} {serial : Nat}
    {code signal : Option Int}
    (wanted : effect ∈ (node.workerExited around files id serial code signal).effects) :
    Sent node moment effect := by
  cases found : node.supervisor.registry.getSerial? id serial with
  | none =>
    simp only [workerExited, Worker.Supervisor.exited_of_getSerial?_none found] at wanted
    cases wanted
  | some handle =>
    have gone := life.step (Worker.Supervisor.step_outcome life.distinct (.exited id serial))
    have restarted : effect ∈ ((node.without id serial).lazyStart around files handle.spec).effects →
        Sent node moment effect := sent_of_lazyStart gone
    simp only [without, Worker.Supervisor.exited_of_getSerial? found] at restarted
    simp only [workerExited, Worker.Supervisor.exited_of_getSerial? found, List.append_assoc,
      List.mem_append] at wanted
    rcases wanted with told | cleaned | started
    · exact sent_of_mem_broadcast told
    · unfold cleanup at cleaned
      split at cleaned
      · rw [List.mem_singleton.mp cleaned]
        exact .removeChunks _
      · cases cleaned
    · split at started
      · exact restarted started
      · cases started

/-- A command concerns workers, but for the one that ends the work on directories. -/
theorem sent_of_apply (life : Worker.Lifecycle node.supervisor trace) (around : Surroundings)
    (files : FileTree) (command : Command)
    (wanted : effect ∈ (node.apply around files command).effects) :
    Sent node ⟨around, files, .commanded command⟩ effect := by
  cases command with
  | startStream spec => exact sent_of_lazyStart life wanted
  | touchStream id => cases wanted
  | workerMessage id serial message =>
    have called := sent_of_step life (.receive node.outbox id serial message)
    simp only [apply, workerMessage] at wanted
    split at wanted
    · rcases List.mem_append.mp wanted with here | told
      · exact called effect here _ _
      · exact sent_of_mem_broadcast told
    · exact called effect wanted _ _
  | workerLinkClosed id serial => cases wanted
  | workerExited id serial code signal => exact sent_of_workerExited life wanted
  | expireStream id serial => exact sent_of_step life (.expire node.outbox id serial) effect wanted _ _
  | stopWorkers => exact sent_of_step life (.stopAll node.outbox) effect wanted _ _
  | preparedDirectories roots channel response =>
    rw [eq_of_mem_send wanted]
    exact .prepared rfl

/-- Looking for channels that nobody asks for stops workers. -/
theorem sent_of_reapEach (life : Worker.Lifecycle node.supervisor trace) {clock : Int}
    {ids : List String} {sender : Node} (wanted : effect ∈ (node.reapEach clock ids).snd.fst) :
    Sent sender moment effect := by
  induction ids generalizing node trace with
  | nil => cases wanted
  | cons id rest inductionHypothesis =>
    unfold reapEach at wanted
    split at wanted
    · exact inductionHypothesis life wanted
    · split at wanted
      · exact inductionHypothesis life wanted
      · cases stopped : node.supervisor.stop node.outbox id with
        | error fault =>
          simp only [stopped] at wanted
          exact inductionHypothesis life wanted
        | ok result =>
          obtain ⟨outbox, supervisor, effects⟩ := result
          have called := sent_of_step life (.stop node.outbox id)
          have next := life.step
            (Worker.Supervisor.step_outcome life.distinct (.stop node.outbox id))
          simp only [Worker.Supervisor.step, stopped] at called next
          change Worker.Lifecycle (node.withWorkers outbox supervisor).supervisor _ at next
          simp only [stopped, List.mem_append] at wanted
          rcases wanted with here | later
          · exact called effect here sender moment
          · exact inductionHypothesis next later

/-- Chores ask, tell, stop workers and set timers. -/
theorem sent_of_doChore (life : Worker.Lifecycle node.supervisor trace) (around : Surroundings)
    (files : FileTree) (chore : Chore)
    (wanted : effect ∈ (node.doChore around files chore).effects) :
    Sent node ⟨around, files, .due chore⟩ effect := by
  cases chore with
  | ping =>
    obtain ⟨name, session, question, -, -, rfl⟩ := (pingEach_spec _ _ _).1 effect wanted
    exact .asked name question rfl
  | reap => exact sent_of_reapEach life wanted
  | sweep => cases wanted
  | report => exact sent_of_mem_broadcast wanted
  | license =>
    simp only [doChore, checkLicense] at wanted
    split at wanted
    · cases wanted
    · split at wanted
      · next begun => exact sent_of_beginShutdown life begun wanted
      · cases wanted

/-- Whatever is sent at a moment is sent for one of these reasons. -/
theorem sent_step (life : Worker.Lifecycle node.supervisor trace) (moment : Moment)
    (wanted : effect ∈ (node.step moment).effects) : Sent node moment effect := by
  obtain ⟨around, files, event⟩ := moment
  cases event with
  | connected name peer => cases wanted
  | dropped name => cases wanted
  | hungUp channel => cases wanted
  | heard name message => exact sent_of_receive life around files name message wanted
  | commanded command => exact sent_of_apply life around files command wanted
  | due chore => exact sent_of_doChore life around files chore wanted

end life

end MediaNode.Node
