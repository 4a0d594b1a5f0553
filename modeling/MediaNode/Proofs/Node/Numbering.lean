import Mathlib.Data.List.Pairwise
import MediaNode.Proofs.Node.Outgoing

/-!
# The ids of the node's own requests

Everything that the node asks, its sessions and its workers alike, is numbered by one counter
that only counts up. So the numbers of what was asked grow along every history, and no two
questions share an id. `Numbered` says of one operation that it asked under the numbers between
two stands of the counter; parts of an operation that follow each other are numbered like this
when both are.
-/
namespace MediaNode

/-- The id under which an effect asks something. -/
def Effect.askedUnder? : Effect → Option (Option Rpc.Id)
  | .deliver _ (.request request) => some request.id
  | _ => none

/-- The ids under which something was asked, in order. -/
def askedIds (effects : List Effect) : List (Option Rpc.Id) := effects.filterMap Effect.askedUnder?

/-- What was asked was asked part by part. -/
theorem askedIds_append (before later : List Effect) :
    askedIds (before ++ later) = askedIds before ++ askedIds later :=
  List.filterMap_append

/-- That nothing is asked. -/
theorem askedIds_eq_nil {effects : List Effect}
    (quiet : ∀ effect ∈ effects, effect.askedUnder? = none) : askedIds effects = [] :=
  List.filterMap_eq_nil_iff.mpr quiet

/-- That the questions among some effects have growing numbers, from the first to below the
next. -/
structure Numbered (first next : Nat) (effects : List Effect) : Prop where
  forward : first ≤ next
  ids : ∃ numbers : List Nat, askedIds effects = numbers.map (some ∘ Rpc.Id.number) ∧
    numbers.Pairwise (· < ·) ∧ ∀ number ∈ numbers, first ≤ number ∧ number < next

namespace Numbered

variable {first middle next : Nat} {effects before later : List Effect}

/-- Where nothing is asked, the counter may stay or not. -/
theorem of_quiet (forward : first ≤ next) (quiet : askedIds effects = []) :
    Numbered first next effects :=
  ⟨forward, [], quiet, .nil, by simp⟩

/-- What is asked later has higher numbers. -/
theorem append (earlier : Numbered first middle before) (following : Numbered middle next later) :
    Numbered first next (before ++ later) := by
  obtain ⟨forward, numbers, ids, increasing, between⟩ := earlier
  obtain ⟨onward, more, moreIds, moreIncreasing, moreBetween⟩ := following
  refine ⟨Nat.le_trans forward onward, numbers ++ more, ?_, ?_, ?_⟩
  · rw [askedIds_append, ids, moreIds, List.map_append]
  · refine List.pairwise_append.mpr ⟨increasing, moreIncreasing, fun one here other there => ?_⟩
    exact Nat.lt_of_lt_of_le (between one here).2 (moreBetween other there).1
  · intro number member
    rcases List.mem_append.mp member with here | there
    · exact ⟨(between number here).1, Nat.lt_of_lt_of_le (between number here).2 onward⟩
    · exact ⟨Nat.le_trans forward (moreBetween number there).1, (moreBetween number there).2⟩

end Numbered

/-- That an operation with an outbox asked under the numbers that it took from it, and closed or
opened no channel. -/
structure Advances (before after : Outbox) (effects : List Effect) : Prop where
  closed : after.closed = before.closed
  numbered : Numbered before.nextRequest after.nextRequest effects

namespace Advances

variable {before middle after : Outbox} {effects more : List Effect}

/-- Asking nothing takes no number. -/
theorem of_quiet (quiet : askedIds effects = []) : Advances before before effects :=
  ⟨rfl, .of_quiet (Nat.le_refl _) quiet⟩

/-- One operation may follow another. -/
theorem append (first : Advances before middle effects) (second : Advances middle after more) :
    Advances before after (effects ++ more) :=
  ⟨second.closed.trans first.closed, first.numbered.append second.numbered⟩

/-- Effects that ask nothing may be added behind. -/
theorem concat (advances : Advances before after effects) (quiet : askedIds more = []) :
    Advances before after (effects ++ more) :=
  advances.append (.of_quiet quiet)

end Advances

/-- Making a request takes one number, and the request is made under it if somebody listens. -/
theorem Outbox.request_advances (outbox : Outbox) (channel : Channel) (method : String)
    (params : Option Json) :
    Advances outbox (outbox.request channel method params).fst
      ((outbox.request channel method params).snd.toList.map fun made =>
        .deliver channel made.snd) := by
  unfold request
  simp only
  split
  · refine ⟨rfl, Nat.le_succ _, [outbox.nextRequest], rfl, List.pairwise_singleton _ _, ?_⟩
    intro number member
    rw [List.mem_singleton.mp member]
    exact ⟨(Nat.le_refl _), Nat.lt_succ_self _⟩
  · exact ⟨rfl, .of_quiet (Nat.le_succ _) rfl⟩

namespace Worker

/-- Asking a worker to end takes at most one number. -/
theorem Handle.requestStop_advances (outbox : Outbox) (handle : Handle) (reason : StopReason) :
    Advances outbox (requestStop outbox handle reason).fst
      (requestStop outbox handle reason).snd.snd := by
  have timer : askedIds (if handle.armable then [.armKill handle.id handle.serial] else []) = [] := by
    split <;> rfl
  have signal : askedIds ((if handle.hasProcess then [.terminate handle.id handle.serial] else []) ++
      if handle.armable then [.armKill handle.id handle.serial] else []) = [] := by
    rw [askedIds_append, timer]
    split <;> rfl
  have asked := outbox.request_advances handle.channel reason.method none
  unfold requestStop
  split
  · exact .of_quiet rfl
  · unfold requestOverLink
    cases handle.linked with
    | false => exact .of_quiet signal
    | true =>
      simp only [if_true]
      cases made : outbox.request handle.channel reason.method none with
      | mk next sent =>
        rw [made] at asked
        cases sent with
        | none => exact asked.append (.of_quiet signal)
        | some request => exact asked.append (.of_quiet timer)

namespace Supervisor

variable {supervisor : Supervisor} {outbox : Outbox}

/-- Ending a worker does. -/
theorem endWorker_advances (supervisor : Supervisor) (outbox : Outbox) (handle : Handle)
    (restart : Bool) (reason : StopReason) :
    Advances outbox (supervisor.endWorker outbox handle restart reason).fst
      (supervisor.endWorker outbox handle restart reason).snd.snd :=
  Handle.requestStop_advances outbox { handle with restart } reason

/-- So does stopping the worker of a stream, -/
theorem stop_advances {id : String} {after : Outbox} {left : Supervisor} {effects : List Effect}
    (stopped : supervisor.stop outbox id = .ok (after, left, effects)) :
    Advances outbox after effects := by
  unfold stop at stopped
  split at stopped
  · cases stopped
  · next handle found =>
    have ended := supervisor.endWorker_advances outbox handle false .stop
    rw [Except.ok.inj stopped] at ended
    exact ended

/-- restarting it, -/
theorem restart_advances {id : String} {after : Outbox} {left : Supervisor} {effects : List Effect}
    (restarted : supervisor.restart outbox id = .ok (after, left, effects)) :
    Advances outbox after effects := by
  unfold restart at restarted
  split at restarted
  · cases restarted
  · next handle found =>
    split at restarted
    · cases restarted
      exact .of_quiet rfl
    · have ended := supervisor.endWorker_advances outbox handle true .restart
      rw [Except.ok.inj restarted] at ended
      exact ended

/-- and stopping it when its time is over. -/
theorem expire_advances (supervisor : Supervisor) (outbox : Outbox) (id : String) (serial : Nat) :
    Advances outbox (supervisor.expire outbox id serial).fst
      (supervisor.expire outbox id serial).snd.snd := by
  unfold expire
  split
  · exact .of_quiet rfl
  · split
    · exact .of_quiet rfl
    · exact supervisor.endWorker_advances outbox _ false .stop

/-- Stopping several workers asks one after the other. -/
theorem stopEach_advances (outbox : Outbox) (handles : List Handle) :
    Advances outbox (stopEach outbox handles).fst (stopEach outbox handles).snd.snd := by
  induction handles generalizing outbox with
  | nil => exact .of_quiet rfl
  | cons handle rest inductionHypothesis =>
    have first := Handle.requestStop_advances outbox { handle with restart := false } .stop
    exact first.append (inductionHypothesis _)

/-- Starting a stream asks nothing, whether it succeeds or not. -/
theorem askedIds_create (around : Surroundings) (files : FileTree) (spec : Stream.Spec) :
    askedIds (supervisor.create around files spec).snd.effects = [] := by
  rcases created : supervisor.create around files spec with ⟨made, after, effects, outcome⟩
  cases outcome with
  | error fault =>
    obtain ⟨-, rfl, -⟩ := create_eq_error created
    rfl
  | ok =>
    obtain ⟨identity, -, enlisted⟩ := ready_of_create created
    obtain ⟨config, command, -, -, -, -, rfl⟩ := enlist_eq_ok enlisted
    unfold launchEffects
    cases config.base.ttl <;> rfl

/-- A message of a worker is at most answered. -/
theorem askedIds_reaction (outbox : Outbox) (handle : Handle) (message : Rpc.Message) :
    askedIds (reaction outbox handle message).fst = [] := by
  refine askedIds_eq_nil fun effect member => ?_
  cases message with
  | notification notification => cases member
  | response response => cases member
  | request request =>
    simp only [reaction] at member
    split at member
    · split at member
      · rw [Node.eq_of_mem_send member]
        rfl
      · cases member
    · cases member

/-- So taking one asks nothing. -/
theorem askedIds_receive (supervisor : Supervisor) (outbox : Outbox) (id : String) (serial : Nat)
    (message : Rpc.Message) : askedIds (supervisor.receive outbox id serial message).snd.fst = [] := by
  unfold receive
  split
  · rfl
  · exact askedIds_reaction outbox _ message

end Supervisor
end Worker

namespace Node

variable {node : Node}

/-- A broadcast asks nothing. -/
theorem askedIds_broadcast (method : String) (params : Option Json) :
    askedIds (node.broadcast method params) = [] := by
  refine askedIds_eq_nil fun effect member => ?_
  obtain ⟨name, session, -, -, rfl⟩ := of_mem_broadcast member
  rfl

/-- A response asks nothing. -/
theorem askedIds_sendTo (name : String) (response : Rpc.Response) :
    askedIds (node.sendTo name (.response response)) = [] := by
  refine askedIds_eq_nil fun effect member => ?_
  rw [eq_of_mem_sendTo member]
  rfl

/-- The beginning of a shutdown asks the workers to end, or nobody. -/
theorem beginShutdown_advances {delay : Nat} {after : Node} {effects : List Effect}
    (begun : node.beginShutdown delay = .ok (after, effects)) :
    Advances node.outbox after.outbox effects := by
  unfold beginShutdown at begun
  split at begun
  · cases begun
  · split at begun
    · cases begun
      exact (Worker.Supervisor.stopEach_advances node.outbox _).concat rfl
    · cases begun
      exact .of_quiet rfl

/-- Looking for channels that nobody asks for asks idle ones to end. -/
theorem reapEach_advances (node : Node) (clock : Int) (ids : List String) :
    Advances node.outbox (node.reapEach clock ids).fst.outbox (node.reapEach clock ids).snd.fst := by
  induction ids generalizing node with
  | nil => exact .of_quiet rfl
  | cons id rest inductionHypothesis =>
    unfold reapEach
    split
    · exact inductionHypothesis node
    · split
      · exact inductionHypothesis node
      · split
        · exact inductionHypothesis node
        · next outbox supervisor effects stopped =>
          exact (Worker.Supervisor.stop_advances stopped).append
            (inductionHypothesis (node.withWorkers outbox supervisor))

/-- Starting a stream that was asked for asks nothing. -/
theorem lazyStart_advances (node : Node) (around : Surroundings) (files : FileTree)
    (spec : Stream.Spec) :
    Advances node.outbox (node.lazyStart around files spec).node.outbox
      (node.lazyStart around files spec).effects :=
  .of_quiet (node.supervisor.askedIds_create around files spec)

/-- Neither does the end of a worker. -/
theorem workerExited_advances (around : Surroundings) (files : FileTree) (id : String)
    (serial : Nat) (code signal : Option Int) :
    Advances node.outbox (node.workerExited around files id serial code signal).node.outbox
      (node.workerExited around files id serial code signal).effects := by
  unfold workerExited
  split
  · exact .of_quiet rfl
  · next supervisor handle gone =>
    have told : ∀ sender : Node, askedIds (sender.broadcast "quit_status_stream"
        (some (quitParams id code signal)) ++ cleanup handle) = [] := by
      intro sender
      rw [askedIds_append, askedIds_broadcast, List.nil_append]
      unfold cleanup
      split <;> rfl
    simp only
    split
    · exact (Advances.of_quiet (told _)).append
        (lazyStart_advances { node with supervisor } around files handle.spec)
    · exact (Advances.of_quiet (told _)).concat rfl

/-- A command asks workers to end at most. -/
theorem apply_advances (around : Surroundings) (files : FileTree) (command : Command) :
    Advances node.outbox (node.apply around files command).node.outbox
      (node.apply around files command).effects := by
  cases command with
  | startStream spec => exact node.lazyStart_advances around files spec
  | touchStream id => exact .of_quiet rfl
  | workerMessage id serial message =>
    have answered := node.supervisor.askedIds_receive node.outbox id serial message
    simp only [apply, workerMessage]
    split
    · exact (Advances.of_quiet answered).concat (askedIds_broadcast _ _)
    · exact .of_quiet answered
  | workerLinkClosed id serial => exact .of_quiet rfl
  | workerExited id serial code signal =>
    exact workerExited_advances around files id serial code signal
  | expireStream id serial => exact node.supervisor.expire_advances node.outbox id serial
  | stopWorkers => exact Worker.Supervisor.stopEach_advances node.outbox _
  | preparedDirectories roots channel response =>
    refine .of_quiet (askedIds_eq_nil fun effect sent => ?_)
    rw [eq_of_mem_send sent]
    rfl

/-- A request that is performed asks workers to end at most. -/
theorem perform_advances {around : Surroundings} {files : FileTree} {name : String}
    {id : Rpc.Id} {method : Method} {given : Option Json} {turn : Turn} {result : Option Json}
    (performed : Request.perform around node files name id method given = (turn, .ok result)) :
    Advances node.outbox turn.node.outbox turn.effects := by
  cases method with
  | activate =>
    obtain ⟨handled, done, -, rfl⟩ := Request.conclude_eq_ok performed
    obtain ⟨license, word, expiration, session, -, -, -, -, -, rfl⟩ :=
      Request.activate_eq_ok_iff.mp done
    exact .of_quiet rfl
  | stopService =>
    obtain ⟨handled, done, -, rfl⟩ := Request.conclude_eq_ok performed
    obtain ⟨duration, after, effects, -, begun, rfl⟩ := Request.stopService_eq_ok done
    exact beginShutdown_advances begun
  | pingService =>
    cases performed
    exact .of_quiet rfl
  | prepareService =>
    obtain ⟨handled, done, -, rfl⟩ := Request.conclude_eq_ok performed
    obtain ⟨work, rfl⟩ := Request.prepareService_eq_ok done
    exact .of_quiet rfl
  | syncService =>
    obtain ⟨handled, done, -, rfl⟩ := Request.conclude_eq_ok performed
    obtain ⟨vodLinks, codLinks, rfl⟩ := Request.syncService_eq_ok done
    exact .of_quiet rfl
  | getLogService =>
    obtain ⟨handled, done, -, rfl⟩ := Request.conclude_eq_ok performed
    obtain ⟨work, rfl⟩ := Request.getLogService_eq_ok done
    exact .of_quiet rfl
  | startStream =>
    obtain ⟨-, spec, made, after, effects, -, created, rfl⟩ :=
      Request.startStream_eq_ok performed
    have quiet := node.supervisor.askedIds_create around files spec
    rw [created] at quiet
    exact .of_quiet quiet
  | stopStream =>
    obtain ⟨handled, done, -, rfl⟩ := Request.conclude_eq_ok performed
    obtain ⟨stream, outbox, supervisor, effects, -, stopped, rfl⟩ := Request.stopStream_eq_ok done
    exact Worker.Supervisor.stop_advances stopped
  | restartStream =>
    obtain ⟨handled, done, -, rfl⟩ := Request.conclude_eq_ok performed
    obtain ⟨stream, outbox, supervisor, effects, -, restarted, rfl⟩ := Request.restartStream_eq_ok done
    exact Worker.Supervisor.restart_advances restarted
  | getLogStream | getPipelineStream =>
    obtain ⟨handled, done, -, rfl⟩ := Request.conclude_eq_ok performed
    obtain ⟨work, rfl⟩ := Request.getStreamFile_eq_ok done
    exact .of_quiet rfl

/-- So does whatever a session says. -/
theorem receive_advances (around : Surroundings) (files : FileTree) (name : String)
    (message : Rpc.Message) :
    Advances node.outbox (node.receive around files name message).node.outbox
      (node.receive around files name message).effects := by
  cases message with
  | notification notification => exact .of_quiet rfl
  | response response =>
    simp only [receive, answered]
    split <;> exact .of_quiet rfl
  | request request =>
    have handled : Advances node.outbox (node.handle around files name request).fst.node.outbox
        (node.handle around files name request).fst.effects := by
      unfold handle Request.dispatch
      cases Method.ofName? request.method with
      | none => exact .of_quiet rfl
      | some method =>
        simp only
        cases method.guard.check (node.session? name) with
        | error fault => exact .of_quiet rfl
        | ok =>
          simp only
          rcases performed : Request.perform around node files name (answerId request) method
            request.params with ⟨turn, outcome⟩
          cases outcome with
          | error fault =>
            obtain ⟨made, rfl⟩ := Request.perform_eq_error performed
            exact .of_quiet rfl
          | ok result => exact perform_advances performed
    simp only [receive]
    split
    · exact .of_quiet rfl
    · split
      · exact handled.concat (askedIds_sendTo _ _)
      · exact handled

/-- Asking a session takes at most one number. -/
theorem pingSession_advances (node : Node) (params : Json) (outbox : Outbox) (name : String)
    (session : Session) :
    Advances outbox (node.pingSession outbox params name session).fst
      ((node.pingSession outbox params name session).snd.toList.flatMap Prod.snd) := by
  unfold pingSession
  split
  · split
    · exact .of_quiet rfl
    · next channel known =>
      have asked := outbox.request_advances channel pingMethod (some params)
      split
      · next made =>
        rw [made] at asked
        exact asked
      · next made =>
        rw [made] at asked
        exact asked
  · exact .of_quiet rfl

/-- Asking the sessions takes a number for each that is asked, or cannot be reached. -/
theorem pingEach_advances (node : Node) (params : Json) (outbox : Outbox)
    (sessions : List (String × Session)) :
    Advances outbox (node.pingEach params outbox sessions).fst
      (node.pingEach params outbox sessions).snd.snd.snd := by
  induction sessions generalizing outbox with
  | nil => exact .of_quiet rfl
  | cons entry rest inductionHypothesis =>
    obtain ⟨name, session⟩ := entry
    have asked := node.pingSession_advances params outbox name session
    unfold pingEach
    split
    · split
      · next next after effects outcome =>
        have asked : Advances outbox next effects := by simpa [outcome] using asked
        exact asked.append (inductionHypothesis next)
      · next next outcome =>
        rw [outcome] at asked
        exact asked.append (inductionHypothesis next)
    · exact inductionHypothesis outbox

/-- A chore asks under new numbers. -/
theorem doChore_advances (around : Surroundings) (files : FileTree) (chore : Chore) :
    Advances node.outbox (node.doChore around files chore).node.outbox
      (node.doChore around files chore).effects := by
  cases chore with
  | ping => exact node.pingEach_advances _ node.outbox node.sessions
  | reap => exact node.reapEach_advances around.clock _
  | sweep => exact .of_quiet rfl
  | report => exact .of_quiet (askedIds_broadcast _ _)
  | license =>
    simp only [doChore, checkLicense]
    split
    · exact .of_quiet rfl
    · split
      · next begun => exact beginShutdown_advances begun
      · exact .of_quiet rfl

/-- Whatever happens at a moment, what the node asks is numbered onwards. -/
theorem numbered_step (node : Node) (moment : Moment) :
    Numbered node.outbox.nextRequest (node.step moment).node.outbox.nextRequest
      (node.step moment).effects := by
  obtain ⟨around, files, event⟩ := moment
  cases event with
  | connected name peer => exact .of_quiet (Nat.le_refl _) rfl
  | dropped name => exact .of_quiet (Nat.le_refl _) rfl
  | hungUp channel => exact .of_quiet (Nat.le_refl _) rfl
  | heard name message => exact (receive_advances around files name message).numbered
  | commanded command => exact (apply_advances around files command).numbered
  | due chore => exact (doChore_advances around files chore).numbered

/-- A channel stays as open as it is, unless somebody connects or hangs up. -/
theorem isOpen_step (node : Node) {moment : Moment} {channel : Channel}
    (connected : ∀ name peer, moment.event = .connected name peer → channel ≠ .session name)
    (heldOn : moment.event ≠ .hungUp channel) :
    (node.step moment).node.outbox.isOpen channel = node.outbox.isOpen channel := by
  obtain ⟨around, files, event⟩ := moment
  cases event with
  | connected name peer =>
    have other := connected name peer rfl
    simp [step, connect, Outbox.listen, Outbox.isOpen, other]
  | dropped name => rfl
  | hungUp other =>
    have different : channel ≠ other := by
      rintro rfl
      exact heldOn rfl
    simp [step, Outbox.hangUp, Outbox.isOpen, different]
  | heard name message =>
    simp only [step, Outbox.isOpen, (receive_advances around files name message).closed]
  | commanded command => simp only [step, Outbox.isOpen, (apply_advances around files command).closed]
  | due chore => simp only [step, Outbox.isOpen, (doChore_advances around files chore).closed]

/-- What a whole history wants of the outside, in order. -/
def effectsOf (node : Node) : List Moment → List Effect
  | [] => []
  | moment :: later => (node.step moment).effects ++ (node.step moment).node.effectsOf later

/-- What a history wants comes part by part. -/
theorem effectsOf_append (node : Node) (before later : List Moment) :
    node.effectsOf (before ++ later) =
      node.effectsOf before ++ (node.after before).effectsOf later := by
  induction before generalizing node with
  | nil => rfl
  | cons moment rest inductionHypothesis =>
    rw [List.cons_append, effectsOf, inductionHypothesis, effectsOf, after_cons, List.append_assoc]

/-- So what the node asks in a whole history is numbered onwards. -/
theorem numbered_after (node : Node) (history : List Moment) :
    Numbered node.outbox.nextRequest (node.after history).outbox.nextRequest
      (node.effectsOf history) := by
  induction history generalizing node with
  | nil => exact .of_quiet (Nat.le_refl _) rfl
  | cons moment later inductionHypothesis =>
    exact (node.numbered_step moment).append (inductionHypothesis _)

end Node
end MediaNode
