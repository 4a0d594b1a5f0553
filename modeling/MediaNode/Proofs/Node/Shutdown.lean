import Mathlib.Data.List.Induction
import MediaNode.Proofs.Node.Frame
import MediaNode.Proofs.Node.Guards
import MediaNode.Proofs.Node.Relaunch
import MediaNode.Proofs.Worker.Closing

/-!
# Shutting down

A shutdown is asked for by a request to stop the service and by a license that is over.
The first that is asked for begins; it is remembered for good, so every later one is
refused. The workers are stopped at once when there is no delay, and by a command when
the delay is over. From then on the node only loses workers: whatever happens, nothing is
launched, and each exit takes one worker off.

Nothing here assumes that the command comes only after a delayed shutdown.
-/
namespace MediaNode.Node

open Worker (Operation)

variable {node : Node}

/-- That a shutdown after a delay is asked for at a moment: by a request that its guard lets
pass and whose delay can be read, or at once by a license that is over. -/
inductive AsksShutdown (node : Node) (moment : Moment) : Nat → Prop where
  | requested {name : String} {request : Rpc.Request} {delay : Nat}
      (asked : moment.event = .heard name (.request request))
      (identified : request.id.isNone = false)
      (method : request.method = Method.stopService.name)
      (passed : Method.stopService.guard.check (node.session? name) = .ok ())
      (read : Request.delay request.params = .ok delay) : AsksShutdown node moment delay
  | unlicensed (due : moment.event = .due .license)
      (expired : node.isLicensed moment.around.now = false) : AsksShutdown node moment 0

/-- That a shutdown begins at a moment: it is asked for, and its beginning succeeds. -/
def Begins (node : Node) (moment : Moment) (delay : Nat) : Prop :=
  node.AsksShutdown moment delay ∧ ∃ begun, node.beginShutdown delay = .ok begun

/-- That all workers are stopped at a moment: the delay of a shutdown is over, or one
begins that has no delay. -/
def StopsAll (node : Node) (moment : Moment) : Prop :=
  moment.event = .commanded .stopWorkers ∨ node.Begins moment 0

/-- Only the first shutdown begins. -/
theorem beginShutdown_of_shutdown (begun : node.shutdown = true) (delay : Nat) :
    node.beginShutdown delay = .error .shutdownInProgress := by
  simp [beginShutdown, begun]

/-- A shutdown that cannot begin has begun before. -/
theorem shutdown_of_beginShutdown {delay : Nat} {fault : Fault}
    (refused : node.beginShutdown delay = .error fault) : node.shutdown = true := by
  unfold beginShutdown at refused
  split at refused
  next again => exact again
  next first => split at refused <;> cases refused

/-- The first one does begin. -/
theorem beginShutdown_of_first (first : node.shutdown = false) (delay : Nat) :
    ∃ begun, node.beginShutdown delay = .ok begun := by
  cases begun : node.beginShutdown delay with
  | ok result => exact ⟨result, rfl⟩
  | error fault => exact absurd (shutdown_of_beginShutdown begun) (by simp [first])

/-- A request to stop the service is answered by what the beginning of the shutdown says. -/
theorem handle_stopService {around : Surroundings} {files : FileTree} {name : String}
    {request : Rpc.Request} {delay : Nat} (method : request.method = Method.stopService.name)
    (passed : Method.stopService.guard.check (node.session? name) = .ok ())
    (read : Request.delay request.params = .ok delay) :
    node.handle around files name request =
      match node.beginShutdown delay with
      | .ok (after, effects) =>
        ({ node := after, files, effects }, some (.success (answerId request) (.obj [])))
      | .error fault =>
        ({ node, files }, some (.failure (answerId request) fault.toErrorObject)) := by
  have named : Method.ofName? request.method = some .stopService := by rw [method]; rfl
  have performed : Request.perform around node files name (answerId request) .stopService
      request.params = Request.conclude node files (do
        let begun ← node.beginShutdown delay
        return { node := begun.fst, effects := begun.snd }) := by
    simp only [Request.perform, Request.stopService_eq, read]
    rfl
  simp only [handle, Request.dispatch, named, passed, performed]
  cases node.beginShutdown delay <;> rfl

/-- The first shutdown that is asked for begins as it says. -/
theorem step_of_begins {moment : Moment} {delay : Nat} {after : Node} {effects : List Effect}
    (asks : node.AsksShutdown moment delay)
    (begun : node.beginShutdown delay = .ok (after, effects)) :
    (node.step moment).node = after := by
  obtain ⟨around, files, event⟩ := moment
  cases asks with
  | requested asked identified method passed read =>
    cases asked
    simp only [step, receive, identified, handle_stopService method passed read, begun,
      Bool.false_eq_true, if_false]
  | unlicensed due expired =>
    cases due
    simp only [step, doChore, checkLicense, expired, begun, Bool.false_eq_true, if_false]

/-- What is left of a shutdown that is asked for when one has begun: a request is refused
as such, and a license that is over has no further consequence. -/
structure RefusedAgain (node : Node) (moment : Moment) : Prop where
  request : ∀ name request, moment.event = .heard name (.request request) →
    Refused node moment.around moment.files name request Rpc.Code.shutdownInProgress
  license : moment.event = .due .license →
    (node.step moment).effects = [] ∧ (node.step moment).files = moment.files
  unchanged : (node.step moment).node = node

/-- Every later shutdown that is asked for is refused. -/
theorem refusedAgain_of_asks {moment : Moment} {delay : Nat} (begun : node.shutdown = true)
    (asks : node.AsksShutdown moment delay) : node.RefusedAgain moment := by
  obtain ⟨around, files, event⟩ := moment
  have refused := beginShutdown_of_shutdown begun delay
  cases asks with
  | @requested name request delay asked identified method passed read =>
    cases asked
    have again : Refused node around files name request
        Fault.shutdownInProgress.toErrorObject.code :=
      .of_handle <| by rw [handle_stopService method passed read, refused]
    exact {
      request := by
        intro other repeated same
        cases same
        exact again
      license := fun due => by cases due
      unchanged := by
        obtain ⟨-, -, -, same, -⟩ := again
        exact same }
  | unlicensed due expired =>
    cases due
    have still : node.checkLicense around.now = (node, [], false) := by
      simp only [checkLicense, expired, refused, Bool.false_eq_true, if_false]
    exact {
      request := fun name request other => by cases other
      license := fun _ => by simp only [step, doChore, still, and_self]
      unchanged := by simp only [step, doChore, still] }

/-- The beginning of a shutdown calls for the end of all workers, if anything. -/
theorem of_mem_shutdownCalls {delay : Nat} {operation : Operation}
    (called : operation ∈ node.shutdownCalls delay) : node.shutdown = false ∧ delay = 0 := by
  unfold shutdownCalls at called
  split at called
  · cases called
  next first => simpa using first

/-- Looking for channels that nobody asks for calls for stops only. -/
theorem of_mem_reapCalls {clock : Int} {ids : List String} {operation : Operation}
    (called : operation ∈ node.reapCalls clock ids) :
    ∃ outbox id, operation = .stop outbox id := by
  induction ids generalizing node with
  | nil => cases called
  | cons id rest inductionHypothesis =>
    unfold reapCalls at called
    split at called
    · exact inductionHypothesis called
    · split at called
      · exact inductionHypothesis called
      · split at called
        · exact inductionHypothesis called
        · rcases List.mem_cons.mp called with rfl | later
          · exact ⟨_, _, rfl⟩
          · exact inductionHypothesis later

/-- All workers are stopped only when that is due, and a worker is taken off only when its
process has ended. -/
theorem of_mem_calls {operation : Operation} (called : operation ∈ node.calls moment) :
    (operation.closes = true → node.StopsAll moment) ∧
      ∀ id serial, operation = .exited id serial →
        ∃ code signal, moment.event = .commanded (.workerExited id serial code signal) := by
  obtain ⟨around, files, event⟩ := moment
  cases event with
  | connected name peer => cases called
  | dropped name => cases called
  | hungUp channel => cases called
  | heard name message =>
    cases message with
    | notification notification => cases called
    | response response => cases called
    | request request =>
      have identified : request.id.isNone = false := by
        cases unidentified : request.id.isNone with
        | false => rfl
        | true => simp [calls, requestCalls, unidentified] at called
      obtain ⟨method, named, passed, called⟩ := of_mem_requestCalls called
      have word := (Method.name_of_ofName? named).symm
      cases method with
      | stopService =>
        obtain ⟨delay, asked, called⟩ := List.mem_flatMap.mp called
        obtain ⟨first, rfl⟩ := of_mem_shutdownCalls called
        have read : Request.delay request.params = .ok 0 := by
          cases given : Request.delay request.params with
          | error fault => simp [given, Except.toOption] at asked
          | ok duration => simpa [given, Except.toOption, eq_comm] using asked
        refine ⟨fun _ => .inr ⟨.requested rfl identified word passed read,
          beginShutdown_of_first first 0⟩, ?_⟩
        rintro id serial rfl
        simp [shutdownCalls, first] at called
      | startStream | stopStream | restartStream =>
        obtain ⟨given, -, rfl⟩ := List.mem_map.mp called
        exact ⟨by simp [Operation.closes], by simp⟩
      | _ => cases called
  | commanded command =>
    cases command with
    | stopWorkers => exact ⟨fun _ => .inl rfl, by simp_all [calls, commandCalls]⟩
    | workerExited id serial code signal =>
      rcases of_mem_exitCalls code signal called with rfl | ⟨spec, rfl⟩
      · refine ⟨by simp [Operation.closes], ?_⟩
        rintro other number same
        cases same
        exact ⟨code, signal, rfl⟩
      · exact ⟨by simp [Operation.closes], by simp⟩
    | preparedDirectories roots channel response => cases called
    | _ =>
      obtain rfl := List.mem_singleton.mp called
      exact ⟨by simp [Operation.closes], by simp⟩
  | due chore =>
    cases chore with
    | license =>
      simp only [calls, choreCalls] at called
      split at called
      · cases called
      next expired =>
        obtain ⟨first, -⟩ := of_mem_shutdownCalls called
        refine ⟨fun _ => .inr ⟨.unlicensed rfl (by simpa using expired),
          beginShutdown_of_first first 0⟩, ?_⟩
        rintro id serial rfl
        simp [shutdownCalls, first] at called
    | reap =>
      obtain ⟨outbox, id, rfl⟩ := of_mem_reapCalls called
      exact ⟨by simp [Operation.closes], by simp⟩
    | _ => cases called

/-- A request that asks for no shutdown leaves the flag alone. -/
theorem shutdown_receive {around : Surroundings} {files : FileTree} {name : String}
    {request : Rpc.Request}
    (idle : ∀ delay, ¬ node.AsksShutdown ⟨around, files, .heard name (.request request)⟩ delay) :
    (node.receive around files name (.request request)).node.shutdown = node.shutdown := by
  cases identified : request.id.isNone with
  | true => simp only [receive, identified, if_true]
  | false =>
    have handled : (node.receive around files name (.request request)).node =
        (node.handle around files name request).fst.node := by
      simp only [receive, identified, Bool.false_eq_true, if_false]
      split <;> rfl
    rw [handled]
    have answered := node.handle_answered around files name request
    generalize (node.handle around files name request).fst = turn,
      (node.handle around files name request).snd = response at answered
    cases answered with
    | unknown unnamed => rfl
    | refused named stopped => rfl
    | failed named passed failed => rfl
    | done named passed performed =>
      cases performed with
      | activated read licensed expires good found left silent =>
        rw [left]
        rfl
      | closing read begun =>
        have method := (Method.name_of_ofName? named).symm
        exact absurd (.requested rfl identified method passed read) (idle _)
      | linked vodLinks codLinks => rfl
      | told result => rfl
      | deferred job idle => rfl
      | supervised called outbox => rfl

/-- Nothing else than a shutdown touches the flag. -/
theorem shutdown_step {moment : Moment} (idle : ∀ delay, ¬ node.AsksShutdown moment delay) :
    (node.step moment).node.shutdown = node.shutdown := by
  obtain ⟨around, files, event⟩ := moment
  cases event with
  | connected name peer => rfl
  | dropped name => rfl
  | hungUp channel => rfl
  | heard name message =>
    cases message with
    | request request => exact shutdown_receive idle
    | notification notification => rfl
    | response response =>
      simp only [step, receive, answered]
      split <;> rfl
  | commanded command =>
    rw [step, apply_frame]
  | due chore =>
    cases chore with
    | reap =>
      simp only [step, doChore, reap]
      rw [reapEach_frame]
      rfl
    | license =>
      cases expired : node.isLicensed around.now with
      | false => exact absurd (.unlicensed rfl expired) (idle 0)
      | true => simp only [step, doChore, checkLicense, expired, if_true]
    | _ => rfl

/-- A shutdown that has begun is remembered. -/
theorem shutdown_after (begun : node.shutdown = true) (later : List Moment) :
    (node.after later).shutdown = true := by
  induction later generalizing node with
  | nil => exact begun
  | cons moment rest inductionHypothesis =>
    refine inductionHypothesis ?_
    by_cases asks : ∃ delay, node.AsksShutdown moment delay
    · obtain ⟨delay, asks⟩ := asks
      rw [(refusedAgain_of_asks begun asks).unchanged, begun]
    · rw [shutdown_step fun delay asked => asks ⟨delay, asked⟩, begun]

/-- The moment at which a shutdown begins raises the flag. -/
theorem shutdown_of_begins {moment : Moment} {delay : Nat} (begins : node.Begins moment delay) :
    (node.step moment).node.shutdown = true := by
  obtain ⟨asks, ⟨after, effects⟩, begun⟩ := begins
  rw [step_of_begins asks begun, beginShutdown_frame begun]

/-- Only a moment at which a shutdown began raised it. -/
theorem begins_of_shutdown (history : List Moment) (fresh : node.shutdown = false)
    (begun : (node.after history).shutdown = true) :
    ∃ before moment later delay, history = before ++ moment :: later ∧
      (node.after before).Begins moment delay := by
  induction history using List.reverseRecOn with
  | nil => exact absurd (begun.symm.trans fresh) (by simp)
  | append_singleton earlier last inductionHypothesis =>
    cases flag : (node.after earlier).shutdown with
    | true =>
      obtain ⟨before, moment, later, delay, rfl, begins⟩ := inductionHypothesis flag
      exact ⟨before, moment, later ++ [last], delay, by simp, begins⟩
    | false =>
      have asked : ∃ delay, (node.after earlier).AsksShutdown last delay := by
        by_contra idle
        rw [after_append, after_cons, after_nil,
          shutdown_step fun delay asks => idle ⟨delay, asks⟩, flag] at begun
        cases begun
      obtain ⟨delay, asks⟩ := asked
      exact ⟨earlier, last, [], delay, rfl, asks, beginShutdown_of_first flag delay⟩

/-- A moment at which all workers are stopped closes the supervisor. -/
theorem closed_of_stopsAll {moment : Moment} (stops : node.StopsAll moment) :
    (node.step moment).node.supervisor.Closed := by
  rcases stops with commanded | ⟨asks, ⟨after, effects⟩, begun⟩
  · obtain ⟨around, files, event⟩ := moment
    cases commanded
    exact .of_stopAll node.supervisor node.outbox
  · have first : node.shutdown = false := Bool.eq_false_iff.mpr fun again => by
      simp [beginShutdown_of_shutdown again] at begun
    have follows := (beginShutdown_eq_ok begun).1.supervisor
    simp only [shutdownCalls, first, Bool.false_or, ne_eq, not_true_eq_false, decide_false,
      Bool.false_eq_true, if_false, Worker.Supervisor.run_cons,
      Worker.Supervisor.run_nil] at follows
    rw [step_of_begins asks begun, follows]
    exact .of_stopAll node.supervisor node.outbox

/-- What a moment can still do to a node whose workers were all stopped. -/
structure WindsDown (node : Node) (moment : Moment) : Prop where
  dwindles : node.supervisor.Dwindles (node.step moment).node.supervisor (node.step moment).effects
  /-- The exit of a registered worker takes that worker off, and no other. -/
  exit : ∀ id serial code signal,
    moment.event = .commanded (.workerExited id serial code signal) →
    (id, serial) ∈ node.supervisor.registry.workers →
    (node.step moment).node.supervisor.registry.workers =
      node.supervisor.registry.workers.erase (id, serial)

section closed

variable {trace : List Effect}

/-- A closed supervisor of a node only winds down. -/
theorem windsDown_of_closed (closed : node.supervisor.Closed)
    (life : Worker.Lifecycle node.supervisor trace) (moment : Moment) : node.WindsDown moment where
  dwindles := by
    have follows := node.step_follows moment
    have run := closed.run life (node.calls moment)
    rw [← follows.supervisor] at run
    exact { run with launches := follows.launches.trans run.launches }
  exit := by
    intro id serial code signal exits member
    obtain ⟨around, files, event⟩ := moment
    cases exits
    obtain ⟨handle, registered, rfl, rfl, found⟩ :=
      Worker.Registry.exists_of_mem_workers life.distinct member
    have final : ¬ handle.restart = true := by simp [(closed.ending handle registered).2]
    have decided := exitDecided_of_restart around files code signal found
      (life.sound handle registered).named
    rw [(decided.gone final).1, without, Worker.Supervisor.exited_of_getSerial? found]
    exact Worker.Registry.workers_filter life.distinct found

/-- A closed supervisor of a node stays closed. -/
theorem closed_after (closed : node.supervisor.Closed)
    (life : Worker.Lifecycle node.supervisor trace) (later : List Moment) :
    (node.after later).supervisor.Closed := by
  rw [after_supervisor]
  exact (closed.run life _).closed

end closed

/-- A moment at which all workers are stopped closes the supervisor for every later one. -/
theorem closed_from {settings : Settings} {before : List Moment} {moment : Moment}
    (stops : ((ofSettings settings).after before).StopsAll moment) (later : List Moment) :
    ((ofSettings settings).after (before ++ moment :: later)).supervisor.Closed := by
  have life := after_lifecycle settings (before ++ [moment])
  rw [after_append, after_cons, after_nil] at life
  rw [after_append, after_cons]
  exact closed_after (closed_of_stopsAll stops) life later

/-- After every history: once all workers were stopped, every registered one is ending for
good, and all that can still happen is that workers go, one with each exit. And once a
shutdown has begun, none begins again: each that is asked for is refused and changes
nothing. -/
theorem shutdown_final (settings : Settings) (before : List Moment) (moment : Moment)
    (later : List Moment) :
    let start := (ofSettings settings).after before
    let now := (ofSettings settings).after (before ++ moment :: later)
    (start.StopsAll moment → now.supervisor.Closed ∧ ∀ next, now.WindsDown next) ∧
    (∀ delay, start.Begins moment delay →
      ∀ again, now.beginShutdown again = .error .shutdownInProgress ∧
        ∀ next, ¬ now.Begins next again ∧
          (now.AsksShutdown next again → now.RefusedAgain next)) := by
  intro start now
  constructor
  · intro stops
    have closed := closed_from stops later
    exact ⟨closed, windsDown_of_closed closed (after_lifecycle settings _)⟩
  · intro delay begins again
    have flag : now.shutdown = true := by
      simp only [now, after_append, after_cons]
      exact shutdown_after (shutdown_of_begins begins) later
    have refused := beginShutdown_of_shutdown flag again
    refine ⟨refused, fun next => ⟨?_, refusedAgain_of_asks flag⟩⟩
    rintro ⟨-, result, begun⟩
    simp [refused] at begun

/-- Stopping the service while a relay waits for its restart closes the supervisor, so that
the restart never comes. -/
theorem shutdown_final_relay :
    let stop : Moment := ⟨default, .empty,
      .heard "c" (.request (.make Method.stopService.name none (.number 4)))⟩
    ((ofSettings relaySettings).after relayHistory).Begins stop 0 ∧
      ∀ later,
        let now := (ofSettings relaySettings).after (relayHistory ++ stop :: later)
        now.supervisor.Closed ∧ now.beginShutdown 0 = .error .shutdownInProgress := by
  intro stop
  have verified : (((ofSettings relaySettings).after relayHistory).session? "c").any
      (fun session => session.verified || session.peer.isLoopback) = true := by decide +kernel
  have first : ((ofSettings relaySettings).after relayHistory).shutdown = false := by
    decide +kernel
  have passed : Method.stopService.guard.check
      (((ofSettings relaySettings).after relayHistory).session? "c") = .ok () := if_pos verified
  have begins : ((ofSettings relaySettings).after relayHistory).Begins stop 0 :=
    ⟨.requested rfl rfl rfl passed rfl, beginShutdown_of_first first 0⟩
  refine ⟨begins, fun later => ?_⟩
  have final := shutdown_final relaySettings relayHistory stop later
  exact ⟨(final.1 (.inr begins)).1, (final.2 0 begins 0).1⟩

end MediaNode.Node
