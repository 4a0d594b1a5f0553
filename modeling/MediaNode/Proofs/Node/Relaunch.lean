import MediaNode.Proofs.Node.History
import MediaNode.Proofs.Worker.Relaunch

/-!
# What follows the end of a worker

When the process of a worker has ended, the node takes its handle away and launches the
stream again or leaves it at that. Which of the two was decided while the worker lived:
by the restart that turned it to its end, unless a stop of its stream or of all streams
came later. An exit that nobody asked for decides for the end.

That a launch is attempted says that the stream is started on the node without the
worker; whether that succeeds is another matter.
-/
namespace MediaNode

open Worker (Operation launchedSerials launchedSerials_append)

/-- Whether a restart is what the history of a node decided about a worker. -/
def RestartStands (settings : Settings) (history : List Moment) (id : String)
    (serial : Nat) : Prop :=
  Worker.RestartStands (.ofSettings settings) ((Node.ofSettings settings).callsOf history) id
    serial

/-- Whether an event may stop the worker of a stream for good although it is already asked
to end: a request to stop this stream or the service, or the end of a delay or a license. -/
def Event.mayStop (id : String) : Event → Prop
  | .heard _ (.request request) =>
    request.method = Method.stopService.name ∨
      request.method = Method.stopStream.name ∧
        Request.params Request.streamId request.params = .ok id
  | .commanded .stopWorkers => True
  | .due .license => True
  | _ => False

namespace Node

variable {node : Node}

/-- What the end of a worker leads to, when it is decided whether it is launched again. -/
structure ExitDecided (node : Node) (moment : Moment) (handle : Worker.Handle)
    (again : Prop) : Prop where
  named : handle.spec.id? = some handle.id
  /-- A new worker is attempted exactly when it was decided, -/
  attempted_iff : .create moment.around moment.files handle.spec ∈ node.calls moment ↔ again
  /-- by starting the stream on the node without the old one. -/
  relaunched : again →
    let start := (node.without handle.id handle.serial).lazyStart moment.around moment.files
      handle.spec
    (node.step moment).node = start.node ∧ (node.step moment).files = start.files ∧
      launchedSerials (node.step moment).effects = launchedSerials start.effects
  /-- Otherwise the old one is gone, and its stream has no worker. -/
  gone : ¬ again →
    (node.step moment).node = node.without handle.id handle.serial ∧
      (node.step moment).files = moment.files ∧
      launchedSerials (node.step moment).effects = [] ∧
      handle.id ∉ (node.step moment).node.supervisor.registry.ids

/-- The flag of the handle is all that decides at the exit. -/
theorem exitDecided_of_restart (around : Surroundings) (files : FileTree)
    (code signal : Option Int) {handle : Worker.Handle}
    (found : node.supervisor.registry.getSerial? handle.id handle.serial = some handle)
    (named : handle.spec.id? = some handle.id) :
    node.ExitDecided
      ⟨around, files, .commanded (.workerExited handle.id handle.serial code signal)⟩ handle
      (handle.restart = true) where
  named := named
  attempted_iff := by
    simp [calls, commandCalls, Worker.Supervisor.exited_of_getSerial? found]
  relaunched := by
    intro again
    obtain ⟨told, asides, exit⟩ := workerExited_of_getSerial? around files code signal found
    simp only [step, apply, exit, again, if_true, true_and]
    rw [launchedSerials_append, launchedSerials_of_aside asides, List.nil_append]
  gone := by
    intro ended
    obtain ⟨told, asides, exit⟩ := workerExited_of_getSerial? around files code signal found
    simp only [step, apply, exit, if_neg ended, List.append_nil, launchedSerials_of_aside asides,
      true_and]
    simp [without, Worker.Supervisor.exited_of_getSerial? found, Worker.Supervisor.withRegistry,
      Worker.Registry.ids]

/-- A worker that was asked to end is not stopped again by looking for channels that nobody
asks for. -/
theorem reapCalls_spare (clock : Int) (ids : List String) {handle : Worker.Handle}
    (found : node.supervisor.registry.get? handle.id = some handle)
    (stopping : handle.isStopping = true) :
    ∀ operation ∈ node.reapCalls clock ids, ¬ operation.stops handle.id := by
  induction ids generalizing node with
  | nil => simp [reapCalls]
  | cons id rest inductionHypothesis =>
    unfold reapCalls
    cases present : node.supervisor.registry.get? id with
    | none => exact inductionHypothesis found
    | some other =>
      simp only
      split
      · exact inductionHypothesis found
      next idle =>
        have active : other.isStopping = false := by
          simp only [Bool.or_eq_true, not_or, Bool.not_eq_true] at idle
          exact idle.1
        have different : handle.id ≠ id := by
          rintro rfl
          rw [found] at present
          cases present
          simp [stopping] at active
        have asked := (Worker.Handle.sameWorker_ask node.outbox other .stop).id
        rw [(Worker.Registry.mem_of_get? present).2] at asked
        have untouched : (node.supervisor.registry.replace
            (other.ask node.outbox .stop).snd.fst).get? handle.id = some handle := by
          rw [Worker.Registry.get?_replace_of_ne (by rw [asked]; exact different), found]
        simp only [Worker.Supervisor.stop, present]
        intro operation member
        rcases List.mem_cons.mp member with rfl | later
        · exact different.symm
        · exact inductionHypothesis untouched operation later

/-- No other event stops a worker that was asked to end before. -/
theorem calls_spare (moment : Moment) {handle : Worker.Handle}
    (mild : ¬ moment.event.mayStop handle.id)
    (found : node.supervisor.registry.get? handle.id = some handle)
    (stopping : handle.isStopping = true) :
    ∀ operation ∈ node.calls moment, ¬ operation.stops handle.id := by
  obtain ⟨around, files, event⟩ := moment
  intro operation called
  cases event with
  | connected name peer => cases called
  | dropped name => cases called
  | hungUp channel => cases called
  | heard name message =>
    cases message with
    | notification notification => cases called
    | response response => cases called
    | request request =>
      obtain ⟨method, named, -, called⟩ := of_mem_requestCalls called
      have word := Method.name_of_ofName? named
      cases method with
      | stopService => exact absurd (.inl word.symm) mild
      | stopStream =>
        obtain ⟨stream, asked, rfl⟩ := List.mem_map.mp called
        rintro rfl
        refine mild (.inr ⟨word.symm, ?_⟩)
        cases read : Request.params Request.streamId request.params with
        | error fault => simp [read, Except.toOption] at asked
        | ok other => simpa [read, Except.toOption, eq_comm] using asked
      | startStream =>
        obtain ⟨spec, -, rfl⟩ := List.mem_map.mp called
        exact not_false
      | restartStream =>
        obtain ⟨stream, -, rfl⟩ := List.mem_map.mp called
        exact not_false
      | _ => cases called
  | commanded command =>
    cases command with
    | stopWorkers => exact absurd trivial mild
    | workerExited id serial code signal =>
      rcases of_mem_exitCalls code signal called with rfl | ⟨spec, rfl⟩
      · exact not_false
      · exact not_false
    | preparedDirectories roots channel response => cases called
    | _ =>
      obtain rfl := List.mem_singleton.mp called
      exact not_false
  | due chore =>
    cases chore with
    | license => exact absurd trivial mild
    | reap => exact reapCalls_spare around.clock _ found stopping operation called
    | _ => cases called

/-- After every history, the end of a live worker leads to a new one exactly when a restart
was what turned the worker to its end and nothing stopped its stream since; in every other
case the stream has no worker then. Of all that can happen to a worker that was asked to
end, only the stopping of its stream or of all streams has a say in this. -/
theorem relaunch_decided (settings : Settings) (history : List Moment) {id : String}
    {serial : Nat} {handle : Worker.Handle}
    (live : ((ofSettings settings).after history).supervisor.registry.getSerial? id serial =
      some handle) :
    (∀ around files code signal, ((ofSettings settings).after history).ExitDecided
      ⟨around, files, .commanded (.workerExited id serial code signal)⟩ handle
      (RestartStands settings history id serial)) ∧
    (handle.isStopping = true → ∀ moment : Moment, ¬ moment.event.mayStop id →
      (RestartStands settings (history ++ [moment]) id serial ↔
        RestartStands settings history id serial)) := by
  have life := after_lifecycle settings history
  obtain ⟨found, rfl⟩ := Worker.Registry.getSerial?_eq_some_iff.mp live
  obtain ⟨registered, rfl⟩ := Worker.Registry.mem_of_get? found
  have reached := after_supervisor (ofSettings settings) history
  constructor
  · intro around files code signal
    have flag : handle.restart = true ↔ RestartStands settings history handle.id handle.serial :=
      Worker.restart_iff_stands settings _ handle (reached ▸ registered)
    rw [← propext flag]
    exact exitDecided_of_restart around files code signal live (life.sound handle registered).named
  · intro stopping moment mild
    have ending := Worker.Ending.of_stopping life registered stopping
    rw [reached] at ending
    unfold RestartStands
    rw [callsOf_append]
    refine Worker.RestartStands.append_iff (Worker.Lifecycle.initial settings) ending ?_
    intro operation called
    rw [callsOf, callsOf, List.append_nil] at called
    exact calls_spare moment mild found stopping operation called

/-- The restart of a relay stands, because a new worker is attempted for it at the exit. -/
theorem relaunch_decided_relay : RestartStands relaySettings relayHistory "s1" 1 := by
  have restarting : (((ofSettings relaySettings).after relayHistory).supervisor.registry.getSerial?
      "s1" 1).map Worker.Handle.restart = some true := by decide +kernel
  obtain ⟨handle, live, again⟩ := Option.map_eq_some_iff.mp restarting
  have decided := (relaunch_decided relaySettings relayHistory live).1 default .empty none none
  refine decided.attempted_iff.mp ?_
  simp [calls, commandCalls, Worker.Supervisor.exited_of_getSerial? live, again]

end Node
end MediaNode
