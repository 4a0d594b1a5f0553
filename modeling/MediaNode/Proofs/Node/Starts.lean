import MediaNode.Proofs.Node.Shutdown
import MediaNode.Proofs.Worker.Creation

/-!
# Starting streams

A stream is started by a command, when a file was asked for that it would make, or by a
request. Of all the starts of one stream the first that succeeds is the only one, for as
long as the process of its worker goes on and no shutdown stops the workers. What else
happens meanwhile does not matter. Every other start leaves the node as it is, and a
request among them is answered with the reason.
-/
namespace MediaNode.Node

open Worker (Supervisor)

variable {node : Node} {moment : Moment} {spec : Stream.Spec}

/-- That a stream is started at a moment: by a command, or by a request that its guard lets
pass and that holds a spec. -/
inductive Starts (node : Node) (moment : Moment) (spec : Stream.Spec) : Prop where
  | commanded (event : moment.event = .commanded (.startStream spec))
  | requested {name : String} {request : Rpc.Request}
      (asked : moment.event = .heard name (.request request))
      (identified : request.id.isNone = false)
      (method : request.method = Method.startStream.name)
      (passed : Method.startStream.guard.check (node.session? name) = .ok ())
      (read : Request.spec request.params = .ok spec)

/-- What is left of a start that fails: the node stays as it is, and whoever asked is told
why. Nobody is told anything else. -/
structure StartFails (node : Node) (moment : Moment) (fault : Fault) : Prop where
  unchanged : (node.step moment).node = node
  answered : ∀ name request, moment.event = .heard name (.request request) →
    (node.handle moment.around moment.files name request).snd =
      some (.failure (answerId request) fault.toErrorObject)
  silent : ∀ effect ∈ (node.step moment).effects, ∃ name request,
    moment.event = .heard name (.request request) ∧
      effect = .deliver (.session name)
        (.response (.failure (answerId request) fault.toErrorObject))

/-- A request to start a stream is answered by what the start comes to. -/
theorem handle_startStream {around : Surroundings} {files : FileTree} {name : String}
    {request : Rpc.Request} (method : request.method = Method.startStream.name)
    (passed : Method.startStream.guard.check (node.session? name) = .ok ())
    (read : Request.spec request.params = .ok spec) :
    node.handle around files name request =
      let start := node.supervisor.create around files spec
      ({ node := { node with supervisor := start.snd.supervisor }, files := start.fst,
          effects := start.snd.effects },
        some (match start.snd.result with
          | .ok () => .success (answerId request) (.obj [])
          | .error fault => .failure (answerId request) fault.toErrorObject)) := by
  have named : Method.ofName? request.method = some .startStream := by rw [method]; rfl
  simp only [handle, Request.dispatch, named, passed, Request.perform, Request.startStream, read]
  cases (node.supervisor.create around files spec).snd.result <;> rfl

/-- A start changes the workers alone, into what it comes to. -/
theorem step_of_starts (starts : node.Starts moment spec) :
    (node.step moment).node = { node with
      supervisor := (node.supervisor.create moment.around moment.files spec).snd.supervisor } := by
  obtain ⟨around, files, event⟩ := moment
  cases starts with
  | commanded event =>
    cases event
    rfl
  | requested asked identified method passed read =>
    cases asked
    simp only [step, receive, identified, handle_startStream method passed read,
      Bool.false_eq_true, if_false]

/-- A start that fails changes nothing. -/
theorem startFails_of_create {made : FileTree} {after : Supervisor} {effects : List Effect}
    {fault : Fault} (starts : node.Starts moment spec)
    (failed : node.supervisor.create moment.around moment.files spec =
      (made, ⟨after, effects, .error fault⟩)) :
    node.StartFails moment fault := by
  obtain ⟨rfl, rfl, -⟩ := Supervisor.create_eq_error failed
  have unchanged := step_of_starts starts
  rw [failed] at unchanged
  obtain ⟨around, files, event⟩ := moment
  cases starts with
  | commanded event =>
    cases event
    have silent : (node.lazyStart around files spec).effects = [] := by
      simp only [lazyStart, failed]
    exact {
      unchanged
      answered := fun name request other => by cases other
      silent := by simp [step, apply, silent] }
  | @requested name request asked identified method passed read =>
    cases asked
    have answer : node.handle around files name request = _ :=
      handle_startStream method passed read
    simp only [failed] at answer
    exact {
      unchanged
      answered := by
        intro other repeated same
        cases same
        rw [answer]
      silent := by
        intro effect sent
        simp only [step, receive, identified, answer, Bool.false_eq_true, if_false,
          List.nil_append] at sent
        exact ⟨name, request, rfl, eq_of_mem_sendTo sent⟩ }

/-- That for the length of a history nothing ends a worker: its process does not end, and no
shutdown stops all workers. -/
def Undisturbed (node : Node) (id : String) (serial : Nat) : List Moment → Prop
  | [] => True
  | moment :: later =>
    (∀ code signal, moment.event ≠ .commanded (.workerExited id serial code signal)) ∧
      ¬ node.StopsAll moment ∧ (node.step moment).node.Undisturbed id serial later

/-- That a history consists of starts of one stream. -/
def OnlyStarts (node : Node) (id : String) : List Moment → Prop
  | [] => True
  | moment :: later =>
    (∃ spec, node.Starts moment spec ∧ spec.id? = some id) ∧
      (node.step moment).node.OnlyStarts id later

/-- That a spec passes validation, preparation and the building of its configuration. -/
def Passes (moment : Moment) (spec : Stream.Spec) : Prop :=
  (Stream.validate spec).snd = .ok () ∧
    (∃ made identity, Stream.Identity.prepare moment.files spec true = (made, .ok identity)) ∧
    ∃ config, Stream.build spec = .ok config

/-- That a worker is registered with a node that accepts more of them. -/
structure Serves (node : Node) (id : String) (serial : Nat) : Prop where
  distinct : node.supervisor.registry.ids.Nodup
  member : (id, serial) ∈ node.supervisor.registry.workers
  accepting : node.supervisor.accepting = true

namespace Serves

variable {id : String} {serial : Nat}

/-- The stream of the worker is taken. -/
theorem taken (serves : node.Serves id serial) : id ∈ node.supervisor.registry.ids := by
  rw [← Worker.Registry.map_fst_workers]
  exact List.mem_map_of_mem serves.member

/-- A moment at which nothing ends the worker leaves it where it is. -/
theorem step (serves : node.Serves id serial)
    (running : ∀ code signal, moment.event ≠ .commanded (.workerExited id serial code signal))
    (unstopped : ¬ node.StopsAll moment) : (node.step moment).node.Serves id serial := by
  have reached := (node.step_follows moment).supervisor
  have lasting : .exited id serial ∉ node.calls moment := fun called => by
    obtain ⟨code, signal, exits⟩ := (of_mem_calls called).2 id serial rfl
    exact running code signal exits
  have mild : ∀ operation ∈ node.calls moment, operation.closes = false := by
    intro operation called
    exact Bool.eq_false_iff.mpr fun closes => unstopped ((of_mem_calls called).1 closes)
  obtain ⟨distinct, member⟩ := Supervisor.run_keeps serves.distinct serves.member lasting
  rw [← reached] at distinct member
  refine ⟨distinct, member, ?_⟩
  rw [reached, Supervisor.accepting_run serves.distinct mild, serves.accepting]

/-- So does a history of such moments. -/
theorem after (serves : node.Serves id serial) {later : List Moment}
    (calm : node.Undisturbed id serial later) : (node.after later).Serves id serial := by
  induction later generalizing node with
  | nil => exact serves
  | cons moment rest inductionHypothesis =>
    obtain ⟨running, unstopped, calm⟩ := calm
    exact inductionHypothesis (serves.step running unstopped) calm

/-- Every start of its stream fails; one that passes the checks does because of it. -/
theorem start_fails (serves : node.Serves id serial) (starts : node.Starts moment spec)
    (named : spec.id? = some id) :
    ∃ fault, node.StartFails moment fault ∧ (Passes moment spec → fault = .streamExists id) := by
  have idle : ¬ node.supervisor.Launches moment.around moment.files spec :=
    Supervisor.not_launches_of_taken named serves.taken
  rcases created : node.supervisor.create moment.around moment.files spec with
    ⟨made, after, effects, outcome⟩
  cases outcome with
  | ok => exact absurd (Supervisor.launches_iff.mpr (by rw [created])) idle
  | error fault =>
    refine ⟨fault, startFails_of_create starts created, ?_⟩
    rintro ⟨valid, ⟨tree, identity, prepared⟩, config, built⟩
    have own := Stream.Identity.id?_of_derive (Stream.Identity.derive_of_prepare prepared)
    obtain rfl : id = identity.id := Option.some.inj (named.symm.trans own)
    exact (Supervisor.create_eq_error created).2.2.eq_streamExists
      ⟨serves.accepting, valid, prepared⟩ built serves.taken

/-- So any number of starts of its stream leave the node as it is. -/
theorem after_onlyStarts (serves : node.Serves id serial) {later : List Moment}
    (starts : node.OnlyStarts id later) : node.after later = node := by
  induction later with
  | nil => rfl
  | cons moment rest inductionHypothesis =>
    obtain ⟨⟨spec, first, named⟩, others⟩ := starts
    obtain ⟨fault, fails, -⟩ := serves.start_fails first named
    rw [fails.unchanged] at others
    rw [after_cons, fails.unchanged, inductionHypothesis others]

end Serves

/-- Every start registers one new worker with a process of its own, or hands back the supervisor
as it was and no process, and nothing was done to the outside. What a node keeps of a start is what
the start hands back. And once a start of a stream has succeeded, no other one does until the
process of its worker ends or all workers are stopped: those that pass the checks fail because there
is a worker, and its handle is as if they had not been tried. -/
theorem started_once :
    (∀ (supervisor : Supervisor) (around : Surroundings) (files : FileTree) (spec : Stream.Spec),
      supervisor.Attempt around files spec (supervisor.create around files spec)) ∧
    (∀ (node : Node) (moment : Moment) (spec : Stream.Spec), node.Starts moment spec →
      (node.step moment).node = { node with
        supervisor := (node.supervisor.create moment.around moment.files spec).snd.supervisor }) ∧
    ∀ (node : Node) (moment : Moment) (spec : Stream.Spec) (supervisor : Supervisor)
      (effects : List Effect), node.supervisor.registry.ids.Nodup → node.Starts moment spec →
      (node.supervisor.create moment.around moment.files spec).snd =
        ⟨supervisor, effects, .ok ()⟩ →
      ∃ handle, node.supervisor.Started spec handle supervisor effects ∧
        (node.step moment).node = { node with supervisor } ∧
        (∀ later, (node.step moment).node.OnlyStarts handle.id later →
          (node.step moment).node.after later = { node with supervisor }) ∧
        ∀ later, (node.step moment).node.Undisturbed handle.id handle.serial later →
          let now := (node.step moment).node.after later
          (handle.id, handle.serial) ∈ now.supervisor.registry.workers ∧
          ∀ next other, now.Starts next other → other.id? = some handle.id →
            ∃ fault, now.StartFails next fault ∧
              (Passes next other → fault = .streamExists handle.id) := by
  refine ⟨Supervisor.attempt, fun node moment spec starts => step_of_starts starts, ?_⟩
  intro node moment spec supervisor effects distinct starts succeeded
  have created : node.supervisor.create moment.around moment.files spec =
      (_, ⟨supervisor, effects, .ok ()⟩) := Prod.ext rfl succeeded
  obtain ⟨handle, started⟩ := Supervisor.started_of_create created
  have left := step_of_starts starts
  rw [succeeded] at left
  have turnover := Supervisor.turnover distinct (.create moment.around moment.files spec)
  rw [Supervisor.step, created] at turnover
  have serves : (node.step moment).node.Serves handle.id handle.serial := by
    obtain ⟨identity, ready, -⟩ := Supervisor.ready_of_create created
    rw [left]
    exact {
      distinct := turnover.distinct distinct
      member := by simp [started.after, Worker.Registry.workers]
      accepting := by simp [started.after, ready.accepting] }
  refine ⟨handle, started, left, fun later only => ?_, fun later calm => ?_⟩
  · rw [serves.after_onlyStarts only, left]
  · have still := serves.after calm
    exact ⟨still.member, fun next other again named => still.start_fails again named⟩

/-- When files of the relay are asked for twice, the second start fails because of the worker
that the first one brought in. -/
theorem started_once_relay :
    let asked : Moment := ⟨default, .empty, .commanded (.startStream Worker.relaySpec)⟩
    let node := ((ofSettings relaySettings).step asked).node
    ("s1", 1) ∈ node.supervisor.registry.workers ∧ node.StartFails asked (.streamExists "s1") := by
  intro asked node
  have succeeds : ((ofSettings relaySettings).supervisor.create default .empty
      Worker.relaySpec).snd.result.toOption.isSome = true := by decide +kernel
  rcases created : (ofSettings relaySettings).supervisor.create default .empty Worker.relaySpec with
    ⟨made, supervisor, effects, outcome⟩
  cases outcome with
  | error fault => simp [created, Except.toOption] at succeeds
  | ok =>
    obtain ⟨handle, started, -, -, after⟩ := started_once.2.2 (ofSettings relaySettings) asked
      Worker.relaySpec supervisor effects List.nodup_nil (.commanded rfl) (by rw [created])
    obtain ⟨member, fails⟩ := after [] trivial
    have named : handle.id = "s1" := (Option.some.inj started.named).symm
    have first : handle.serial = 1 := started.serial
    obtain ⟨identity, ready, enlisted⟩ := Worker.Supervisor.ready_of_create created
    obtain ⟨config, command, built, -⟩ := Worker.Supervisor.enlist_eq_ok enlisted
    obtain ⟨fault, failed, because⟩ := fails asked Worker.relaySpec (.commanded rfl) started.named
    have passes : Passes asked Worker.relaySpec :=
      ⟨ready.valid, ⟨made, identity, ready.prepared⟩, config, built⟩
    rw [named, first] at member
    rw [because passes, named] at failed
    exact ⟨member, failed⟩

end MediaNode.Node
