import MediaNode.Proofs.Worker.Launch

/-!
# What can happen to a supervisor

A history of a supervisor is a list of operations. Each brings its own outbox,
files and surroundings, because channels are closed at their far ends, request ids
are used up and files come and go without the supervisor's doing. A start leaves the
supervisor and the effects that it hands back with its result, whether that is a
failure or not; the other operations that can fail check before they do anything.

`step_outcome` says once what an operation can do: register a worker that was just
launched, remove one, or let every registered worker react on its own. All
invariants are derived from these three cases, and those about one worker from the
reactions of a handle. That a handle reacts alone needs distinct ids.
-/
namespace MediaNode.Worker

/-- Something that is done to a supervisor. -/
inductive Operation where
  | create (around : Surroundings) (files : FileTree) (spec : Stream.Spec)
  | stop (outbox : Outbox) (id : String)
  | restart (outbox : Outbox) (id : String)
  | stopAll (outbox : Outbox)
  | expire (outbox : Outbox) (id : String) (serial : Nat)
  | touch (clock : Int) (id : String)
  | receive (outbox : Outbox) (id : String) (serial : Nat) (message : Rpc.Message)
  | linkClosed (id : String) (serial : Nat)
  | exited (id : String) (serial : Nat)

namespace Supervisor

/-- Do an operation: the supervisor afterwards, and what to do to the outside. -/
def step (supervisor : Supervisor) : Operation → Supervisor × List Effect
  | .create around files spec =>
    let (_, start) := supervisor.create around files spec
    (start.supervisor, start.effects)
  | .stop outbox id =>
    match supervisor.stop outbox id with
    | .ok (_, after, effects) => (after, effects)
    | .error _ => (supervisor, [])
  | .restart outbox id =>
    match supervisor.restart outbox id with
    | .ok (_, after, effects) => (after, effects)
    | .error _ => (supervisor, [])
  | .stopAll outbox => (supervisor.stopAll outbox).snd
  | .expire outbox id serial => (supervisor.expire outbox id serial).snd
  | .touch clock id => (supervisor.touch clock id, [])
  | .receive outbox id serial message =>
    let (after, effects, _) := supervisor.receive outbox id serial message
    (after, effects)
  | .linkClosed id serial => (supervisor.linkClosed id serial, [])
  | .exited id serial => ((supervisor.exited id serial).fst, [])

/-- Do operations in order, and collect what they do to the outside. -/
def run (supervisor : Supervisor) : List Operation → Supervisor × List Effect
  | [] => (supervisor, [])
  | operation :: rest =>
    let (after, effects) := supervisor.step operation
    let (last, more) := run after rest
    (last, effects ++ more)

@[simp] theorem run_nil (supervisor : Supervisor) : supervisor.run [] = (supervisor, []) := rfl

@[simp] theorem run_cons (supervisor : Supervisor) (operation : Operation)
    (rest : List Operation) :
    supervisor.run (operation :: rest) =
      (((supervisor.step operation).fst.run rest).fst,
        (supervisor.step operation).snd ++ ((supervisor.step operation).fst.run rest).snd) := rfl

/-- A history is run part by part. -/
theorem run_append (supervisor : Supervisor) (before later : List Operation) :
    supervisor.run (before ++ later) =
      (((supervisor.run before).fst.run later).fst,
        (supervisor.run before).snd ++ ((supervisor.run before).fst.run later).snd) := by
  induction before generalizing supervisor with
  | nil => simp
  | cons operation rest inductionHypothesis => simp [inductionHypothesis, List.append_assoc]

end Supervisor

namespace Operation

/-- Why an operation asks a registered worker to end, if it does. A restart and an
expiry pass over a worker that was asked before; a stop does not. -/
def reasonFor (operation : Operation) (handle : Handle) : Option StopReason :=
  match operation with
  | .stop _ id => if id = handle.id then some .stop else none
  | .stopAll _ => some .stop
  | .restart _ id => if id = handle.id ∧ ¬ handle.isStopping then some .restart else none
  | .expire _ id serial =>
    if id = handle.id ∧ serial = handle.serial ∧ ¬ handle.isStopping then some .stop else none
  | _ => none

/-- Whether an operation stops whatever worker a stream has, for good. -/
def stops (id : String) : Operation → Prop
  | .stop _ other => other = id
  | .stopAll _ => True
  | _ => False

/-- Whether an operation ends the launching of workers. -/
def closes : Operation → Bool
  | .stopAll _ => true
  | _ => false

end Operation

/-- A handle that is asked to end, with the restart flag that belongs to the reason. -/
def Handle.ask (outbox : Outbox) (handle : Handle) (reason : StopReason) :
    Outbox × Handle × List Effect :=
  Handle.requestStop outbox { handle with restart := decide (reason = .restart) } reason

/-- What becomes of a handle that is not asked to end, and the messages it causes. -/
inductive Spared (handle : Handle) : Handle → List Effect → Prop where
  | kept : Spared handle handle []
  | touched (clock : Int) : Spared handle (handle.touch clock) []
  | heard (outbox : Outbox) (message : Rpc.Message) :
      Spared handle (Supervisor.heard handle message)
        (Supervisor.reaction outbox handle message).fst
  | unlinked : Spared handle { handle with linked := false } []

/-- What an operation makes of a registered handle, and does to the outside for it. -/
inductive Reaction (operation : Operation) (handle : Handle) : Handle → List Effect → Prop where
  | asked (outbox : Outbox) (reason : StopReason)
      (asks : operation.reasonFor handle = some reason) :
      Reaction operation handle (handle.ask outbox reason).snd.fst
        (handle.ask outbox reason).snd.snd
  | spared (quiet : operation.reasonFor handle = none) {after : Handle} {effects : List Effect}
      (mild : Spared handle after effects) : Reaction operation handle after effects

/-- Every handle of a list reacts on its own; the effects follow in the same order. -/
inductive Reactions (operation : Operation) : List Handle → List Handle → List Effect → Prop where
  | nil : Reactions operation [] [] []
  | cons {handle after : Handle} {rest afters : List Handle} {effects more : List Effect}
      (head : Reaction operation handle after effects)
      (tail : Reactions operation rest afters more) :
      Reactions operation (handle :: rest) (after :: afters) (effects ++ more)

/-- What an operation does to a supervisor. -/
inductive Outcome (supervisor : Supervisor) (operation : Operation) :
    Supervisor → List Effect → Prop where
  /-- A worker was launched for a spec that passed every check, and registered. -/
  | launched {around : Surroundings} {files : FileTree} {spec : Stream.Spec}
      {identity : Stream.Identity} {config : Stream.Config} {command : List String}
      (created : operation = .create around files spec)
      (accepted : supervisor.accepting = true)
      (valid : (Stream.validate spec).snd = .ok ())
      (derived : Stream.Identity.derive spec = .ok identity)
      (built : Stream.build spec = .ok config)
      (free : identity.id ∉ supervisor.registry.ids)
      (commanded : supervisor.commandOf identity.id spec = some command) :
      Outcome supervisor operation
        { supervisor with
          nextSerial := supervisor.nextSerial + 1
          registry := ⟨supervisor.registry.handles ++
            [supervisor.newHandle around.clock identity spec config]⟩ }
        (launchEffects identity.id supervisor.nextSerial command config.base.ttl)
  /-- The worker with the id and the serial number of an exit was removed. -/
  | removed {id : String} {serial : Nat} {handle : Handle}
      (ended : operation = .exited id serial)
      (found : supervisor.registry.getSerial? id serial = some handle) :
      Outcome supervisor operation
        (supervisor.withRegistry ⟨supervisor.registry.handles.filter (·.id ≠ id)⟩) []
  /-- The registered workers reacted; nobody came and nobody went. -/
  | reacted {handles : List Handle} {effects : List Effect}
      (reactions : Reactions operation supervisor.registry.handles handles effects) :
      Outcome supervisor operation
        { supervisor with
          registry := ⟨handles⟩
          accepting := supervisor.accepting && !operation.closes } effects

/-- Two handles of one worker: what the worker is and was launched for is the same. -/
structure Handle.SameWorker (handle after : Handle) : Prop where
  id : after.id = handle.id
  serial : after.serial = handle.serial
  spec : after.spec = handle.spec
  config : after.config = handle.config
  servedRoots : after.servedRoots = handle.servedRoots
  hasProcess : after.hasProcess = handle.hasProcess

/-- How a worker is asked to end, and what is then pending: over the link, or by a
signal when nobody listens there. -/
inductive Asking (handle : Handle) (reason : StopReason) : Pending → List Effect → Prop where
  | overLink (id : Rpc.Id) :
      Asking handle reason (handle.pending.insert id reason.method).fst
        [.deliver handle.channel (.request (.make reason.method none id))]
  | bySignal (running : handle.hasProcess = true) :
      Asking handle reason handle.pending [.terminate handle.id handle.serial]
  | unheard (absent : handle.hasProcess = false) : Asking handle reason handle.pending []

namespace Handle

/-- A worker that was asked before is not asked again; only its restart flag is set. -/
theorem ask_of_stopping {handle : Handle} (outbox : Outbox) (reason : StopReason)
    (stopping : handle.isStopping = true) :
    handle.ask outbox reason =
      (outbox, { handle with restart := decide (reason = .restart) }, []) :=
  if_pos stopping

/-- The first time, the worker is asked in one way and its kill timer is armed. -/
theorem ask_of_active {handle : Handle} (outbox : Outbox) (reason : StopReason)
    (active : handle.isStopping = false) :
    ∃ next pending asking, Asking handle reason pending asking ∧
      handle.ask outbox reason =
        (next, { handle with
            phase := .stopRequested, armable := false, pending
            restart := decide (reason = .restart) },
          asking ++ if handle.armable then [.armKill handle.id handle.serial] else []) := by
  have first : ¬ Handle.isStopping { handle with restart := decide (reason = .restart) } := by
    simpa [isStopping] using active
  rw [ask, requestStop, if_neg first]
  cases requested : requestOverLink outbox { handle with restart := decide (reason = .restart) }
      reason with
  | mk next sent =>
    cases sent with
    | none =>
      cases running : handle.hasProcess with
      | true => exact ⟨next, _, _, .bySignal running, by simp⟩
      | false => exact ⟨next, _, _, .unheard running, by simp⟩
    | some request =>
      obtain ⟨id, message⟩ := request
      have sending : message = .request (.make reason.method none id) := by
        unfold requestOverLink Outbox.request at requested
        grind
      subst sending
      exact ⟨next, _, _, .overLink id, rfl⟩

/-- Asking changes neither who the worker is nor what it was launched for. -/
theorem sameWorker_ask (outbox : Outbox) (handle : Handle) (reason : StopReason) :
    handle.SameWorker (handle.ask outbox reason).snd.fst := by
  cases stopping : handle.isStopping with
  | true =>
    rw [ask_of_stopping outbox reason stopping]
    exact ⟨rfl, rfl, rfl, rfl, rfl, rfl⟩
  | false =>
    obtain ⟨next, pending, asking, -, asked⟩ := ask_of_active outbox reason stopping
    rw [asked]
    exact ⟨rfl, rfl, rfl, rfl, rfl, rfl⟩

/-- A worker that speaks is running from then on, unless it was asked to end. -/
theorem markRunning_eq (handle : Handle) :
    handle.markRunning =
      { handle with phase := if handle.phase = .starting then .running else handle.phase } := by
  unfold markRunning
  split <;> simp_all

end Handle

/-- A worker that is not asked to end stays who it is, too. -/
theorem Spared.sameWorker {handle after : Handle} {effects : List Effect}
    (mild : Spared handle after effects) : handle.SameWorker after := by
  cases mild with
  | kept => exact ⟨rfl, rfl, rfl, rfl, rfl, rfl⟩
  | touched clock => exact ⟨rfl, rfl, rfl, rfl, rfl, rfl⟩
  | heard outbox message =>
    simp only [Supervisor.heard, Handle.markRunning_eq]
    cases message <;> exact ⟨rfl, rfl, rfl, rfl, rfl, rfl⟩
  | unlinked => exact ⟨rfl, rfl, rfl, rfl, rfl, rfl⟩

/-- A worker stays the same through every reaction. -/
theorem Reaction.sameWorker {operation : Operation} {handle after : Handle}
    {effects : List Effect} (reaction : Reaction operation handle after effects) :
    handle.SameWorker after := by
  cases reaction with
  | asked outbox reason asks => exact Handle.sameWorker_ask outbox handle reason
  | spared quiet mild => exact mild.sameWorker

namespace Reactions

variable {operation : Operation} {handles afters : List Handle} {effects : List Effect}

/-- An operation that asks nobody leaves every handle alone. -/
theorem of_quiet (quiet : ∀ handle ∈ handles, operation.reasonFor handle = none) :
    Reactions operation handles handles [] := by
  induction handles with
  | nil => exact .nil
  | cons handle rest inductionHypothesis =>
    have head : Reaction operation handle handle [] :=
      .spared (quiet handle List.mem_cons_self) .kept
    have tail : Reactions operation rest rest [] :=
      inductionHypothesis fun other member => quiet other (List.mem_cons_of_mem handle member)
    exact .cons head tail

/-- When only one of the handles is asked, replacing it is a reaction of all. -/
theorem of_replace {handle after : Handle}
    (distinct : (handles.map Handle.id).Nodup) (member : handle ∈ handles)
    (reaction : Reaction operation handle after effects)
    (quiet : ∀ other ∈ handles, other.id ≠ handle.id → operation.reasonFor other = none) :
    Reactions operation handles
      (handles.map fun other => if other.id = after.id then after else other) effects := by
  rw [reaction.sameWorker.id]
  induction handles with
  | nil => simp at member
  | cons first rest inductionHypothesis =>
    obtain ⟨fresh, restDistinct⟩ := List.nodup_cons.mp distinct
    rw [List.map_cons]
    rcases List.mem_cons.mp member with rfl | member
    · have others : ∀ other ∈ rest, other.id ≠ handle.id := fun other present same =>
        fresh (same ▸ List.mem_map_of_mem present)
      have untouched : (rest.map fun other => if other.id = handle.id then after else other) =
          rest := by
        conv_rhs => rw [← List.map_id rest]
        exact List.map_congr_left fun other present => if_neg (others other present)
      have tail : Reactions operation rest rest [] := of_quiet fun other present =>
        quiet other (List.mem_cons_of_mem handle present) (others other present)
      rw [if_pos rfl, untouched, ← List.append_nil effects]
      exact .cons reaction tail
    · have different : first.id ≠ handle.id := fun same =>
        fresh (same ▸ List.mem_map_of_mem member)
      have head : Reaction operation first first [] :=
        .spared (quiet first List.mem_cons_self different) .kept
      rw [if_neg different]
      exact .cons head (inductionHypothesis restDistinct member fun other present =>
        quiet other (List.mem_cons_of_mem first present))

/-- Stopping each handle in turn lets every one of them react; only the outbox is
passed on from one to the next. -/
theorem of_stopEach (outbox start : Outbox) (handles : List Handle) :
    Reactions (.stopAll start) handles (Supervisor.stopEach outbox handles).snd.fst
      (Supervisor.stopEach outbox handles).snd.snd := by
  induction handles generalizing outbox with
  | nil => exact .nil
  | cons handle rest inductionHypothesis =>
    exact .cons (.asked outbox .stop rfl) (inductionHypothesis _)

end Reactions

namespace Supervisor

variable {supervisor after : Supervisor}

/-- What it takes to start a stream: a supervisor that accepts, and a spec that
passes every check. Then exactly one worker is launched and registered. -/
theorem create_eq_ok {around : Surroundings} {files made : FileTree} {spec : Stream.Spec}
    {effects : List Effect}
    (created : supervisor.create around files spec = (made, ⟨after, effects, .ok ()⟩)) :
    Outcome supervisor (.create around files spec) after effects := by
  obtain ⟨identity, ready, enlisted⟩ := ready_of_create created
  obtain ⟨config, command, built, free, commanded, rfl, rfl⟩ := enlist_eq_ok enlisted
  exact .launched rfl ready.accepting ready.valid
    (Stream.Identity.derive_of_prepare ready.prepared) built free commanded

/-- An operation that asks nobody and launches nothing changes nothing. -/
theorem Outcome.unchanged {operation : Operation} (stillOpen : operation.closes = false)
    (quiet : ∀ handle ∈ supervisor.registry.handles, operation.reasonFor handle = none) :
    Outcome supervisor operation supervisor [] := by
  have reacted : Outcome supervisor operation _ _ := .reacted (Reactions.of_quiet quiet)
  simpa [stillOpen] using reacted

/-- Replacing the one handle that an operation is about is a reaction of all. -/
theorem Outcome.replaced {operation : Operation} {id : String} {handle next : Handle}
    {effects : List Effect} (distinct : supervisor.registry.ids.Nodup)
    (stillOpen : operation.closes = false) (found : supervisor.registry.get? id = some handle)
    (reaction : Reaction operation handle next effects)
    (quiet : ∀ other, other.id ≠ id → operation.reasonFor other = none) :
    Outcome supervisor operation
      (supervisor.withRegistry (supervisor.registry.replace next)) effects := by
  obtain ⟨member, rfl⟩ := Registry.mem_of_get? found
  have reacted : Outcome supervisor operation _ _ :=
    .reacted (Reactions.of_replace distinct member reaction fun other _ => quiet other)
  simpa [stillOpen, withRegistry, Registry.replace] using reacted

/-- Starting a stream registers its worker or changes nothing. -/
theorem create_outcome (around : Surroundings) (files : FileTree) (spec : Stream.Spec) :
    Outcome supervisor (.create around files spec)
      (supervisor.step (.create around files spec)).fst
      (supervisor.step (.create around files spec)).snd := by
  rcases created : supervisor.create around files spec with ⟨made, after, effects, outcome⟩
  simp only [step, created]
  cases outcome with
  | error fault =>
    obtain ⟨rfl, rfl, -⟩ := create_eq_error created
    exact Outcome.unchanged rfl fun _ _ => rfl
  | ok => exact create_eq_ok created

/-- A stop asks the worker of its stream, whatever its phase. -/
theorem stop_outcome (distinct : supervisor.registry.ids.Nodup) (outbox : Outbox) (id : String) :
    Outcome supervisor (.stop outbox id) (supervisor.step (.stop outbox id)).fst
      (supervisor.step (.stop outbox id)).snd := by
  cases found : supervisor.registry.get? id with
  | none =>
    simp only [step, stop, found]
    refine Outcome.unchanged rfl fun handle member => if_neg ?_
    exact fun same => Registry.get?_eq_none_iff.mp found (same ▸ List.mem_map_of_mem member)
  | some handle =>
    simp only [step, stop, found]
    have same : id = handle.id := (Registry.mem_of_get? found).2.symm
    exact Outcome.replaced distinct rfl found (.asked outbox .stop (if_pos same))
      fun other different => if_neg different.symm

/-- A restart asks the worker of its stream unless that was done before. -/
theorem restart_outcome (distinct : supervisor.registry.ids.Nodup) (outbox : Outbox)
    (id : String) :
    Outcome supervisor (.restart outbox id) (supervisor.step (.restart outbox id)).fst
      (supervisor.step (.restart outbox id)).snd := by
  cases found : supervisor.registry.get? id with
  | none =>
    simp only [step, restart, found]
    refine Outcome.unchanged rfl fun handle member => if_neg ?_
    exact fun ⟨same, _⟩ => Registry.get?_eq_none_iff.mp found (same ▸ List.mem_map_of_mem member)
  | some handle =>
    have same : id = handle.id := (Registry.mem_of_get? found).2.symm
    cases stopping : handle.isStopping with
    | true =>
      simp only [step, restart, found, stopping, if_true]
      refine Outcome.unchanged rfl fun other member => if_neg ?_
      rintro ⟨rfl, active⟩
      have one : handle = other := Option.some.inj
        (found.symm.trans (Registry.get?_of_mem distinct member))
      exact active (one ▸ stopping)
    | false =>
      simp only [step, restart, found, stopping]
      exact Outcome.replaced distinct rfl found
        (.asked outbox .restart (if_pos ⟨same, by simp [stopping]⟩))
        fun other different => if_neg fun both => different both.1.symm

/-- Stopping all asks every worker. -/
theorem stopAll_outcome (outbox : Outbox) :
    Outcome supervisor (.stopAll outbox) (supervisor.step (.stopAll outbox)).fst
      (supervisor.step (.stopAll outbox)).snd := by
  have reacted : Outcome supervisor (.stopAll outbox) _ _ :=
    .reacted (Reactions.of_stopEach outbox outbox supervisor.registry.handles)
  simpa [step, stopAll, Operation.closes] using reacted

/-- An expiry asks the worker it was set for unless that was done before. -/
theorem expire_outcome (distinct : supervisor.registry.ids.Nodup) (outbox : Outbox)
    (id : String) (serial : Nat) :
    Outcome supervisor (.expire outbox id serial)
      (supervisor.step (.expire outbox id serial)).fst
      (supervisor.step (.expire outbox id serial)).snd := by
  cases found : supervisor.registry.getSerial? id serial with
  | none =>
    simp only [step, expire, found]
    refine Outcome.unchanged rfl fun handle member => if_neg ?_
    rintro ⟨rfl, rfl, -⟩
    have present := Registry.getSerial?_eq_some_iff.mpr
      ⟨Registry.get?_of_mem distinct member, rfl⟩
    exact absurd (found.symm.trans present) (by simp)
  | some handle =>
    obtain ⟨registered, rfl⟩ := Registry.getSerial?_eq_some_iff.mp found
    have same : id = handle.id := (Registry.mem_of_get? registered).2.symm
    cases stopping : handle.isStopping with
    | true =>
      simp only [step, expire, found, stopping, if_true]
      refine Outcome.unchanged rfl fun other member => if_neg ?_
      rintro ⟨rfl, -, active⟩
      have one : handle = other := Option.some.inj
        (registered.symm.trans (Registry.get?_of_mem distinct member))
      exact active (one ▸ stopping)
    | false =>
      simp only [step, expire, found, stopping]
      exact Outcome.replaced distinct rfl registered
        (.asked outbox .stop (if_pos ⟨same, rfl, by simp [stopping]⟩))
        fun other different => if_neg fun both => different both.1.symm

/-- An operation that spares the one worker it is about has no further effect. -/
theorem spared_outcome {operation : Operation} {id : String} {serial : Nat}
    {handle next : Handle} {effects : List Effect} (distinct : supervisor.registry.ids.Nodup)
    (stillOpen : operation.closes = false) (quiet : ∀ other, operation.reasonFor other = none)
    (found : supervisor.registry.getSerial? id serial = some handle)
    (mild : Spared handle next effects) :
    Outcome supervisor operation
      (supervisor.withRegistry (supervisor.registry.replace next)) effects :=
  Outcome.replaced distinct stillOpen (Registry.getSerial?_eq_some_iff.mp found).1
    (.spared (quiet handle) mild) fun other _ => quiet other

/-- The exit of a registered worker removes its handle and hands it on. -/
theorem exited_of_getSerial? {id : String} {serial : Nat} {handle : Handle}
    (found : supervisor.registry.getSerial? id serial = some handle) :
    supervisor.exited id serial =
      (supervisor.withRegistry ⟨supervisor.registry.handles.filter (·.id ≠ id)⟩, some handle) := by
  simp only [exited, Registry.remove_of_getSerial? found]

/-- The exit of any other worker is old news. -/
theorem exited_of_getSerial?_none {id : String} {serial : Nat}
    (absent : supervisor.registry.getSerial? id serial = none) :
    supervisor.exited id serial = (supervisor, none) := by
  simp only [exited, Registry.remove_of_getSerial?_none absent, withRegistry]

/-- What a worker says or does reaches only its own handle, and only while it is the
registered worker of its stream. -/
theorem worker_outcome (distinct : supervisor.registry.ids.Nodup) {operation : Operation}
    {id : String} {serial : Nat}
    (about : (∃ outbox message, operation = .receive outbox id serial message) ∨
      operation = .linkClosed id serial ∨ operation = .exited id serial) :
    Outcome supervisor operation (supervisor.step operation).fst
      (supervisor.step operation).snd := by
  cases found : supervisor.registry.getSerial? id serial with
  | none =>
    rcases about with ⟨outbox, message, rfl⟩ | rfl | rfl
    · simpa [step, receive, found] using Outcome.unchanged rfl fun _ _ => rfl
    · simpa [step, linkClosed, found] using Outcome.unchanged rfl fun _ _ => rfl
    · simpa [step, exited_of_getSerial?_none found] using Outcome.unchanged rfl fun _ _ => rfl
  | some handle =>
    rcases about with ⟨outbox, message, rfl⟩ | rfl | rfl
    · simp only [step, receive, found]
      exact spared_outcome distinct rfl (fun _ => rfl) found (.heard outbox message)
    · simp only [step, linkClosed, found]
      exact spared_outcome distinct rfl (fun _ => rfl) found .unlinked
    · simp only [step, exited_of_getSerial? found]
      exact .removed rfl found

/-- A request for a file reaches the handle of its stream, if there is one. -/
theorem touch_outcome (distinct : supervisor.registry.ids.Nodup) (clock : Int) (id : String) :
    Outcome supervisor (.touch clock id) (supervisor.step (.touch clock id)).fst
      (supervisor.step (.touch clock id)).snd := by
  cases found : supervisor.registry.get? id with
  | none => simpa [step, touch, found] using Outcome.unchanged rfl fun _ _ => rfl
  | some handle =>
    simp only [step, touch, found]
    exact Outcome.replaced distinct rfl found (.spared rfl (.touched clock)) fun _ _ => rfl

/-- With distinct ids, every operation has one of the three outcomes. -/
theorem step_outcome (distinct : supervisor.registry.ids.Nodup) (operation : Operation) :
    Outcome supervisor operation (supervisor.step operation).fst
      (supervisor.step operation).snd := by
  cases operation with
  | create around files spec => exact create_outcome around files spec
  | stop outbox id => exact stop_outcome distinct outbox id
  | restart outbox id => exact restart_outcome distinct outbox id
  | stopAll outbox => exact stopAll_outcome outbox
  | expire outbox id serial => exact expire_outcome distinct outbox id serial
  | touch clock id => exact touch_outcome distinct clock id
  | receive outbox id serial message => exact worker_outcome distinct (.inl ⟨outbox, message, rfl⟩)
  | linkClosed id serial => exact worker_outcome distinct (.inr (.inl rfl))
  | exited id serial => exact worker_outcome distinct (.inr (.inr rfl))

end Supervisor
end MediaNode.Worker
