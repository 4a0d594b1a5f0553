import Mathlib.Data.List.Nodup
import MediaNode.Proofs.Worker.Operation

/-!
# The life of a worker

A worker is launched once, asked to end at most once, and removed. Its handle says
at every moment how far that has come: it is stopping exactly when the worker was
asked and its kill timer armed, and only then may a restart be due or a request be
pending.

What was done for one worker is its story, the part of a trace that carries its
serial number. Serial numbers are handed out once, so the stories of two workers
never mix, and a count over the whole trace is a count over one story. Serial
numbers are natural numbers here; they do not run out.
-/
namespace MediaNode

/-- The serial number of the worker that an effect is about. -/
def Effect.worker? : Effect → Option Nat
  | .deliver (.worker _ serial) _ => some serial
  | .launch _ serial _ => some serial
  | .terminate _ serial => some serial
  | .armKill _ serial => some serial
  | .expireAfter _ serial _ => some serial
  | _ => none

namespace Worker

/-- What was done to the outside for one worker, in order. -/
def story (serial : Nat) (effects : List Effect) : List Effect :=
  effects.filter (·.worker? = some serial)

/-- Whether an effect asks a worker to end: a stop or restart over its link, or a
signal to its process. -/
def asksToEnd (serial : Nat) : Effect → Bool
  | .deliver (.worker _ other) (.request request) =>
    other = serial && [StopReason.stop.method, StopReason.restart.method].contains request.method
  | .terminate _ other => other = serial
  | _ => false

/-- Whether an effect arms the kill timer of a worker. -/
def armsKill (serial : Nat) : Effect → Bool
  | .armKill _ other => other = serial
  | _ => false

/-- The serial number that an effect launches a process with. -/
def launchedSerial? : Effect → Option Nat
  | .launch _ serial _ => some serial
  | _ => none

/-- The serial numbers that processes were launched with. -/
def launchedSerials (effects : List Effect) : List Nat := effects.filterMap launchedSerial?

/-- What was launched was launched part by part. -/
theorem launchedSerials_append (before later : List Effect) :
    launchedSerials (before ++ later) = launchedSerials before ++ launchedSerials later :=
  List.filterMap_append

section timer

variable (id : String) (serial other : Nat)

@[simp] theorem worker?_armKill : (Effect.armKill id serial).worker? = some serial := rfl

@[simp] theorem asksToEnd_armKill : asksToEnd other (.armKill id serial) = false := rfl

@[simp] theorem armsKill_armKill : armsKill other (.armKill id serial) = decide (serial = other) :=
  rfl

@[simp] theorem launchedSerial?_armKill : launchedSerial? (.armKill id serial) = none := rfl

end timer

/-- What holds of every registered handle. -/
structure Handle.Sound (handle : Handle) : Prop where
  /-- The worker runs the stream that its spec names, -/
  named : handle.spec.id? = some handle.id
  /-- in the configuration that is built from that spec. -/
  built : Stream.build handle.spec = .ok handle.config
  running : handle.hasProcess = true
  /-- The kill timer was armed exactly when the worker was asked to end. -/
  armable_iff : handle.armable = true ↔ handle.isStopping = false
  restarting : handle.restart = true → handle.isStopping = true
  quiet : handle.isStopping = false → handle.pending = []
  single : handle.pending.length ≤ 1
  methods : ∀ request ∈ handle.pending, ∃ reason : StopReason, request.snd = reason.method

/-- A worker with a process is asked in exactly one way. -/
theorem Asking.single {handle : Handle} {reason : StopReason} {pending : Pending}
    {effects : List Effect} (asking : Asking handle reason pending effects)
    (running : handle.hasProcess = true) :
    ∃ effect, effects = [effect] ∧ asksToEnd handle.serial effect = true ∧
      armsKill handle.serial effect = false ∧ effect.worker? = some handle.serial ∧
      launchedSerial? effect = none := by
  cases asking with
  | overLink id =>
    have asks : asksToEnd handle.serial
        (.deliver handle.channel (.request (.make reason.method none id))) = true := by
      cases reason <;> simp [asksToEnd, Handle.channel, Rpc.Request.make]
    exact ⟨_, rfl, asks, rfl, rfl, rfl⟩
  | bySignal => exact ⟨_, rfl, by simp [asksToEnd], rfl, rfl, rfl⟩
  | unheard absent => exact absurd running (by simp [absent])

/-- A worker that is not asked to end is at most answered. -/
theorem Spared.answers {handle after : Handle} {effects : List Effect}
    (mild : Spared handle after effects) :
    ∀ effect ∈ effects, ∃ response, effect = .deliver handle.channel (.response response) := by
  cases mild with
  | kept | touched clock | unlinked => simp
  | heard outbox message =>
    unfold Supervisor.reaction Outbox.send
    grind

/-- A worker that is not asked to end keeps its phase but for starting to run, and at
most loses a pending request. -/
theorem Spared.milder {handle after : Handle} {effects : List Effect}
    (mild : Spared handle after effects) :
    after.isStopping = handle.isStopping ∧ after.restart = handle.restart ∧
      after.armable = handle.armable ∧ after.pending.Sublist handle.pending := by
  cases mild with
  | kept => simp
  | touched clock => exact ⟨rfl, rfl, rfl, List.Sublist.refl _⟩
  | heard outbox message =>
    have phase : (if handle.phase = .starting then Phase.running else handle.phase) =
        .stopRequested ↔ handle.phase = .stopRequested := by
      cases handle.phase <;> simp
    cases message <;>
      simp [Supervisor.heard, Handle.markRunning_eq, Handle.isStopping, phase, Pending.take]
  | unlinked => simp [Handle.isStopping]

/-- A request that is made of a worker without pending ones is the only pending one. -/
theorem Asking.pending {handle : Handle} {reason : StopReason} {pending : Pending}
    {effects : List Effect} (asking : Asking handle reason pending effects)
    (quiet : handle.pending = []) :
    pending.length ≤ 1 ∧ ∀ request ∈ pending, request.snd = reason.method := by
  cases asking with
  | overLink id => simp [quiet, Pending.insert]
  | bySignal => simp [quiet]
  | unheard => simp [quiet]

/-- What holds of a handle holds of it after every reaction. -/
theorem Reaction.sound {operation : Operation} {handle after : Handle} {effects : List Effect}
    (reaction : Reaction operation handle after effects) (sound : handle.Sound) :
    after.Sound := by
  cases reaction with
  | asked outbox reason asks =>
    cases stopping : handle.isStopping with
    | true =>
      rw [Handle.ask_of_stopping outbox reason stopping]
      exact { sound with restarting := fun _ => stopping }
    | false =>
      obtain ⟨next, pending, asking, manner, asked⟩ :=
        Handle.ask_of_active outbox reason stopping
      obtain ⟨single, methods⟩ := manner.pending (sound.quiet stopping)
      rw [asked]
      exact { sound with
        armable_iff := by simp [Handle.isStopping]
        restarting := fun _ => by simp [Handle.isStopping]
        quiet := by simp [Handle.isStopping]
        single
        methods := fun request member => ⟨reason, methods request member⟩ }
  | spared silent mild =>
    obtain ⟨phase, restart, armable, fewer⟩ := mild.milder
    have same := mild.sameWorker
    exact {
      named := by rw [same.spec, same.id, sound.named]
      built := by rw [same.spec, same.config, sound.built]
      running := by rw [same.hasProcess, sound.running]
      armable_iff := by rw [armable, phase, sound.armable_iff]
      restarting := by rw [restart, phase]; exact sound.restarting
      quiet := fun active => List.sublist_nil.mp (sound.quiet (phase ▸ active) ▸ fewer)
      single := Nat.le_trans fewer.length_le sound.single
      methods := fun request member => sound.methods request (fewer.subset member) }

/-- Once asked to end, a worker stays asked. -/
theorem Reaction.isStopping_of {operation : Operation} {handle after : Handle}
    {effects : List Effect} (reaction : Reaction operation handle after effects)
    (stopping : handle.isStopping = true) : after.isStopping = true := by
  cases reaction with
  | asked outbox reason asks => rw [Handle.ask_of_stopping outbox reason stopping]; exact stopping
  | spared silent mild => rw [mild.milder.1, stopping]

/-- A reaction asks the worker to end once, and arms its kill timer once, exactly when
it turns the worker from one that was not asked into one that was. Whatever is done
concerns this worker, and nothing is launched. -/
theorem Reaction.tally {operation : Operation} {handle after : Handle} {effects : List Effect}
    (reaction : Reaction operation handle after effects) (sound : handle.Sound) :
    handle.isStopping.toNat + effects.countP (asksToEnd handle.serial) = after.isStopping.toNat ∧
      handle.isStopping.toNat + effects.countP (armsKill handle.serial) =
        after.isStopping.toNat ∧
      (∀ effect ∈ effects, effect.worker? = some handle.serial) ∧ launchedSerials effects = [] := by
  cases reaction with
  | asked outbox reason asks =>
    cases stopping : handle.isStopping with
    | true =>
      rw [Handle.ask_of_stopping outbox reason stopping]
      simp [launchedSerials, Handle.isStopping] at stopping ⊢
      simp [stopping]
    | false =>
      obtain ⟨next, pending, asking, manner, asked⟩ :=
        Handle.ask_of_active outbox reason stopping
      obtain ⟨effect, rfl, asksOnce, armsNot, about, launchesNot⟩ := manner.single sound.running
      have armable : handle.armable = true := sound.armable_iff.mpr stopping
      rw [asked, if_pos armable]
      refine ⟨?_, ?_, ?_, ?_⟩
      · simp [asksOnce, Handle.isStopping]
      · simp [armsNot, Handle.isStopping]
      · simp [about]
      · simp [launchedSerials, launchesNot]
  | spared silent mild =>
    have answers := mild.answers
    have kept := mild.milder.1
    refine ⟨?_, ?_, ?_, ?_⟩
    · rw [kept, List.countP_eq_zero.mpr, Nat.add_zero]
      intro effect member
      obtain ⟨response, rfl⟩ := answers effect member
      simp [Handle.channel, asksToEnd]
    · rw [kept, List.countP_eq_zero.mpr, Nat.add_zero]
      intro effect member
      obtain ⟨response, rfl⟩ := answers effect member
      simp [armsKill]
    · intro effect member
      obtain ⟨response, rfl⟩ := answers effect member
      rfl
    · rw [launchedSerials, List.filterMap_eq_nil_iff]
      intro effect member
      obtain ⟨response, rfl⟩ := answers effect member
      rfl

/-- The story of a worker is all there is when nothing else is about another. -/
theorem story_eq_self {serial : Nat} {effects : List Effect}
    (about : ∀ effect ∈ effects, effect.worker? = some serial) :
    story serial effects = effects := by
  rw [story, List.filter_eq_self]
  simpa using about

/-- What is about others is not in the story of a worker. -/
theorem story_eq_nil {serial : Nat} {effects : List Effect}
    (others : ∀ effect ∈ effects, effect.worker? ≠ some serial) : story serial effects = [] := by
  rw [story, List.filter_eq_nil_iff]
  simpa using others

theorem story_append (serial : Nat) (before later : List Effect) :
    story serial (before ++ later) = story serial before ++ story serial later :=
  List.filter_append before later

/-- What counts only for one worker is counted in its story. -/
theorem countP_story {serial : Nat} {counts : Effect → Bool}
    (about : ∀ effect, counts effect = true → effect.worker? = some serial)
    (effects : List Effect) : (story serial effects).countP counts = effects.countP counts := by
  rw [story, List.countP_filter]
  apply List.countP_congr
  intro effect _
  constructor
  · intro both
    exact (Bool.and_eq_true_iff.mp both).1
  · intro counted
    simp [counted, about effect counted]

/-- Asking a worker to end is about that worker. -/
theorem worker?_of_asksToEnd {serial : Nat} {effect : Effect}
    (asks : asksToEnd serial effect = true) : effect.worker? = some serial := by
  unfold asksToEnd at asks
  split at asks
  · simp_all [Effect.worker?]
  · simp_all [Effect.worker?]
  · contradiction

/-- Arming a kill timer is about its worker. -/
theorem worker?_of_armsKill {serial : Nat} {effect : Effect}
    (arms : armsKill serial effect = true) : effect.worker? = some serial := by
  unfold armsKill at arms
  split at arms
  · simp_all [Effect.worker?]
  · contradiction

namespace Reactions

variable {operation : Operation} {handles afters : List Handle} {effects : List Effect}

/-- Reactions keep who the workers are, and their order. -/
theorem identities (reactions : Reactions operation handles afters effects) :
    afters.map Handle.id = handles.map Handle.id ∧
      afters.map Handle.serial = handles.map Handle.serial := by
  induction reactions with
  | nil => simp
  | cons head tail inductionHypothesis =>
    simp [head.sameWorker.id, head.sameWorker.serial, inductionHypothesis]

/-- Everything that reactions do is about a registered worker, and launches nothing. -/
theorem about (reactions : Reactions operation handles afters effects)
    (sound : ∀ handle ∈ handles, handle.Sound) :
    (∀ effect ∈ effects, ∃ handle ∈ handles, effect.worker? = some handle.serial) ∧
      launchedSerials effects = [] := by
  induction reactions with
  | nil => simp [launchedSerials]
  | @cons handle after rest afters effects more head tail inductionHypothesis =>
    obtain ⟨-, -, about, launchesNot⟩ := head.tally (sound handle List.mem_cons_self)
    obtain ⟨aboutRest, launchesNoMore⟩ := inductionHypothesis fun other member =>
      sound other (List.mem_cons_of_mem handle member)
    constructor
    · intro effect member
      rcases List.mem_append.mp member with here | later
      · exact ⟨handle, List.mem_cons_self, about effect here⟩
      · obtain ⟨other, present, concerns⟩ := aboutRest effect later
        exact ⟨other, List.mem_cons_of_mem handle present, concerns⟩
    · rw [launchedSerials_append, launchesNot, launchesNoMore, List.append_nil]

/-- With distinct serial numbers, every handle comes from a reaction of its own, whose
effects are the story of its worker. -/
theorem stories (reactions : Reactions operation handles afters effects)
    (sound : ∀ handle ∈ handles, handle.Sound) (distinct : (handles.map Handle.serial).Nodup) :
    ∀ after ∈ afters, ∃ handle ∈ handles,
      Reaction operation handle after (story handle.serial effects) := by
  induction reactions with
  | nil => simp
  | @cons handle after rest afters effects more head tail inductionHypothesis =>
    obtain ⟨fresh, restDistinct⟩ := List.nodup_cons.mp distinct
    have restSound : ∀ other ∈ rest, other.Sound := fun other member =>
      sound other (List.mem_cons_of_mem handle member)
    obtain ⟨-, -, aboutHead, -⟩ := head.tally (sound handle List.mem_cons_self)
    intro one member
    rcases List.mem_cons.mp member with rfl | member
    · have elsewhere : story handle.serial more = [] := story_eq_nil fun effect present same => by
        obtain ⟨other, registered, about⟩ := (tail.about restSound).1 effect present
        exact fresh (Option.some.inj (same.symm.trans about) ▸ List.mem_map_of_mem registered)
      refine ⟨handle, List.mem_cons_self, ?_⟩
      rw [story_append, story_eq_self aboutHead, elsewhere, List.append_nil]
      exact head
    · obtain ⟨other, registered, reaction⟩ := inductionHypothesis restSound restDistinct one member
      have elsewhere : story other.serial effects = [] := story_eq_nil fun effect present same =>
        fresh (Option.some.inj ((aboutHead effect present).symm.trans same) ▸
          List.mem_map_of_mem registered)
      refine ⟨other, List.mem_cons_of_mem handle registered, ?_⟩
      rw [story_append, elsewhere, List.nil_append]
      exact reaction

end Reactions

/-- What holds of a supervisor together with the trace of all that was done to the
outside since it had no workers. -/
structure Lifecycle (supervisor : Supervisor) (trace : List Effect) : Prop where
  distinct : supervisor.registry.ids.Nodup
  sound : ∀ handle ∈ supervisor.registry.handles, handle.Sound
  /-- No two registered workers share a serial number, -/
  serials : (supervisor.registry.handles.map Handle.serial).Nodup
  below : ∀ handle ∈ supervisor.registry.handles, handle.serial < supervisor.nextSerial
  /-- and no two processes were ever launched with the same one. -/
  launches : (launchedSerials trace).Nodup
  launchedBelow : ∀ serial ∈ launchedSerials trace, serial < supervisor.nextSerial
  launched : ∀ handle ∈ supervisor.registry.handles,
    ∃ command, .launch handle.id handle.serial command ∈ trace
  /-- A registered worker was asked to end, and its kill timer armed, as often as its
  handle is stopping: once or never. -/
  asked : ∀ handle ∈ supervisor.registry.handles,
    trace.countP (asksToEnd handle.serial) = handle.isStopping.toNat
  armed : ∀ handle ∈ supervisor.registry.handles,
    trace.countP (armsKill handle.serial) = handle.isStopping.toNat
  /-- No worker, registered or gone, was asked to end twice. -/
  once : ∀ serial, trace.countP (asksToEnd serial) ≤ 1
  /-- Nothing was done about a worker that is still to come. -/
  unborn : ∀ serial, supervisor.nextSerial ≤ serial → story serial trace = []

namespace Lifecycle

variable {supervisor after : Supervisor} {operation : Operation} {trace effects : List Effect}

/-- A supervisor without workers has done nothing. -/
theorem initial (settings : Settings) : Lifecycle (.ofSettings settings) [] where
  distinct := List.nodup_nil
  sound := by simp [Supervisor.ofSettings]
  serials := List.nodup_nil
  below := by simp [Supervisor.ofSettings]
  launches := List.nodup_nil
  launchedBelow := by simp [launchedSerials]
  launched := by simp [Supervisor.ofSettings]
  asked := by simp [Supervisor.ofSettings]
  armed := by simp [Supervisor.ofSettings]
  once := by simp
  unborn := fun _ _ => rfl

/-- The handle of a worker that was just launched is sound. -/
theorem newHandle_sound (supervisor : Supervisor) (clock : Int) {identity : Stream.Identity}
    {spec : Stream.Spec} {config : Stream.Config}
    (derived : Stream.Identity.derive spec = .ok identity)
    (built : Stream.build spec = .ok config) :
    (supervisor.newHandle clock identity spec config).Sound where
  named := Stream.Identity.id?_of_derive derived
  built := built
  running := rfl
  armable_iff := by simp [Supervisor.newHandle, Handle.isStopping]
  restarting := by simp [Supervisor.newHandle]
  quiet := fun _ => rfl
  single := Nat.zero_le 1
  methods := by simp [Supervisor.newHandle]

section launchEffects

variable (id : String) (serial : Nat) (command : List String) (ttl : Option Nat)

/-- A launch is about the new worker alone. -/
theorem worker?_launchEffects :
    ∀ effect ∈ launchEffects id serial command ttl, effect.worker? = some serial := by
  cases ttl <;> simp [launchEffects, Effect.worker?]

/-- A launch asks nobody to end. -/
theorem asksToEnd_launchEffects (other : Nat) :
    (launchEffects id serial command ttl).countP (asksToEnd other) = 0 := by
  cases ttl <;> simp [launchEffects, asksToEnd]

/-- A launch arms no kill timer. -/
theorem armsKill_launchEffects (other : Nat) :
    (launchEffects id serial command ttl).countP (armsKill other) = 0 := by
  cases ttl <;> simp [launchEffects, armsKill]

/-- A launch hands out one serial number. -/
theorem launchedSerials_append_launch (trace : List Effect) :
    launchedSerials (trace ++ launchEffects id serial command ttl) =
      launchedSerials trace ++ [serial] := by
  cases ttl <;> simp [launchEffects, launchedSerials, launchedSerial?]

end launchEffects

/-- A count over the story of a worker that is still to come is zero. -/
theorem unborn_count (life : Lifecycle supervisor trace) {serial : Nat} {counts : Effect → Bool}
    (later : supervisor.nextSerial ≤ serial)
    (about : ∀ effect, counts effect = true → effect.worker? = some serial) :
    trace.countP counts = 0 := by
  rw [← countP_story about, life.unborn serial later, List.countP_nil]

/-- A launch keeps the invariant: the new worker takes a serial number that nothing was
done about, and its handle was asked nothing. -/
theorem step_launched (life : Lifecycle supervisor trace) {handle : Handle}
    (sound : handle.Sound) (active : handle.isStopping = false)
    (numbered : handle.serial = supervisor.nextSerial) (free : handle.id ∉ supervisor.registry.ids)
    (command : List String) (ttl : Option Nat) :
    Lifecycle
      { supervisor with
        nextSerial := supervisor.nextSerial + 1
        registry := ⟨supervisor.registry.handles ++ [handle]⟩ }
      (trace ++ launchEffects handle.id supervisor.nextSerial command ttl) where
  distinct := by
    rw [Registry.ids, List.map_append]
    exact List.nodup_append.mpr ⟨life.distinct, List.nodup_singleton _,
      fun id registered other isNew same => free <| by
        rw [← List.mem_singleton.mp isNew, ← same]
        exact registered⟩
  sound := by
    simpa [or_imp, forall_and] using ⟨life.sound, sound⟩
  serials := by
    rw [List.map_append]
    refine List.nodup_append.mpr ⟨life.serials, List.nodup_singleton _, ?_⟩
    intro serial registered other isNew same
    obtain ⟨old, member, rfl⟩ := List.mem_map.mp registered
    have smaller := life.below old member
    simp_all
  below := by
    simp only [List.mem_append, List.mem_singleton, or_imp, forall_and, forall_eq, numbered]
    exact ⟨fun old member => Nat.lt_succ_of_lt (life.below old member), Nat.lt_succ_self _⟩
  launches := by
    rw [launchedSerials_append_launch]
    refine List.nodup_append.mpr ⟨life.launches, List.nodup_singleton _, ?_⟩
    intro serial before other isNew same
    have smaller : serial < supervisor.nextSerial := life.launchedBelow serial before
    have newest : other = supervisor.nextSerial := List.mem_singleton.mp isNew
    omega
  launchedBelow := by
    intro serial member
    rw [launchedSerials_append_launch] at member
    rcases List.mem_append.mp member with before | isNew
    · exact Nat.lt_succ_of_lt (life.launchedBelow serial before)
    · exact List.mem_singleton.mp isNew ▸ Nat.lt_succ_self _
  launched := by
    intro one member
    rcases List.mem_append.mp member with old | isNew
    · obtain ⟨earlier, present⟩ := life.launched one old
      exact ⟨earlier, List.mem_append_left _ present⟩
    · rw [List.mem_singleton.mp isNew, numbered]
      exact ⟨command, List.mem_append_right _ List.mem_cons_self⟩
  asked := by
    intro one member
    rw [List.countP_append, asksToEnd_launchEffects, Nat.add_zero]
    rcases List.mem_append.mp member with old | isNew
    · exact life.asked one old
    · rw [List.mem_singleton.mp isNew, active, numbered]
      exact life.unborn_count (Nat.le_refl _) fun _ => worker?_of_asksToEnd
  armed := by
    intro one member
    rw [List.countP_append, armsKill_launchEffects, Nat.add_zero]
    rcases List.mem_append.mp member with old | isNew
    · exact life.armed one old
    · rw [List.mem_singleton.mp isNew, active, numbered]
      exact life.unborn_count (Nat.le_refl _) fun _ => worker?_of_armsKill
  once := by
    intro serial
    rw [List.countP_append, asksToEnd_launchEffects, Nat.add_zero]
    exact life.once serial
  unborn := by
    intro serial later
    rw [story_append, life.unborn serial (Nat.le_of_succ_le later), List.nil_append]
    refine story_eq_nil fun effect member same => ?_
    have about := worker?_launchEffects _ _ _ _ effect member
    have newest : supervisor.nextSerial = serial := Option.some.inj (about.symm.trans same)
    exact Nat.not_succ_le_self serial (newest ▸ later)

/-- A removal keeps the invariant, which speaks of the handles that stay. -/
theorem step_removed (life : Lifecycle supervisor trace) (keeps : Handle → Bool) :
    Lifecycle (supervisor.withRegistry ⟨supervisor.registry.handles.filter keeps⟩) trace where
  distinct := life.distinct.sublist (List.filter_sublist.map _)
  sound := fun handle member => life.sound handle (List.mem_of_mem_filter member)
  serials := life.serials.sublist (List.filter_sublist.map _)
  below := fun handle member => life.below handle (List.mem_of_mem_filter member)
  launches := life.launches
  launchedBelow := life.launchedBelow
  launched := fun handle member => life.launched handle (List.mem_of_mem_filter member)
  asked := fun handle member => life.asked handle (List.mem_of_mem_filter member)
  armed := fun handle member => life.armed handle (List.mem_of_mem_filter member)
  once := life.once
  unborn := life.unborn

/-- After reactions, a handle is as it was but for what its own reaction did, which is
what the count over the trace gained for its worker. -/
theorem tally_of_reactions (life : Lifecycle supervisor trace) {handles : List Handle}
    (reactions : Reactions operation supervisor.registry.handles handles effects) :
    ∀ after ∈ handles, ∃ handle ∈ supervisor.registry.handles,
      handle.SameWorker after ∧ after.Sound ∧
      (trace ++ effects).countP (asksToEnd after.serial) = after.isStopping.toNat ∧
      (trace ++ effects).countP (armsKill after.serial) = after.isStopping.toNat := by
  intro after member
  obtain ⟨handle, registered, reaction⟩ := reactions.stories life.sound life.serials after member
  have sound := life.sound handle registered
  obtain ⟨asked, armed, -, -⟩ := reaction.tally sound
  rw [countP_story fun _ => worker?_of_asksToEnd] at asked
  rw [countP_story fun _ => worker?_of_armsKill] at armed
  refine ⟨handle, registered, reaction.sameWorker, reaction.sound sound, ?_, ?_⟩
  · rw [reaction.sameWorker.serial, List.countP_append, life.asked handle registered, asked]
  · rw [reaction.sameWorker.serial, List.countP_append, life.armed handle registered, armed]

/-- Reactions keep the invariant. A serial number with a handle has the count of that
handle; one without gains nothing, because reactions are about registered workers. -/
theorem step_reacted (life : Lifecycle supervisor trace) {handles : List Handle}
    (reactions : Reactions operation supervisor.registry.handles handles effects)
    (accepting : Bool) :
    Lifecycle { supervisor with registry := ⟨handles⟩, accepting } (trace ++ effects) := by
  obtain ⟨sameIds, sameSerials⟩ := reactions.identities
  obtain ⟨about, launchesNot⟩ := reactions.about life.sound
  have tally := life.tally_of_reactions reactions
  have sameLaunches : launchedSerials (trace ++ effects) = launchedSerials trace := by
    rw [launchedSerials_append, launchesNot, List.append_nil]
  have elsewhere : ∀ serial, serial ∉ supervisor.registry.handles.map Handle.serial →
      story serial effects = [] := by
    intro serial absent
    refine story_eq_nil fun effect member same => ?_
    obtain ⟨handle, registered, concerns⟩ := about effect member
    exact absent (Option.some.inj (concerns.symm.trans same) ▸ List.mem_map_of_mem registered)
  exact {
    distinct := by rw [Registry.ids, sameIds]; exact life.distinct
    sound := by
      intro after member
      obtain ⟨-, -, -, sound, -⟩ := tally after member
      exact sound
    serials := by rw [sameSerials]; exact life.serials
    below := by
      intro after member
      obtain ⟨handle, registered, same, -⟩ := tally after member
      exact same.serial ▸ life.below handle registered
    launches := sameLaunches ▸ life.launches
    launchedBelow := sameLaunches ▸ life.launchedBelow
    launched := by
      intro after member
      obtain ⟨handle, registered, same, -⟩ := tally after member
      obtain ⟨command, present⟩ := life.launched handle registered
      exact ⟨command, same.id ▸ same.serial ▸ List.mem_append_left effects present⟩
    asked := by
      intro after member
      obtain ⟨-, -, -, -, asked, -⟩ := tally after member
      exact asked
    armed := by
      intro after member
      obtain ⟨-, -, -, -, -, armed⟩ := tally after member
      exact armed
    once := by
      intro serial
      by_cases present : serial ∈ handles.map Handle.serial
      · obtain ⟨after, member, rfl⟩ := List.mem_map.mp present
        obtain ⟨-, -, -, -, asked, -⟩ := tally after member
        exact asked ▸ Bool.toNat_le after.isStopping
      · rw [List.countP_append, ← countP_story fun _ => worker?_of_asksToEnd,
          ← countP_story (fun _ => worker?_of_asksToEnd) effects,
          elsewhere serial (sameSerials ▸ present), List.countP_nil, Nat.add_zero,
          countP_story fun _ => worker?_of_asksToEnd]
        exact life.once serial
    unborn := by
      intro serial later
      rw [story_append, life.unborn serial later, List.nil_append]
      refine elsewhere serial fun present => ?_
      obtain ⟨handle, registered, rfl⟩ := List.mem_map.mp present
      exact absurd (life.below handle registered) (Nat.not_lt_of_ge later) }

/-- Every operation keeps the invariant. -/
theorem step (life : Lifecycle supervisor trace)
    (outcome : Outcome supervisor operation after effects) :
    Lifecycle after (trace ++ effects) := by
  cases outcome with
  | launched created accepted valid derived built free commanded =>
    exact life.step_launched (newHandle_sound supervisor _ derived built) rfl rfl free _ _
  | removed ended found =>
    rw [List.append_nil]
    exact life.step_removed _
  | reacted reactions => exact life.step_reacted reactions _

/-- Whatever an operation wants of the outside is about a worker, and without a start nothing
is launched. -/
theorem step_about (life : Lifecycle supervisor trace)
    (outcome : Outcome supervisor operation after effects) :
    (∀ effect ∈ effects, ∃ serial, effect.worker? = some serial) ∧
      ((∀ around files spec, operation ≠ .create around files spec) →
        launchedSerials effects = [] ∧ after.nextSerial = supervisor.nextSerial) := by
  cases outcome with
  | launched created =>
    refine ⟨fun effect member => ⟨_, worker?_launchEffects _ _ _ _ effect member⟩, fun other => ?_⟩
    exact absurd created (other _ _ _)
  | removed ended found => exact ⟨by simp, fun _ => ⟨rfl, rfl⟩⟩
  | reacted reactions =>
    obtain ⟨about, launchesNot⟩ := reactions.about life.sound
    refine ⟨fun effect member => ?_, fun _ => ⟨launchesNot, rfl⟩⟩
    obtain ⟨handle, -, concerns⟩ := about effect member
    exact ⟨handle.serial, concerns⟩

/-- The same holds of every run. -/
theorem run_about (life : Lifecycle supervisor trace) (operations : List Operation) :
    (∀ effect ∈ (supervisor.run operations).snd, ∃ serial, effect.worker? = some serial) ∧
      ((∀ operation ∈ operations, ∀ around files spec, operation ≠ .create around files spec) →
        launchedSerials (supervisor.run operations).snd = [] ∧
          (supervisor.run operations).fst.nextSerial = supervisor.nextSerial) := by
  induction operations generalizing supervisor trace with
  | nil => exact ⟨by simp, fun _ => ⟨rfl, rfl⟩⟩
  | cons operation rest inductionHypothesis =>
    have outcome := Supervisor.step_outcome life.distinct operation
    obtain ⟨about, still⟩ := life.step_about outcome
    obtain ⟨aboutRest, stillRest⟩ := inductionHypothesis (life.step outcome)
    rw [Supervisor.run_cons]
    refine ⟨fun effect member => ?_, fun others => ?_⟩
    · rcases List.mem_append.mp member with here | later
      · exact about effect here
      · exact aboutRest effect later
    · obtain ⟨quiet, same⟩ := still (others operation List.mem_cons_self)
      obtain ⟨quietRest, sameRest⟩ := stillRest fun other member =>
        others other (List.mem_cons_of_mem operation member)
      refine ⟨?_, sameRest.trans same⟩
      rw [launchedSerials_append, quiet, quietRest, List.append_nil]

/-- Every run keeps the invariant. -/
theorem run (life : Lifecycle supervisor trace) (operations : List Operation) :
    Lifecycle (supervisor.run operations).fst (trace ++ (supervisor.run operations).snd) := by
  induction operations generalizing supervisor trace with
  | nil => simpa using life
  | cons operation rest inductionHypothesis =>
    have next := life.step (Supervisor.step_outcome life.distinct operation)
    simpa [List.append_assoc] using inductionHypothesis next

end Lifecycle

/-- A worker that was launched and, if it is still registered, was asked to end. -/
def Ending (supervisor : Supervisor) (serial : Nat) : Prop :=
  serial < supervisor.nextSerial ∧
    ∀ handle ∈ supervisor.registry.handles, handle.serial = serial → handle.isStopping = true

namespace Ending

variable {supervisor after : Supervisor} {operation : Operation} {trace effects : List Effect}
  {serial : Nat}

/-- A registered worker that was asked to end is ending, because no other handle has its
serial number. -/
theorem of_stopping (life : Lifecycle supervisor trace) {handle : Handle}
    (registered : handle ∈ supervisor.registry.handles) (stopping : handle.isStopping = true) :
    Ending supervisor handle.serial := by
  refine ⟨life.below handle registered, fun other member same => ?_⟩
  have one : other = handle := List.inj_on_of_nodup_map life.serials member registered same
  rw [one, stopping]

/-- No operation brings a worker back that was asked to end: a new worker has a new serial
number, and every reaction keeps what was asked. -/
theorem step (life : Lifecycle supervisor trace)
    (outcome : Outcome supervisor operation after effects) (ending : Ending supervisor serial) :
    Ending after serial := by
  obtain ⟨below, stopping⟩ := ending
  cases outcome with
  | launched created accepted valid derived built free commanded =>
    refine ⟨Nat.lt_succ_of_lt below, fun handle member same => ?_⟩
    rcases List.mem_append.mp member with old | isNew
    · exact stopping handle old same
    · have newest : handle.serial = supervisor.nextSerial := by
        rw [List.mem_singleton.mp isNew]
        rfl
      omega
  | removed ended found =>
    exact ⟨below, fun handle member => stopping handle (List.mem_of_mem_filter member)⟩
  | reacted reactions =>
    refine ⟨below, fun handle member same => ?_⟩
    obtain ⟨before, registered, reaction⟩ :=
      reactions.stories life.sound life.serials handle member
    have asked : before.isStopping = true :=
      stopping before registered (reaction.sameWorker.serial.symm.trans same)
    exact reaction.isStopping_of asked

/-- Hence no run does. -/
theorem run (life : Lifecycle supervisor trace) (ending : Ending supervisor serial)
    (operations : List Operation) : Ending (supervisor.run operations).fst serial := by
  induction operations generalizing supervisor trace with
  | nil => exact ending
  | cons operation rest inductionHypothesis =>
    have outcome := Supervisor.step_outcome life.distinct operation
    exact inductionHypothesis (life.step outcome) (ending.step life outcome)

end Ending

/-- In every run of a supervisor from its start, the invariant of worker lives holds, a
handle is found under its own id, and a worker that was asked to end stays so for as long
as it is registered, whatever is done later. -/
theorem Supervisor.run_lifecycle (settings : Settings) (operations : List Operation) :
    Lifecycle ((ofSettings settings).run operations).fst
        ((ofSettings settings).run operations).snd ∧
      ∀ handle ∈ ((ofSettings settings).run operations).fst.registry.handles,
        ((ofSettings settings).run operations).fst.registry.get? handle.id = some handle ∧
        (handle.isStopping = true → ∀ later,
          ∀ survivor ∈ ((ofSettings settings).run (operations ++ later)).fst.registry.handles,
            survivor.serial = handle.serial → survivor.isStopping = true) := by
  have life : Lifecycle ((ofSettings settings).run operations).fst
      ((ofSettings settings).run operations).snd :=
    (Lifecycle.initial settings).run operations
  refine ⟨life, fun handle registered => ⟨Registry.get?_of_mem life.distinct registered, ?_⟩⟩
  intro stopping later
  rw [run_append]
  exact ((Ending.of_stopping life registered stopping).run life later).2

/-- A relay of one multicast channel. -/
def relaySpec : Stream.Spec :=
  ⟨[("data_directory", .str "/d"), ("feedback_directory", .str "/f"), ("id", .str "s1"),
    ("input", .arr [.str "udp://239.0.0.1:1234"]), ("output", .arr []), ("type", .int 2)]⟩

/-- The worker of a relay that was asked to restart stays asked to end, whatever follows. -/
theorem Supervisor.run_lifecycle_restarted :
    let begun : List Operation := [.create default .empty relaySpec, .restart {} "s1"]
    ∃ handle ∈ ((ofSettings {}).run begun).fst.registry.handles, handle.isStopping = true ∧
      ∀ later, ∀ survivor ∈ ((ofSettings {}).run (begun ++ later)).fst.registry.handles,
        survivor.serial = handle.serial → survivor.isStopping = true := by
  intro begun
  have only : ((ofSettings {}).run begun).fst.registry.handles.map Handle.isStopping = [true] := by
    decide +kernel
  obtain ⟨handle, present, stopping⟩ := List.mem_map.mp (only ▸ List.mem_singleton_self true)
  exact ⟨handle, present, stopping, ((run_lifecycle {} begun).2 handle present).2 stopping⟩

end Worker
end MediaNode
