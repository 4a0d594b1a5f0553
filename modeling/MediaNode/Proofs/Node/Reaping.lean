import MediaNode.Proofs.Node.Shutdown
import MediaNode.Proofs.Worker.Usage

/-!
# Which workers are stopped because nobody asks for their channel

A worker is neglected when its id is that of a channel some directory is linked to, when it was
not asked to end, and when it was of no use for more than half of the time that channels live.
Looking for neglected workers asks exactly these to end, each once, and counts them; all other
workers are left as they are. What kind of stream a worker has does not enter into it.

The loop goes over the ids of the links, and an id may come several times. The worker that was
stopped when it came first is passed over later, because it is no longer neglected.
-/
namespace MediaNode

open Worker (Handle Operation)

/-- That a worker was asked to end for good: over its link or by a signal, and its kill timer is
armed. -/
def Worker.Handle.Dismissed (handle after : Handle) (effects : List Effect) : Prop :=
  ∃ pending asking, Asking handle .stop pending asking ∧
    after = { handle with phase := .stopRequested, armable := false, pending, restart := false } ∧
    effects = asking ++ if handle.armable then [.armKill handle.id handle.serial] else []

/-- So is one that is asked for the first time. -/
theorem Worker.Handle.dismissed_of_active {handle : Handle} (outbox : Outbox)
    (active : handle.isStopping = false) :
    handle.Dismissed (handle.ask outbox .stop).snd.fst (handle.ask outbox .stop).snd.snd := by
  obtain ⟨next, pending, asking, how, asked⟩ := ask_of_active outbox .stop active
  rw [asked]
  exact ⟨pending, asking, how, rfl, rfl⟩

/-- A worker that was asked to end is stopping. -/
theorem Worker.Handle.Dismissed.isStopping {handle after : Handle} {effects : List Effect}
    (dismissed : handle.Dismissed after effects) : after.isStopping = true := by
  obtain ⟨pending, asking, -, rfl, -⟩ := dismissed
  rfl

/-- Among handles one of which is replaced, those with other ids stay. -/
theorem Worker.Registry.mem_replace_of_ne {registry : Registry} {next handle : Handle}
    (member : handle ∈ registry.handles) (other : handle.id ≠ next.id) :
    handle ∈ (registry.replace next).handles :=
  List.mem_map.mpr ⟨handle, member, if_neg other⟩

namespace Node

variable {node : Node} {clock : Int} {ids : List String} {id : String} {handle : Handle}

/-- That a worker has one of the ids, was not asked to end, and was of no use for more than half
of the time that channels live. -/
structure Neglected (node : Node) (clock : Int) (ids : List String) (handle : Handle) : Prop where
  linked : handle.id ∈ ids
  active : handle.isStopping = false
  idle : node.settings.codsTtl * 500 < clock - handle.lastUpdate

/-- What a look over ids comes to: which workers it stopped, what became of each worker, and what
was done for it. -/
structure Culled (node : Node) (clock : Int) (ids : List String) (stopped : List Handle)
    (next : Handle → Handle) (sent : Handle → List Effect) : Prop where
  once : stopped.Nodup
  neglected : ∀ handle, handle ∈ stopped ↔
    handle ∈ node.supervisor.registry.handles ∧ node.Neglected clock ids handle
  asked : ∀ handle ∈ stopped, handle.Dismissed (next handle) (sent handle)
  others : ∀ handle ∈ node.supervisor.registry.handles, handle ∉ stopped → next handle = handle
  /-- The workers stay in their places, the effects follow each other, and nothing else changes
  but the numbers of requests that are used up. -/
  looked : ∃ outbox, node.reapEach clock ids =
    (node.withWorkers outbox
        (node.supervisor.withRegistry ⟨node.supervisor.registry.handles.map next⟩),
      stopped.flatMap sent, stopped.length)

variable {stopped : List Handle} {next : Handle → Handle} {sent : Handle → List Effect}

/-- An id whose worker is not neglected, or that has none, is passed over. -/
theorem Culled.skip (culled : node.Culled clock ids stopped next sent)
    (passed : node.reapEach clock (id :: ids) = node.reapEach clock ids)
    (spared : ∀ handle ∈ node.supervisor.registry.handles, handle.id = id →
      ¬ node.Neglected clock (id :: ids) handle) :
    node.Culled clock (id :: ids) stopped next sent where
  once := culled.once
  neglected handle := by
    rw [culled.neglected]
    constructor
    · rintro ⟨member, linked, active, idle⟩
      exact ⟨member, List.mem_cons_of_mem id linked, active, idle⟩
    · rintro ⟨member, neglected⟩
      have other : handle.id ≠ id := fun own => spared handle member own neglected
      exact ⟨member, List.mem_of_ne_of_mem other neglected.linked, neglected.active,
        neglected.idle⟩
  asked := culled.asked
  others := culled.others
  looked := by
    rw [passed]
    exact culled.looked

/-- The node after the worker of a handle was asked to end for good. -/
def dismiss (node : Node) (handle : Handle) : Node :=
  let (outbox, after, _) := handle.ask node.outbox .stop
  node.withWorkers outbox
    (node.supervisor.withRegistry (node.supervisor.registry.replace after))

theorem dismiss_registry : (node.dismiss handle).supervisor.registry =
    node.supervisor.registry.replace (handle.ask node.outbox .stop).snd.fst := rfl

/-- The first neglected worker is asked to end, and the rest of the ids are looked at then. -/
theorem reapEach_of_neglected (found : node.supervisor.registry.get? id = some handle)
    (neglected : node.Neglected clock (id :: ids) handle) :
    node.reapEach clock (id :: ids) =
      let (after, effects, count) := (node.dismiss handle).reapEach clock ids
      (after, (handle.ask node.outbox .stop).snd.snd ++ effects, count + 1) := by
  have idle : node.isIdle clock handle = true := decide_eq_true neglected.idle
  simp only [reapEach, found, neglected.active, idle, Worker.Supervisor.stop]
  rfl

/-- An id is passed over unless its worker is neglected. -/
theorem reapEach_of_spared
    (spared : ∀ handle, node.supervisor.registry.get? id = some handle →
      ¬ node.Neglected clock (id :: ids) handle) :
    node.reapEach clock (id :: ids) = node.reapEach clock ids := by
  cases found : node.supervisor.registry.get? id with
  | none => simp only [reapEach, found]
  | some handle =>
    have kept : (handle.isStopping || !node.isIdle clock handle) = true := by
      cases active : handle.isStopping with
      | true => rfl
      | false =>
        have busy : node.isIdle clock handle = false := by
          refine Bool.eq_false_iff.mpr fun idle => spared handle found ⟨?_, active, ?_⟩
          · rw [(Worker.Registry.mem_of_get? found).2]
            exact List.mem_cons_self
          · exact of_decide_eq_true idle
        rw [busy]
        rfl
    simp only [reapEach, found, kept, if_true]

/-- Afterwards the workers with other ids are still there, -/
theorem mem_dismiss_of_ne {other : Handle}
    (member : other ∈ node.supervisor.registry.handles) (different : other.id ≠ handle.id) :
    other ∈ (node.dismiss handle).supervisor.registry.handles := by
  have same := (handle.sameWorker_ask node.outbox .stop).id
  exact Worker.Registry.mem_replace_of_ne member fun own => different (own.trans same)

/-- and no others are there that were not asked to end. -/
theorem ne_of_mem_dismiss (active : handle.isStopping = false) {other : Handle}
    (kept : other ∈ (node.dismiss handle).supervisor.registry.handles)
    (running : other.isStopping = false) :
    other ∈ node.supervisor.registry.handles ∧ other.id ≠ handle.id := by
  have same := (handle.sameWorker_ask node.outbox .stop).id
  have stopping := (Handle.dismissed_of_active node.outbox active).isStopping
  rw [dismiss_registry] at kept
  rcases Worker.Registry.of_mem_replace kept with one | ⟨registered, different⟩
  · rw [← one, running] at stopping
    cases stopping
  · exact ⟨registered, fun own => different (own.trans same.symm)⟩

/-- What becomes of the workers afterwards becomes of the others before, and the worker stays as it
was asked. -/
theorem map_dismiss {next : Handle → Handle}
    (settled : next (handle.ask node.outbox .stop).snd.fst =
      (handle.ask node.outbox .stop).snd.fst) :
    (node.dismiss handle).supervisor.registry.handles.map next =
      node.supervisor.registry.handles.map fun other =>
        if other.id = handle.id then (handle.ask node.outbox .stop).snd.fst else next other := by
  rw [dismiss_registry, Worker.Registry.replace, List.map_map,
    (handle.sameWorker_ask node.outbox .stop).id]
  refine List.map_congr_left fun other _ => ?_
  rw [Function.comp_apply]
  by_cases own : other.id = handle.id
  · rw [if_pos own, if_pos own, settled]
  · rw [if_neg own, if_neg own]

/-- A neglected worker joins those that are stopped by the rest of the look. -/
theorem Culled.stop (distinct : node.supervisor.registry.ids.Nodup)
    (found : node.supervisor.registry.get? id = some handle)
    (neglected : node.Neglected clock (id :: ids) handle)
    (culled : (node.dismiss handle).Culled clock ids stopped next sent) :
    node.Culled clock (id :: ids) (handle :: stopped)
      (fun other => if other.id = id then (handle.ask node.outbox .stop).snd.fst else next other)
      (fun other =>
        if other.id = id then (handle.ask node.outbox .stop).snd.snd else sent other) := by
  obtain ⟨member, rfl⟩ := Worker.Registry.mem_of_get? found
  have same := (handle.sameWorker_ask node.outbox .stop).id
  have dismissed := Handle.dismissed_of_active node.outbox neglected.active
  have unique {other : Handle} (registered : other ∈ node.supervisor.registry.handles)
      (own : other.id = handle.id) : other = handle :=
    List.inj_on_of_nodup_map distinct registered member own
  have later {other : Handle} (stop : other ∈ stopped) :
      (other ∈ node.supervisor.registry.handles ∧ other.id ≠ handle.id) ∧
        node.Neglected clock ids other := by
    obtain ⟨kept, linked, active, idle⟩ := (culled.neglected other).mp stop
    exact ⟨ne_of_mem_dismiss neglected.active kept active, linked, active, idle⟩
  -- the worker itself is not neglected any more when its id comes again
  have settled : (handle.ask node.outbox .stop).snd.fst ∉ stopped := fun stop => by
    have active := (later stop).2.active
    rw [dismissed.isStopping] at active
    cases active
  refine {
    once := ?once, neglected := ?neglected, asked := ?asked, others := ?others, looked := ?looked }
  case once =>
    exact List.nodup_cons.mpr ⟨fun again => (later again).1.2 rfl, culled.once⟩
  case neglected =>
    intro other
    rw [List.mem_cons]
    constructor
    · rintro (rfl | stop)
      · exact ⟨member, neglected⟩
      · obtain ⟨⟨registered, -⟩, linked, active, idle⟩ := later stop
        exact ⟨registered, List.mem_cons_of_mem _ linked, active, idle⟩
    · rintro ⟨registered, linked, active, idle⟩
      by_cases own : other.id = handle.id
      · exact .inl (unique registered own)
      · right
        exact (culled.neglected other).mpr
          ⟨mem_dismiss_of_ne registered own, List.mem_of_ne_of_mem own linked, active, idle⟩
  case asked =>
    intro other stop
    rcases List.mem_cons.mp stop with rfl | stop
    · rw [if_pos rfl, if_pos rfl]
      exact dismissed
    · have own := (later stop).1.2
      rw [if_neg own, if_neg own]
      exact culled.asked other stop
  case others =>
    intro other registered kept
    obtain ⟨first, rest⟩ := not_or.mp (List.mem_cons.not.mp kept)
    have own : other.id ≠ handle.id := fun own => first (unique registered own)
    rw [if_neg own]
    exact culled.others other (mem_dismiss_of_ne registered own) rest
  case looked =>
    obtain ⟨outbox, looked⟩ := culled.looked
    refine ⟨outbox, ?_⟩
    have sents : stopped.flatMap sent = stopped.flatMap fun other =>
        if other.id = handle.id then (handle.ask node.outbox .stop).snd.snd else sent other :=
      List.flatMap_congr fun other stop => (if_neg (later stop).1.2).symm
    have place : (handle.ask node.outbox .stop).snd.fst ∈
        (node.dismiss handle).supervisor.registry.handles :=
      List.mem_map.mpr ⟨handle, member, if_pos same.symm⟩
    rw [reapEach_of_neglected found neglected, looked, map_dismiss (culled.others _ place settled)]
    simp only [List.flatMap_cons, if_true, ← sents, List.length_cons]
    rfl

/-- Every look comes to something. -/
theorem exists_culled (distinct : node.supervisor.registry.ids.Nodup) (clock : Int)
    (ids : List String) : ∃ stopped next sent, node.Culled clock ids stopped next sent := by
  induction ids generalizing node with
  | nil =>
    have never (handle : Handle) : ¬ node.Neglected clock [] handle := fun ⟨linked, _, _⟩ => by
      cases linked
    exact ⟨[], id, fun _ => [], {
      once := .nil
      neglected := fun handle => by simp [never]
      asked := fun handle stop => absurd stop List.not_mem_nil
      others := fun handle _ _ => rfl
      looked := ⟨node.outbox, by rw [List.map_id]; rfl⟩ }⟩
  | cons id rest inductionHypothesis =>
    by_cases first : ∃ handle, node.supervisor.registry.get? id = some handle ∧
        node.Neglected clock (id :: rest) handle
    · obtain ⟨handle, found, neglected⟩ := first
      have still : (node.dismiss handle).supervisor.registry.ids.Nodup := by
        rw [dismiss_registry, Worker.Registry.ids_replace]
        exact distinct
      obtain ⟨stopped, next, sent, culled⟩ := inductionHypothesis still
      exact ⟨_, _, _, culled.stop distinct found neglected⟩
    · obtain ⟨stopped, next, sent, culled⟩ := inductionHypothesis distinct
      refine ⟨stopped, next, sent, culled.skip ?_ ?_⟩
      · exact reapEach_of_spared fun handle found neglected => first ⟨handle, found, neglected⟩
      · rintro handle member rfl neglected
        exact first ⟨handle, Worker.Registry.get?_of_mem distinct member, neglected⟩

/-- That a worker is launched at a moment, or a file of its stream is asked for. -/
inductive Uses (node : Node) (moment : Moment) (id : String) (serial : Nat) : Prop where
  | launched (absent : (id, serial) ∉ node.supervisor.registry.workers)
      (present : (id, serial) ∈ (node.step moment).node.supervisor.registry.workers)
  | touched (asked : moment.event = .commanded (.touchStream id))

/-- What a moment calls notes its own time, or none. -/
theorem clock?_of_mem_calls {moment : Moment} {operation : Operation}
    (called : operation ∈ node.calls moment) :
    operation.clock? = none ∨ operation.clock? = some moment.around.clock := by
  obtain ⟨around, files, event⟩ := moment
  cases event with
  | connected name peer => cases called
  | dropped name => cases called
  | hungUp channel => cases called
  | heard name message =>
    cases message with
    | notification notification => cases called
    | response response => cases called
    | request request =>
      obtain ⟨method, -, -, called⟩ := of_mem_requestCalls called
      cases method with
      | stopService =>
        obtain ⟨delay, -, called⟩ := List.mem_flatMap.mp called
        rw [eq_stopAll_of_mem_shutdownCalls called]
        exact .inl rfl
      | startStream =>
        obtain ⟨spec, -, rfl⟩ := List.mem_map.mp called
        exact .inr rfl
      | stopStream | restartStream =>
        obtain ⟨id, -, rfl⟩ := List.mem_map.mp called
        exact .inl rfl
      | _ => cases called
  | commanded command =>
    cases command with
    | startStream spec =>
      rw [List.mem_singleton.mp called]
      exact .inr rfl
    | touchStream id =>
      rw [List.mem_singleton.mp called]
      exact .inr rfl
    | workerExited id serial code signal =>
      rcases of_mem_exitCalls code signal called with rfl | ⟨spec, rfl⟩
      · exact .inl rfl
      · exact .inr rfl
    | preparedDirectories roots channel response => cases called
    | _ =>
      rw [List.mem_singleton.mp called]
      exact .inl rfl
  | due chore =>
    cases chore with
    | license =>
      simp only [calls, choreCalls] at called
      split at called
      · cases called
      · rw [eq_stopAll_of_mem_shutdownCalls called]
        exact .inl rfl
    | reap =>
      obtain ⟨outbox, id, rfl⟩ := of_mem_reapCalls called
      exact .inl rfl
    | _ => cases called

/-- After a moment the time of a worker is that of the moment, or was its time before. -/
theorem dated_step {moment : Moment}
    (member : handle ∈ (node.step moment).node.supervisor.registry.handles) :
    handle.Dated node.supervisor.registry.handles [moment.around.clock] := by
  rw [(node.step_follows moment).supervisor] at member
  rcases Worker.Supervisor.dated_run (node.calls moment) member with noted | before
  · obtain ⟨operation, called, time⟩ := List.mem_filterMap.mp noted
    rcases clock?_of_mem_calls called with none | some
    · rw [none] at time
      cases time
    · rw [some] at time
      exact .inl (List.mem_singleton.mpr (Option.some.inj time).symm)
  · exact .inr before

/-- After a history it is that of a moment, or was its time before. -/
theorem dated_after (history : List Moment)
    (member : handle ∈ (node.after history).supervisor.registry.handles) :
    handle.Dated node.supervisor.registry.handles (history.map (·.around.clock)) := by
  induction history generalizing node with
  | nil => exact .same member
  | cons moment later inductionHypothesis =>
    exact .trans (fun other => dated_step) (inductionHypothesis member)

/-- A moment at which a worker is of use leaves its time in the handle. -/
theorem lastUpdate_of_uses {moment : Moment} (uses : node.Uses moment handle.id handle.serial)
    (member : handle ∈ (node.step moment).node.supervisor.registry.handles) :
    handle.lastUpdate = moment.around.clock := by
  cases uses with
  | launched absent present =>
    rcases dated_step member with noted | ⟨earlier, before, named, numbered, -⟩
    · exact List.mem_singleton.mp noted
    · refine absurd (List.mem_map.mpr ⟨earlier, before, ?_⟩) absent
      rw [named, numbered]
  | touched asked =>
    obtain ⟨around, files, event⟩ := moment
    cases asked
    simp only [step, apply, Worker.Supervisor.touch] at member
    split at member
    next missing =>
      exact absurd (List.mem_map_of_mem member) (Worker.Registry.get?_eq_none_iff.mp missing)
    next found search =>
      rcases Worker.Registry.of_mem_replace member with rfl | ⟨-, other⟩
      · rfl
      · exact absurd (Worker.Registry.mem_of_get? search).2.symm other

/-- As long as the clock does not run backwards, the time in the handle is not earlier
afterwards. -/
theorem clock_le_lastUpdate {moment : Moment} {later : List Moment}
    (uses : node.Uses moment handle.id handle.serial)
    (onward : ∀ other ∈ later, moment.around.clock ≤ other.around.clock)
    (member : handle ∈ ((node.step moment).node.after later).supervisor.registry.handles) :
    moment.around.clock ≤ handle.lastUpdate := by
  rcases dated_after later member with noted | ⟨between, before, named, numbered, time⟩
  · obtain ⟨other, listed, time⟩ := List.mem_map.mp noted
    exact time ▸ onward other listed
  · rw [← time]
    rw [← named, ← numbered] at uses
    exact Int.le_of_eq (lastUpdate_of_uses uses before).symm

/-- A look asks exactly the neglected workers to end and counts each of them once, however many
directories are linked to it; it leaves all others as they are. So it leaves a worker as it is
that was launched, or a file of whose stream was asked for, within the last half of the time that
channels live. -/
theorem reap_stops_neglected (distinct : node.supervisor.registry.ids.Nodup) (clock : Int) :
    let handles := node.supervisor.registry.handles
    ∃ (stopped : List Handle) (next : Handle → Handle) (sent : Handle → List Effect)
      (outbox : Outbox),
      node.reap clock =
        (node.withWorkers outbox (node.supervisor.withRegistry ⟨handles.map next⟩),
          stopped.flatMap sent, stopped.length) ∧
      stopped.Nodup ∧
      (∀ handle, handle ∈ stopped ↔
        handle ∈ handles ∧ node.Neglected clock node.codLinks.streamIds handle) ∧
      (∀ handle ∈ stopped, handle.Dismissed (next handle) (sent handle)) ∧
      (∀ handle ∈ handles, handle ∉ stopped → next handle = handle) ∧
      ∀ handle ∈ handles, ∀ (earlier : Node) (moment : Moment) (later : List Moment),
        node = (earlier.step moment).node.after later →
        earlier.Uses moment handle.id handle.serial →
        (∀ other ∈ later, moment.around.clock ≤ other.around.clock) →
        clock - moment.around.clock ≤ node.settings.codsTtl * 500 →
        handle ∉ stopped ∧ next handle = handle := by
  intro handles
  obtain ⟨stopped, next, sent, culled⟩ :=
    node.exists_culled distinct clock node.codLinks.streamIds
  obtain ⟨outbox, looked⟩ := culled.looked
  refine ⟨stopped, next, sent, outbox, looked, culled.once, culled.neglected, culled.asked,
    culled.others, ?_⟩
  intro handle member earlier moment later reached uses onward recent
  have since : moment.around.clock ≤ handle.lastUpdate :=
    clock_le_lastUpdate uses onward (reached ▸ member)
  have spared : handle ∉ stopped := fun stop => by
    have idle := ((culled.neglected handle).mp stop).2.idle
    omega
  exact ⟨spared, culled.others handle member spared⟩

/-- A channel with the id of the relay. -/
def channelSpec : List (String × Json) :=
  [("data_directory", .str "/d"), ("feedback_directory", .str "/f"), ("id", .str "s1"),
    ("input", .arr [.str "udp://239.0.0.1:1234"]),
    ("output", .arr [.obj [("http_root", .str "/cods/s1"), ("id", .int 0),
      ("uri", .str "http://localhost:6001/s1/live.m3u8")]]),
    ("type", .int 10)]

/-- Somebody connects, activates the session, links the directory of the channel, and starts the
relay. -/
def linkedHistory : List Moment :=
  let asked (number : Nat) (method : Method) (members : List (String × Json)) : Event :=
    .heard "c" (.request (.make method.name (some (.obj members)) (.number number)))
  [.connected "c" ⟨.ipv4 0x7F000001, 4000⟩,
    asked 1 .activate [("license", .str "00000000000013888bdeae83a31fd33508df9c4b10dc0ed5")],
    asked 2 .syncService [("streams", .arr [.obj channelSpec])],
    asked 3 .startStream Worker.relaySpec.members].map fun event => ⟨default, .empty, event⟩

/-- The relay is the only worker, it runs since the clock began, and the channel has its id. -/
theorem linkedHistory_relay :
    ((ofSettings relaySettings).after linkedHistory).supervisor.registry.handles.map
        (fun handle => (handle.id, handle.serial, handle.isStopping, handle.lastUpdate,
          handle.config.kind.isCod)) = [("s1", 1, false, 0, false)] ∧
      ((ofSettings relaySettings).after linkedHistory).codLinks.streamIds = ["s1"] := by
  decide +kernel

/-- Nobody asks for the channel for longer than five minutes, and the relay is asked to end; at
five minutes it is not. -/
theorem reap_stops_neglected_linked :
    let node := (ofSettings relaySettings).after linkedHistory
    ∃ relay, node.supervisor.registry.handles = [relay] ∧
      (∃ after effects, relay.Dismissed after effects ∧ (node.reap 300001).snd = (effects, 1) ∧
        (node.reap 300001).fst.supervisor.registry.handles = [after]) ∧
      (node.reap 300000).fst.supervisor.registry.handles = [relay] := by
  intro node
  have distinct : node.supervisor.registry.ids.Nodup :=
    (after_lifecycle relaySettings linkedHistory).distinct
  have limit : node.settings = relaySettings := after_settings _ linkedHistory
  obtain ⟨one, links⟩ := linkedHistory_relay
  obtain ⟨relay, alone, same⟩ := List.map_eq_singleton_iff.mp one
  simp only [Prod.mk.injEq] at same
  obtain ⟨named, numbered, active, time, -⟩ := same
  have present : relay ∈ node.supervisor.registry.handles := by
    rw [alone]
    exact List.mem_singleton_self relay
  refine ⟨relay, alone, ?_, ?_⟩
  · obtain ⟨stopped, next, sent, outbox, looked, once, which, asked, -⟩ :=
      reap_stops_neglected distinct 300001
    have neglected : node.Neglected 300001 node.codLinks.streamIds relay := by
      refine ⟨?_, active, ?_⟩
      · rw [links, named]
        exact List.mem_singleton_self "s1"
      · rw [limit, time]
        decide
    have only : stopped = [relay] := by
      refine List.perm_singleton.mp ((List.perm_ext_iff_of_nodup once (by simp)).mpr ?_)
      intro handle
      rw [which, alone, List.mem_singleton]
      exact and_iff_left_of_imp fun own => own ▸ neglected
    refine ⟨next relay, sent relay, asked relay (only ▸ List.mem_singleton_self relay), ?_⟩
    rw [looked, only, alone]
    exact ⟨by simp, rfl⟩
  · obtain ⟨stopped, next, sent, outbox, looked, -, -, -, -, recent⟩ :=
      reap_stops_neglected distinct 300000
    have launched : Uses ((ofSettings relaySettings).after (linkedHistory.take 3))
        (linkedHistory.get ⟨3, by decide⟩) relay.id relay.serial :=
      .launched (by rw [named, numbered]; decide +kernel) (List.mem_map_of_mem present)
    obtain ⟨-, still⟩ := recent relay present _ _ [] rfl launched (by simp)
      (by rw [limit]; decide)
    rw [looked, alone, List.map_singleton, still]
    rfl

/-- The relay is no channel, and it is asked to end all the same. -/
theorem relay_reaped :
    ¬ ∀ (settings : Settings) (history : List Moment) (clock : Int),
      let node := (ofSettings settings).after history
      ∀ handle ∈ node.supervisor.registry.handles, handle.config.kind.isCod = false →
        handle ∈ (node.reap clock).fst.supervisor.registry.handles := by
  intro always
  obtain ⟨relay, alone, same⟩ := List.map_eq_singleton_iff.mp linkedHistory_relay.1
  simp only [Prod.mk.injEq] at same
  obtain ⟨-, -, active, -, kind⟩ := same
  have after : (((ofSettings relaySettings).after linkedHistory).reap
      300001).fst.supervisor.registry.handles.map Handle.isStopping = [true] := by
    decide +kernel
  have kept := always relaySettings linkedHistory 300001 relay
    (alone ▸ List.mem_singleton_self relay) kind
  have stopping := List.mem_map_of_mem (f := Handle.isStopping) kept
  rw [after, active] at stopping
  simp at stopping

end Node
end MediaNode
