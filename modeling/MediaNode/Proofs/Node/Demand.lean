import MediaNode.Proofs.Node.Renewal
import MediaNode.Proofs.Site.Trigger
import MediaNode.Proofs.Worker.Lineage

/-!
# Streams that start on demand

A request for a file is decided beside the node: it looks up the link of its directory, then looks
at the files, and then queues what it decided on, command by command. Meanwhile the node goes on.
A `Front` is a node with the requests that are under way and the commands that are queued for it,
and an `Act` is one step of any of these, so that requests for files, synchronisation, requests of
sessions and events of workers are interleaved at will.

Each command keeps the request that it was queued for, and each worker the request that it was
launched for, also when it is launched again in the place of an older one. So whatever comes
between, a worker has the spec that its request found linked.
-/
namespace MediaNode

open MediaNode.Stream (Spec)

/-- A request for a file, with the links that it found. -/
structure Visit where
  kind : SiteKind
  path : Path
  vod : LinkIndex
  cod : LinkIndex

namespace Visit

/-- The links that the request looks at. -/
def links (visit : Visit) : LinkIndex :=
  match visit.kind with
  | .cod => visit.cod
  | _ => visit.vod

/-- That the directory of the file was linked to a spec. -/
def Finds (visit : Visit) (spec : Spec) : Prop := Site.LinkedTo visit.links visit.path spec

/-- What the request queues when these are the files. -/
def commands (visit : Visit) (files : FileTree) : List Command :=
  (Site.trigger visit.vod visit.cod files visit.kind visit.path).snd

/-- That the request may queue a command. -/
def Asks (visit : Visit) (command : Command) : Prop := ∃ files, command ∈ visit.commands files

end Visit

/-- A node with the requests for files that are under way, and the commands queued for it. -/
structure Front where
  node : Node
  /-- Requests that have looked up their link, and have yet to look at the files. -/
  visits : List Visit := []
  /-- Requests that were decided, with what they have yet to queue. -/
  sending : List (Visit × List Command) := []
  /-- Commands with the requests that queued them. -/
  queue : List (Option Visit × Command) := []
  /-- The workers that were launched for requests, by their serial numbers. -/
  origins : List (Nat × Visit) := []

namespace Front

/-- One step of a node or of something around it. -/
inductive Act where
  /-- Something happens to the node that is no command: a request of a session, a chore. -/
  | happened (moment : Moment) (direct : ∀ command, moment.event ≠ .commanded command)
  /-- Something else than a request for a file queues a command: a worker, a timer, a job. -/
  | queued (command : Command)
  /-- A request for a file looks up its link. -/
  | visited (kind : SiteKind) (path : Path)
  /-- It looks at the files, and is decided. -/
  | decided (place : Nat) (files : FileTree)
  /-- It queues the next one of its commands. -/
  | sent (place : Nat)
  /-- The node applies the first command of the queue. -/
  | applied (around : Surroundings) (files : FileTree)

/-- A front of a node that nothing happened to. -/
def start (settings : Settings) : Front := { node := .ofSettings settings }

/-- The requests that a worker is launched for by a command: the one that queued the start, or
those that the worker was launched for which has ended. -/
def causes (front : Front) (visit : Option Visit) : Command → List Visit
  | .startStream _ => visit.toList
  | .workerExited _ serial _ _ => (front.origins.filter (·.fst = serial)).map Prod.snd
  | _ => []

/-- A request for a file that looks up its link now. -/
def look (front : Front) (kind : SiteKind) (path : Path) : Visit :=
  { kind, path, vod := front.node.vodLinks, cod := front.node.codLinks }

/-- Take a step. -/
def step (front : Front) : Act → Front
  | .happened moment _ => { front with node := (front.node.step moment).node }
  | .queued command => { front with queue := front.queue ++ [(none, command)] }
  | .visited kind path =>
    { front with visits := front.visits ++ [front.look kind path] }
  | .decided place files =>
    match front.visits[place]? with
    | some visit =>
      { front with
        visits := front.visits.eraseIdx place
        sending := front.sending ++ [(visit, visit.commands files)] }
    | none => front
  | .sent place =>
    match front.sending[place]? with
    | some (visit, command :: rest) =>
      { front with
        sending := front.sending.set place (visit, rest)
        queue := front.queue ++ [(some visit, command)] }
    | _ => front
  | .applied around files =>
    match front.queue with
    | [] => front
    | (visit, command) :: rest =>
      let turn := front.node.step ⟨around, files, .commanded command⟩
      { front with
        node := turn.node
        queue := rest
        origins := front.origins ++ (Worker.launchedSerials turn.effects).flatMap fun serial =>
          (front.causes visit command).map (serial, ·) }

/-- The front after a history. -/
def after (front : Front) : List Act → Front
  | [] => front
  | act :: later => (front.step act).after later

/-- That a request looked up its link in a history, and found these links. -/
def Looked (settings : Settings) (history : List Act) (visit : Visit) : Prop :=
  ∃ before later, history = before ++ .visited visit.kind visit.path :: later ∧
    visit = ((start settings).after before).look visit.kind visit.path

end Front

namespace Visit

variable {visit : Visit} {spec other : Spec} {command : Command}

/-- A directory is linked to one spec at most. -/
theorem finds_unique (first : visit.Finds spec) (second : visit.Finds other) : spec = other :=
  Option.some.inj
    ((Site.linked_eq_some_iff.mpr first).symm.trans (Site.linked_eq_some_iff.mpr second))

/-- Only streams that the request found are started, and kept running under their ids. -/
theorem found_of_asks (asks : visit.Asks command) :
    ∃ spec, visit.Finds spec ∧
      (command = .startStream spec ∨ ∃ id, spec.id? = some id ∧ command = .touchStream id) := by
  obtain ⟨files, member⟩ := asks
  obtain ⟨outcome, commands, decides⟩ :=
    Site.exists_decides visit.vod visit.cod files visit.kind visit.path
  rw [Visit.commands, Site.trigger_eq_of_decides decides] at member
  have kept {found : Spec} {note : List Command} (keeps : Site.Keeps found note)
      (listed : command ∈ note) : ∃ id, found.id? = some id ∧ command = .touchStream id := by
    cases keeps with
    | named named => exact ⟨_, named, List.mem_singleton.mp listed⟩
    | nameless nameless => cases listed
  obtain ⟨kind, path, vod, cod⟩ := visit
  cases decides with
  | unrecorded manifest linked incomplete =>
    exact ⟨_, linked, .inl (List.mem_singleton.mp member)⟩
  | channel manifest linked keeps =>
    rcases List.mem_cons.mp member with started | noted
    · exact ⟨_, linked, .inl started⟩
    · exact ⟨_, linked, .inr (kept keeps noted)⟩
  | chunk chunk linked keeps => exact ⟨_, linked, .inr (kept keeps member)⟩
  | _ => cases member

/-- So a start is that of the spec that the request found. -/
theorem finds_of_asks (asks : visit.Asks (.startStream spec)) : visit.Finds spec := by
  obtain ⟨found, finds, started | ⟨id, -, noted⟩⟩ := found_of_asks asks
  · cases started
    exact finds
  · cases noted

end Visit

namespace Node

open Worker (launchedSerials launchedSerials_append)

variable {node : Node} {around : Surroundings} {files : FileTree} {serial : Nat}
  {Fits : Spec → Prop} {trace : List Effect}

/-- Whatever happens to a node, its workers keep what they were launched for. -/
theorem carries_step (carries : node.supervisor.Carries serial Fits)
    (life : Worker.Lifecycle node.supervisor trace) (moment : Moment) :
    (node.step moment).node.supervisor.Carries serial Fits := by
  rw [(node.step_follows moment).supervisor]
  exact carries.run life.distinct _

/-- Starting a stream that was asked for leaves the node as it is and launches nothing, or brings
in one worker of the spec and changes nothing else. -/
theorem lazyStart_cases (node : Node) (around : Surroundings) (files : FileTree) (spec : Spec) :
    ((node.lazyStart around files spec).node = node ∧
        (node.lazyStart around files spec).effects = []) ∨
      ∃ handle supervisor effects, node.supervisor.Started spec handle supervisor effects ∧
        (node.lazyStart around files spec).node = { node with supervisor } ∧
        (node.lazyStart around files spec).effects = effects := by
  unfold lazyStart
  rcases created : node.supervisor.create around files spec with ⟨made, after, effects, outcome⟩
  cases outcome with
  | error fault =>
    obtain ⟨rfl, rfl, -⟩ := Worker.Supervisor.create_eq_error created
    exact .inl ⟨rfl, rfl⟩
  | ok =>
    obtain ⟨handle, started⟩ := Worker.Supervisor.started_of_create created
    exact .inr ⟨handle, after, effects, started, rfl, rfl⟩

/-- So a worker that is launched then was launched for the spec. -/
theorem carries_of_lazyStart {spec : Spec} (life : Worker.Lifecycle node.supervisor trace)
    (fits : Fits spec)
    (launched : serial ∈ launchedSerials (node.lazyStart around files spec).effects) :
    (node.lazyStart around files spec).node.supervisor.Carries serial Fits := by
  obtain ⟨-, silent⟩ | ⟨handle, supervisor, effects, started, left, wanted⟩ :=
    node.lazyStart_cases around files spec
  · rw [silent] at launched
    cases launched
  · rw [wanted, started.launches] at launched
    rw [left, List.mem_singleton.mp launched]
    exact started.carries life fits

/-- A worker that is launched at the end of another one is launched for what that one was. -/
theorem carries_of_workerExited {id : String} {ended : Nat} {code signal : Option Int}
    (life : Worker.Lifecycle node.supervisor trace)
    (carries : node.supervisor.Carries ended Fits)
    (launched : serial ∈ launchedSerials
      (node.workerExited around files id ended code signal).effects) :
    (node.workerExited around files id ended code signal).node.supervisor.Carries serial Fits := by
  cases found : node.supervisor.registry.getSerial? id ended with
  | none =>
    simp only [workerExited, Worker.Supervisor.exited_of_getSerial?_none found] at launched
    cases launched
  | some handle =>
    obtain ⟨told, asides, exit⟩ := workerExited_of_getSerial? around files code signal found
    obtain ⟨registered, own⟩ := Worker.Registry.getSerial?_eq_some_iff.mp found
    have fits := carries.fits handle (Worker.Registry.mem_of_get? registered).1 own
    have gone := life.step (Worker.Supervisor.step_outcome life.distinct (.exited id ended))
    rw [exit] at launched ⊢
    simp only [launchedSerials_append, launchedSerials_of_aside asides, List.nil_append]
      at launched ⊢
    cases again : handle.restart with
    | false =>
      simp only [again, Bool.false_eq_true, if_false] at launched
      cases launched
    | true =>
      simp only [again, if_true] at launched ⊢
      exact @carries_of_lazyStart (node.without id ended) _ _ _ _ _ _ gone fits launched

/-- The end of a worker whose configuration keeps the chunks removes none, whether the worker is
launched again or not. -/
theorem keeps_chunks {id : String} {handle : Worker.Handle} {code signal : Option Int}
    (found : node.supervisor.registry.getSerial? id serial = some handle)
    (kept : handle.config.cleanupTs = false) (directories : List Path) :
    .removeChunks directories ∉
      (node.workerExited around files id serial code signal).effects := by
  have clean : cleanup handle = [] := by simp [cleanup, kept]
  have started (spec : Spec) (before : Node) :
      .removeChunks directories ∉ (before.lazyStart around files spec).effects := by
    obtain ⟨-, silent⟩ | ⟨fresh, supervisor, effects, started, -, wanted⟩ :=
      before.lazyStart_cases around files spec
    · simp [silent]
    · obtain ⟨command, -, launch⟩ := started.launched
      rw [wanted, launch, Worker.launchEffects]
      cases fresh.config.base.ttl <;> simp
  intro removed
  simp only [workerExited, Worker.Supervisor.exited_of_getSerial? found, clean, List.append_nil,
    List.mem_append] at removed
  rcases removed with told | later
  · obtain ⟨name, session, -, -, same⟩ := of_mem_broadcast told
    cases same
  · split at later
    · exact started _ _ later
    · cases later

/-- The node after the worker of a stream was of use to somebody; everything else is as before. -/
def touched (node : Node) (id : String) (clock : Int) : Node :=
  { node with
    supervisor := node.supervisor.withRegistry
      ⟨node.supervisor.registry.handles.map fun handle =>
        if handle.id = id then handle.touch clock else handle⟩ }

/-- Only the last time counts. -/
theorem touched_touched (node : Node) (id : String) (first last : Int) :
    (node.touched id first).touched id last = node.touched id last := by
  simp only [touched, Worker.Supervisor.withRegistry, List.map_map]
  congr 3
  refine List.map_congr_left fun handle _ => ?_
  by_cases own : handle.id = id <;> simp [own, Worker.Handle.touch]

/-- The ids of the workers stay. -/
theorem ids_touched (node : Node) (id : String) (clock : Int) :
    (node.touched id clock).supervisor.registry.ids = node.supervisor.registry.ids := by
  simp only [touched, Worker.Supervisor.withRegistry, Worker.Registry.ids, List.map_map]
  refine List.map_congr_left fun handle _ => ?_
  by_cases own : handle.id = id <;> simp [own, Worker.Handle.touch]

section taken

variable {id : String} (distinct : node.supervisor.registry.ids.Nodup)
  (taken : id ∈ node.supervisor.registry.ids)
include distinct taken

/-- Noting a use touches the worker of the stream. -/
theorem touch_eq_touched (clock : Int) :
    { node with supervisor := node.supervisor.touch clock id } = node.touched id clock := by
  obtain ⟨handle, registered, own⟩ := List.mem_map.mp taken
  have found := (Worker.Registry.get?_eq_some_iff distinct).mpr ⟨registered, own⟩
  have same : (handle.touch clock).id = id := own
  simp only [Worker.Supervisor.touch, found, touched, Worker.Registry.replace, same]
  congr 3
  refine List.map_congr_left fun other member => ?_
  by_cases named : other.id = id
  · obtain rfl : other = handle :=
      List.inj_on_of_nodup_map distinct member registered (named.trans own.symm)
    rfl
  · rw [if_neg named, if_neg named]

/-- A node is as if its worker had been touched when it was touched last. -/
theorem exists_touched : ∃ clock, node.touched id clock = node := by
  obtain ⟨handle, registered, own⟩ := List.mem_map.mp taken
  refine ⟨handle.lastUpdate, ?_⟩
  have still : (node.supervisor.registry.handles.map fun other =>
      if other.id = id then other.touch handle.lastUpdate else other) =
      node.supervisor.registry.handles := by
    conv_rhs => rw [← List.map_id node.supervisor.registry.handles]
    refine List.map_congr_left fun other member => ?_
    by_cases named : other.id = id
    · obtain rfl : other = handle :=
        List.inj_on_of_nodup_map distinct member registered (named.trans own.symm)
      rw [if_pos named]
      rfl
    · rw [if_neg named]
      rfl
  simp only [touched, still]
  rfl

/-- A request that finds a stream which has a worker only touches it. -/
theorem step_of_asks {visit : Visit} {spec : Spec} {command : Command} (finds : visit.Finds spec)
    (named : spec.id? = some id) (asks : visit.Asks command) :
    ∃ clock, (node.step ⟨around, files, .commanded command⟩).node = node.touched id clock ∧
      (node.step ⟨around, files, .commanded command⟩).effects = [] := by
  obtain ⟨found, second, rfl | ⟨other, own, rfl⟩⟩ := Visit.found_of_asks asks
  · obtain rfl := Visit.finds_unique finds second
    obtain ⟨clock, still⟩ := exists_touched distinct taken
    have idle : ¬ node.supervisor.Launches around files spec :=
      Worker.Supervisor.not_launches_of_taken named taken
    refine ⟨clock, ?_⟩
    obtain ⟨left, silent⟩ | ⟨handle, supervisor, effects, started, -, -⟩ :=
      node.lazyStart_cases around files spec
    · exact ⟨left.trans still.symm, silent⟩
    · obtain rfl : id = handle.id := Option.some.inj (named.symm.trans started.named)
      exact absurd taken started.free
  · obtain rfl := Visit.finds_unique finds second
    obtain rfl : other = id := Option.some.inj (own.symm.trans named)
    exact ⟨around.clock, touch_eq_touched distinct taken around.clock, rfl⟩

end taken

end Node

namespace Front

variable {front : Front}

/-- The node of a front has a history of its own. -/
theorem node_after (front : Front) (history : List Act) :
    ∃ moments, (front.after history).node = front.node.after moments := by
  induction history generalizing front with
  | nil => exact ⟨[], rfl⟩
  | cons act later inductionHypothesis =>
    obtain ⟨moments, reached⟩ := inductionHypothesis (front.step act)
    have first : ∃ moments, (front.step act).node = front.node.after moments := by
      cases act with
      | happened moment direct => exact ⟨[moment], rfl⟩
      | queued command => exact ⟨[], rfl⟩
      | visited kind path => exact ⟨[], rfl⟩
      | decided place files =>
        simp only [step]
        split <;> exact ⟨[], rfl⟩
      | sent place =>
        simp only [step]
        split <;> exact ⟨[], rfl⟩
      | applied around files =>
        simp only [step]
        split
        · exact ⟨[], rfl⟩
        · next visit command rest queue => exact ⟨[⟨around, files, .commanded command⟩], rfl⟩
    obtain ⟨earlier, started⟩ := first
    exact ⟨earlier ++ moments, by rw [after, reached, started, Node.after_append]⟩

/-- That whatever is under way, queued or launched for a request is so for one that was seen, and
asks for what it found. -/
structure Traced (Seen : Visit → Prop) (front : Front) : Prop where
  life : ∃ trace, Worker.Lifecycle front.node.supervisor trace
  visits : ∀ visit ∈ front.visits, Seen visit
  sending : ∀ entry ∈ front.sending, Seen entry.fst ∧ ∀ command ∈ entry.snd, entry.fst.Asks command
  queue : ∀ visit command, (some visit, command) ∈ front.queue → Seen visit ∧ visit.Asks command
  origins : ∀ entry ∈ front.origins, Seen entry.snd ∧
    front.node.supervisor.Carries entry.fst entry.snd.Finds

namespace Traced

variable {Seen : Visit → Prop}

/-- The workers stay what they were launched for, whatever happens to the node. -/
theorem node_step (traced : front.Traced Seen) (moment : Moment) :
    (∃ trace, Worker.Lifecycle (front.node.step moment).node.supervisor trace) ∧
      ∀ entry ∈ front.origins, Seen entry.snd ∧
        (front.node.step moment).node.supervisor.Carries entry.fst entry.snd.Finds := by
  obtain ⟨trace, life⟩ := traced.life
  constructor
  · rw [(front.node.step_follows moment).supervisor]
    exact ⟨_, life.run _⟩
  · intro entry member
    obtain ⟨seen, carries⟩ := traced.origins entry member
    exact ⟨seen, Node.carries_step carries life moment⟩

/-- A worker that is launched by a command was launched for what the request of the command found,
or the one of the worker whose end the command brings. -/
theorem launched (traced : front.Traced Seen) {visit : Option Visit} {command : Command}
    (queued : ∀ own, visit = some own → Seen own ∧ own.Asks command) (around : Surroundings)
    (files : FileTree) {serial : Nat} {cause : Visit}
    (launched : serial ∈ Worker.launchedSerials
      (front.node.step ⟨around, files, .commanded command⟩).effects)
    (caused : cause ∈ front.causes visit command) :
    Seen cause ∧ (front.node.step ⟨around, files, .commanded command⟩).node.supervisor.Carries
      serial cause.Finds := by
  obtain ⟨trace, life⟩ := traced.life
  cases command with
  | startStream spec =>
    obtain ⟨seen, asks⟩ := queued cause (Option.mem_toList.mp caused)
    exact ⟨seen, Node.carries_of_lazyStart life (Visit.finds_of_asks asks) launched⟩
  | workerExited id ended code signal =>
    obtain ⟨⟨number, own⟩, kept, rfl⟩ := List.mem_map.mp caused
    obtain ⟨member, same⟩ := List.mem_filter.mp kept
    obtain rfl : number = ended := by simpa using same
    obtain ⟨seen, carries⟩ := traced.origins _ member
    exact ⟨seen, Node.carries_of_workerExited life carries launched⟩
  | _ => cases caused

/-- So every step keeps it, if a request that looks up its link is seen with what it finds. -/
theorem step (traced : front.Traced Seen) {act : Act}
    (seen : ∀ kind path, act = .visited kind path → Seen (front.look kind path)) :
    (front.step act).Traced Seen := by
  cases act with
  | happened moment direct =>
    obtain ⟨life, origins⟩ := traced.node_step moment
    exact ⟨life, traced.visits, traced.sending, traced.queue, origins⟩
  | queued command =>
    refine ⟨traced.life, traced.visits, traced.sending, fun visit other member => ?_,
      traced.origins⟩
    rcases List.mem_append.mp member with before | new
    · exact traced.queue visit other before
    · cases List.mem_singleton.mp new
  | visited kind path =>
    refine ⟨traced.life, fun visit member => ?_, traced.sending, traced.queue, traced.origins⟩
    rcases List.mem_append.mp member with before | new
    · exact traced.visits visit before
    · rw [List.mem_singleton.mp new]
      exact seen kind path rfl
  | decided place files =>
    simp only [Front.step]
    split
    · next visit found =>
      refine ⟨traced.life, fun other member => traced.visits other (List.mem_of_mem_eraseIdx member),
        fun entry member => ?_, traced.queue, traced.origins⟩
      rcases List.mem_append.mp member with before | new
      · exact traced.sending entry before
      · rw [List.mem_singleton.mp new]
        exact ⟨traced.visits visit (List.mem_of_getElem? found),
          fun command listed => ⟨files, listed⟩⟩
    · exact traced
  | sent place =>
    simp only [Front.step]
    split
    · next visit command rest found =>
      obtain ⟨own, asks⟩ := traced.sending _ (List.mem_of_getElem? found)
      refine ⟨traced.life, traced.visits, fun entry member => ?_, fun other queued member => ?_,
        traced.origins⟩
      · rcases List.mem_or_eq_of_mem_set member with before | rfl
        · exact traced.sending entry before
        · exact ⟨own, fun later listed => asks later (List.mem_cons_of_mem command listed)⟩
      · rcases List.mem_append.mp member with before | new
        · exact traced.queue other queued before
        · cases List.mem_singleton.mp new
          exact ⟨own, asks command List.mem_cons_self⟩
    · exact traced
  | applied around files =>
    simp only [Front.step]
    split
    · exact traced
    · next visit command rest queue =>
      obtain ⟨life, origins⟩ := traced.node_step ⟨around, files, .commanded command⟩
      refine ⟨life, traced.visits, traced.sending, fun other queued member => ?_,
        fun entry member => ?_⟩
      · exact traced.queue other queued (queue ▸ List.mem_cons_of_mem _ member)
      · rcases List.mem_append.mp member with before | new
        · exact origins entry before
        · obtain ⟨serial, fresh, caused⟩ := List.mem_flatMap.mp new
          obtain ⟨cause, reason, rfl⟩ := List.mem_map.mp caused
          refine traced.launched (fun own same => ?_) around files fresh reason
          subst same
          exact traced.queue own command (queue ▸ List.mem_cons_self)

/-- Hence every history does. -/
theorem after (traced : front.Traced Seen) {history : List Act}
    (seen : ∀ before later kind path, history = before ++ .visited kind path :: later →
      Seen ((front.after before).look kind path)) :
    (front.after history).Traced Seen := by
  induction history generalizing front with
  | nil => exact traced
  | cons act later inductionHypothesis =>
    refine inductionHypothesis (traced.step fun kind path same => ?_) ?_
    · exact seen [] later kind path (by rw [same]; rfl)
    · intro before rest kind path split
      exact seen (act :: before) rest kind path (by rw [split]; rfl)

end Traced

/-- In every history from the start, all that is done for requests is done for requests of the
history, with the links that they found. -/
theorem traced_after (settings : Settings) (history : List Act) :
    ((start settings).after history).Traced (Looked settings history) := by
  have first : (start settings).Traced (Looked settings history) := {
    life := ⟨[], .initial settings⟩
    visits := fun _ member => absurd member List.not_mem_nil
    sending := fun _ member => absurd member List.not_mem_nil
    queue := fun _ _ member => absurd member List.not_mem_nil
    origins := fun _ member => absurd member List.not_mem_nil }
  exact first.after fun before later kind path split => ⟨before, later, split, rfl⟩

end Front
end MediaNode
