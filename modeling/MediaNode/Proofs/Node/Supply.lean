import MediaNode.Proofs.Node.Demand

/-!
# What requests for files start

A worker that was started for a request for a file has the spec that was linked to the directory
of the file when the request looked, however long the start waited in the queue and whatever was
synchronised since; and it has at most one, because a start under an id that is taken does nothing.
What the library links keeps its chunks, and so does every configuration that is built from it, so
that none of these workers removes a chunk when it ends.
-/
namespace MediaNode.Front

open MediaNode.Stream (Spec)
open Worker (launchedSerials)

variable {front : Front} {settings : Settings} {history : List Act} {visit : Visit} {spec : Spec}

/-- The commands that are applied one after the other, with what the node finds then. -/
def applying (turns : List (Surroundings × FileTree)) : List Act :=
  turns.map fun turn => .applied turn.fst turn.snd

/-- That a front does for requests for files what they ask for: each start is that of the spec that
was linked, it brings in one worker or nobody, and what is known of a worker stays. -/
structure Supplies (settings : Settings) (history : List Act) (front : Front) : Prop where
  /-- A start that a request queued is that of the spec that it found linked when it looked. -/
  queued : ∀ visit spec, (some visit, .startStream spec) ∈ front.queue →
    Looked settings history visit ∧ visit.Finds spec
  /-- Applied, it brings in one worker of that spec for the request, or it changes nothing. -/
  started : ∀ visit spec rest, front.queue = (some visit, .startStream spec) :: rest →
    ∀ around files, let next := front.step (.applied around files)
      (next.node = front.node ∧ next.origins = front.origins) ∨
        ∃ handle supervisor effects,
          front.node.supervisor.Started spec handle supervisor effects ∧
          next.node = { front.node with supervisor } ∧
          next.origins = front.origins ++ [(handle.serial, visit)]
  /-- A worker that is launched at the end of another one is there for the same requests. -/
  renewed : ∀ tag id serial code signal rest,
    front.queue = (tag, .workerExited id serial code signal) :: rest →
    ∀ visit, (serial, visit) ∈ front.origins → ∀ around files, ∀ fresh ∈ launchedSerials
      (front.node.step ⟨around, files, .commanded (.workerExited id serial code signal)⟩).effects,
      (fresh, visit) ∈ (front.step (.applied around files)).origins
  /-- Every worker that is there for a request has a spec that the request found linked. -/
  spec : ∀ serial visit, (serial, visit) ∈ front.origins → Looked settings history visit ∧
    ∀ handle ∈ front.node.supervisor.registry.handles, handle.serial = serial →
      visit.Finds handle.spec
  /-- Any number of requests that find a stream which has a worker bring in no other one, and of
  the handle of that worker they change when it was of use last. -/
  taken : ∀ id turns, id ∈ front.node.supervisor.registry.ids →
    (∀ entry ∈ front.queue.take turns.length, ∃ visit spec, entry.fst = some visit ∧
      visit.Finds spec ∧ spec.id? = some id) →
    ∃ clock, (front.after (applying turns)).node = front.node.touched id clock ∧
      (front.after (applying turns)).origins = front.origins
  /-- A worker that is there for a request of the library keeps the chunks by its configuration,
  and its end removes none. -/
  kept : ∀ serial visit, (serial, visit) ∈ front.origins → visit.kind = .vod →
    ∀ id handle, front.node.supervisor.registry.getSerial? id serial = some handle →
      handle.config.cleanupTs = false ∧ ∀ around files code signal directories,
        .removeChunks directories ∉ (front.node.step
          ⟨around, files, .commanded (.workerExited id serial code signal)⟩).effects

/-- Applying a start that was queued for a request brings in one worker for it, or nothing. -/
theorem step_of_start {rest : List (Option Visit × Command)}
    (queue : front.queue = (some visit, .startStream spec) :: rest) (around : Surroundings)
    (files : FileTree) :
    let next := front.step (.applied around files)
    (next.node = front.node ∧ next.origins = front.origins) ∨
      ∃ handle supervisor effects, front.node.supervisor.Started spec handle supervisor effects ∧
        next.node = { front.node with supervisor } ∧
        next.origins = front.origins ++ [(handle.serial, visit)] := by
  simp only [step, queue, causes, Option.toList_some, List.map_singleton]
  obtain ⟨left, silent⟩ | ⟨handle, supervisor, effects, started, left, wanted⟩ :=
    front.node.lazyStart_cases around files spec
  · refine .inl ⟨left, ?_⟩
    change _ ++ (launchedSerials (front.node.lazyStart around files spec).effects).flatMap _ = _
    rw [silent]
    exact List.append_nil _
  · refine .inr ⟨handle, supervisor, effects, started, left, ?_⟩
    change _ ++ (launchedSerials (front.node.lazyStart around files spec).effects).flatMap _ = _
    rw [wanted, started.launches]
    rfl

/-- Applying the end of a worker passes on what the worker was there for. -/
theorem origins_of_exit {tag : Option Visit} {id : String} {serial : Nat} {code signal : Option Int}
    {rest : List (Option Visit × Command)}
    (queue : front.queue = (tag, .workerExited id serial code signal) :: rest)
    (there : (serial, visit) ∈ front.origins) (around : Surroundings) (files : FileTree)
    {fresh : Nat} (launched : fresh ∈ launchedSerials
      (front.node.step ⟨around, files, .commanded (.workerExited id serial code signal)⟩).effects) :
    (fresh, visit) ∈ (front.step (.applied around files)).origins := by
  have cause : visit ∈ front.causes tag (.workerExited id serial code signal) :=
    List.mem_map.mpr ⟨(serial, visit), List.mem_filter.mpr ⟨there, by simp⟩, rfl⟩
  simp only [step, queue]
  exact List.mem_append_right _
    (List.mem_flatMap.mpr ⟨fresh, launched, List.mem_map_of_mem cause⟩)

/-- Requests that find a stream which has a worker only touch it. -/
theorem Traced.touched {Seen : Visit → Prop} (traced : front.Traced Seen) {id : String}
    (taken : id ∈ front.node.supervisor.registry.ids) {turns : List (Surroundings × FileTree)}
    (meant : ∀ entry ∈ front.queue.take turns.length, ∃ visit spec, entry.fst = some visit ∧
      visit.Finds spec ∧ spec.id? = some id) :
    ∃ clock, (front.after (applying turns)).node = front.node.touched id clock ∧
      (front.after (applying turns)).origins = front.origins := by
  induction turns generalizing front with
  | nil =>
    obtain ⟨trace, life⟩ := traced.life
    obtain ⟨clock, same⟩ := Node.exists_touched life.distinct taken
    exact ⟨clock, same.symm, rfl⟩
  | cons turn rest inductionHypothesis =>
    obtain ⟨around, files⟩ := turn
    have next := traced.step fun kind path (same : Act.applied around files = _) => nomatch same
    have split : front.after (applying ((around, files) :: rest)) =
        (front.step (.applied around files)).after (applying rest) := rfl
    rw [split]
    cases queue : front.queue with
    | nil =>
      have still : front.step (.applied around files) = front := by simp only [Front.step, queue]
      rw [still]
      exact inductionHypothesis traced taken (by simp [queue])
    | cons entry more =>
      obtain ⟨trace, life⟩ := traced.life
      obtain ⟨tag, command⟩ := entry
      obtain ⟨visit, spec, rfl, finds, named⟩ := meant (tag, command) (by simp [queue])
      have asks := (traced.queue visit command (queue ▸ List.mem_cons_self)).2
      obtain ⟨first, left, silent⟩ := @Node.step_of_asks front.node around files id life.distinct
        taken visit spec command finds named asks
      have node : (front.step (.applied around files)).node = front.node.touched id first := by
        simp only [Front.step, queue, left]
      have origins : (front.step (.applied around files)).origins = front.origins := by
        simp only [Front.step, queue, silent]
        exact List.append_nil _
      have others : (front.step (.applied around files)).queue = more := by simp only [Front.step, queue]
      obtain ⟨last, after, same⟩ := inductionHypothesis next
        (by rw [node, Node.ids_touched]; exact taken) (by
          rw [others]
          intro entry member
          exact meant entry (by rw [queue]; exact List.mem_cons_of_mem _ member))
      exact ⟨last, by rw [after, node, Node.touched_touched], by rw [same, origins]⟩

/-- What a request of the library finds keeps its chunks. -/
theorem cleanup_of_finds (looked : Looked settings history visit) (library : visit.kind = .vod)
    (finds : visit.Finds spec) : spec.bool? "cleanup_ts" = some false := by
  obtain ⟨before, later, -, same⟩ := looked
  obtain ⟨moments, reached⟩ := (start settings).node_after before
  obtain ⟨directory, -, found⟩ := finds
  have links : visit.links = ((Node.ofSettings settings).after moments).vodLinks := by
    rw [Visit.links, library, same, ← show _ = (Node.ofSettings settings).after moments from reached]
    rfl
  rw [links] at found
  obtain ⟨own, -, rfl⟩ := ((Node.linked_after settings moments).library directory spec).mp found
  simp [Spec.bool?, Spec.get?, Spec.withField, Json.lookup_insertMember, Json.asBool]

/-- In every history of requests for files, synchronisation, requests of sessions and events of
workers, what is done for requests for files is what they ask for. -/
theorem supplied_on_demand (settings : Settings) (history : List Act) :
    ((start settings).after history).Supplies settings history := by
  have traced := traced_after settings history
  obtain ⟨moments, reached⟩ := (start settings).node_after history
  have renewable := Node.after_renewable settings moments
  rw [← show _ = (Node.ofSettings settings).after moments from reached] at renewable
  have finds (serial : Nat) (visit : Visit)
      (there : (serial, visit) ∈ ((start settings).after history).origins) :=
    traced.origins (serial, visit) there
  exact {
    queued := fun visit spec member =>
      (traced.queue visit _ member).imp_right Visit.finds_of_asks
    started := fun visit spec rest queue around files => step_of_start queue around files
    renewed := fun tag id serial code signal rest queue visit there around files fresh launched =>
      origins_of_exit queue there around files launched
    spec := fun serial visit there =>
      ⟨(finds serial visit there).1, (finds serial visit there).2.fits⟩
    taken := fun id turns taken meant => traced.touched taken meant
    kept := by
      intro serial visit there library id handle found
      obtain ⟨looked, carries⟩ := finds serial visit there
      obtain ⟨registered, own⟩ := Worker.Registry.getSerial?_eq_some_iff.mp found
      have member := (Worker.Registry.mem_of_get? registered).1
      obtain ⟨identity, admitted⟩ := (renewable.kept handle member).admitted
      have clean : handle.config.cleanupTs = false := Stream.cleanupTs_of_build admitted.built
        (cleanup_of_finds looked library (carries.fits handle member own))
      exact ⟨clean, fun around files code signal directories =>
        Node.keeps_chunks found clean directories⟩ }

/-- A recorded stream that is to be removed with its worker, or so it says. -/
def recordedSpec : Spec :=
  ⟨[("cleanup_ts", .bool true), ("data_directory", .str "/d"), ("feedback_directory", .str "/f"),
    ("id", .str "v1"), ("input", .arr [.str "udp://239.0.0.1:1234"]),
    ("output", .arr [.obj [("http_root", .str "/v"), ("uri", .str "http://h/v1.m3u8")]]),
    ("type", .int 8)]⟩

/-- Somebody asks for the manifest of the recorded stream, which has to be made; so many asked
before. -/
def asksFor (before : Nat) : List Act :=
  [.visited .vod ⟨"/v/v1.m3u8"⟩, .decided 0 .empty, .sent before]

/-- Somebody connects. -/
def connected (name : String) (peer : Peer) : Act :=
  .happened ⟨default, .empty, .connected name peer⟩ fun _ => Event.noConfusion

/-- Somebody who is connected makes a request. -/
def heard (name : String) (number : Nat) (method : Method) (members : List (String × Json)) : Act :=
  .happened ⟨default, .empty, .heard name
    (.request (.make method.name (some (.obj members)) (.number number)))⟩ fun _ => Event.noConfusion

/-- A client is verified and synchronises the recorded stream; somebody asks for it, and its worker
is launched; then somebody asks once more. -/
def recordedHistory : List Act :=
  [connected "c" ⟨.ipv4 0x7F000001, 4000⟩,
    heard "c" 1 .activate [("license", .str "00000000000013888bdeae83a31fd33508df9c4b10dc0ed5")],
    heard "c" 2 .syncService [("streams", .arr [recordedSpec.toJson])]] ++
    asksFor 0 ++ [.applied default .empty] ++ asksFor 1

/-- The worker that was launched has the spec that is linked, by which the chunks are kept. The
second start, which is still queued, finds it and touches it. -/
theorem supplied_on_demand_recorded :
    let front := (start Node.relaySettings).after recordedHistory
    ∃ visit handle clock, (1, visit) ∈ front.origins ∧ visit.Finds handle.spec ∧
      front.node.supervisor.registry.getSerial? "v1" 1 = some handle ∧
      handle.config.cleanupTs = false ∧
      (front.step (.applied default .empty)).node = front.node.touched "v1" clock := by
  intro front
  have supplies : front.Supplies Node.relaySettings recordedHistory :=
    supplied_on_demand Node.relaySettings recordedHistory
  have live : (front.node.supervisor.registry.getSerial? "v1" 1).isSome = true := by decide +kernel
  have launched : front.origins.map (fun entry => (entry.fst, entry.snd.kind)) = [(1, .vod)] := by
    decide +kernel
  have waiting : front.queue.map (fun entry => entry.fst.bind fun visit =>
      (Site.linked visit.links visit.path).bind Spec.id?) = [some "v1"] := by decide +kernel
  -- from here on the front itself does not matter
  clear_value front
  obtain ⟨handle, found⟩ := Option.isSome_iff_exists.mp live
  obtain ⟨registered, own⟩ := Worker.Registry.getSerial?_eq_some_iff.mp found
  obtain ⟨member, named⟩ := Worker.Registry.mem_of_get? registered
  obtain ⟨⟨serial, visit⟩, there, same⟩ := List.mem_map.mp (launched ▸ List.mem_singleton_self _)
  obtain ⟨rfl, library⟩ := Prod.mk.inj same
  have taken : "v1" ∈ front.node.supervisor.registry.ids := List.mem_map.mpr ⟨handle, member, named⟩
  obtain ⟨clock, touched, -⟩ := supplies.taken "v1" [(default, .empty)] taken (by
    intro entry waits
    have meant : (entry.fst.bind fun visit =>
        (Site.linked visit.links visit.path).bind Spec.id?) ∈ [some "v1"] :=
      waiting ▸ List.mem_map.mpr ⟨entry, List.mem_of_mem_take waits, rfl⟩
    obtain ⟨other, tagged, linked⟩ := Option.bind_eq_some_iff.mp (List.mem_singleton.mp meant)
    obtain ⟨spec, linked, id⟩ := Option.bind_eq_some_iff.mp linked
    exact ⟨other, spec, tagged, Site.linked_eq_some_iff.mp linked, id⟩)
  exact ⟨visit, handle, clock, there, (supplies.spec 1 visit there).2 handle member own, found,
    (supplies.kept 1 visit there library "v1" handle found).1, touched⟩

end MediaNode.Front
