import MediaNode.Proofs.Json.Members
import MediaNode.Proofs.Node.Links
import MediaNode.Proofs.Path
import MediaNode.Proofs.Site.Manifest
import MediaNode.Proofs.Stream.Identity
import MediaNode.Site.Trigger

/-!
# What a request for a file starts

Whether a request is refused, served or has to wait depends on its site, on the extension of
its path, on the link of the directory that the path lies in, and in the library on whether the
manifest is complete. The rule is written down here case by case, in terms of the components of
the path and the lines of the manifest, and the decision is shown to follow it and no other.

A stream that is linked has an id, since only streams that have an identity are linked; so the
cases without an id never come up in a node.
-/
namespace MediaNode

/-- A directory is looked up by its components. -/
theorem LinkIndex.find_congr (index : LinkIndex) {one other : Path}
    (same : one.components = other.components) : index.find one = index.find other := by
  simp only [find, Path.same, same]

namespace Site

open MediaNode.Stream (Spec)

/-- That the directory which a path lies in is linked to a spec. -/
def LinkedTo (links : LinkIndex) (path : Path) (spec : Spec) : Prop :=
  ∃ directory, path.LiesIn directory ∧ links.find directory = some spec

/-- That the directory which a path lies in is not linked. -/
def Unlinked (links : LinkIndex) (path : Path) : Prop := ∀ spec, ¬ LinkedTo links path spec

/-- What is queued so that the stream of a spec is kept running: one note under its id, which a
spec without an id cannot be given. -/
inductive Keeps (spec : Spec) : List Command → Prop
  | named {id : String} (named : spec.id? = some id) : Keeps spec [.touchStream id]
  | nameless (nameless : spec.id? = none) : Keeps spec []

/-- The rule by which requests are decided. -/
inductive Decides (vod cod : LinkIndex) (files : FileTree) :
    SiteKind → Path → Outcome → List Command → Prop
  /-- A manifest of nothing that the library knows. -/
  | unknownRecording {path : Path} (manifest : path.EndsWith "m3u8") (unlinked : Unlinked vod path) :
      Decides vod cod files .vod path .forbidden []
  /-- A manifest that is there with all its chunks. -/
  | recorded {path directory : Path} {spec : Spec} {content : String}
      (manifest : path.EndsWith "m3u8") (linked : LinkedTo vod path spec)
      (complete : Complete files path directory content) :
      Decides vod cod files .vod path .serve []
  /-- A manifest that has to be made. -/
  | unrecorded {path : Path} {spec : Spec} (manifest : path.EndsWith "m3u8")
      (linked : LinkedTo vod path spec)
      (incomplete : ∀ directory content, ¬ Complete files path directory content) :
      Decides vod cod files .vod path .accepted [.startStream spec]
  /-- A manifest or a chunk of no channel. -/
  | unknownChannel {path : Path} (file : path.EndsWith "m3u8" ∨ path.EndsWith "ts")
      (unlinked : Unlinked cod path) : Decides vod cod files .cod path .forbidden []
  /-- The manifest of a channel. -/
  | channel {path : Path} {spec : Spec} {note : List Command} (manifest : path.EndsWith "m3u8")
      (linked : LinkedTo cod path spec) (keeps : Keeps spec note) :
      Decides vod cod files .cod path .accepted (.startStream spec :: note)
  /-- A chunk of a channel. -/
  | chunk {path : Path} {spec : Spec} {note : List Command} (chunk : path.EndsWith "ts")
      (linked : LinkedTo cod path spec) (keeps : Keeps spec note) :
      Decides vod cod files .cod path .serve note
  /-- Every live stream, and every file that is neither. -/
  | other {kind : SiteKind} {path : Path} (library : kind = .vod → ¬ path.EndsWith "m3u8")
      (channels : kind = .cod → ¬ path.EndsWith "m3u8" ∧ ¬ path.EndsWith "ts") :
      Decides vod cod files kind path .serve []

section lookup

variable {links : LinkIndex} {path : Path}

/-- The link of a request is looked up by the parent of its path. -/
theorem linked_eq_some_iff {spec : Spec} : linked links path = some spec ↔ LinkedTo links path spec := by
  unfold linked
  constructor
  · intro found
    obtain ⟨directory, up, found⟩ := Option.bind_eq_some_iff.mp found
    exact ⟨directory, Path.liesIn_parent up, found⟩
  · rintro ⟨directory, inside, found⟩
    obtain ⟨up, parent, same⟩ := Path.exists_parent inside
    rw [parent, Option.bind_some, links.find_congr same, found]

/-- Nothing is found exactly when nothing is linked. -/
theorem linked_eq_none_iff : linked links path = none ↔ Unlinked links path := by
  simp only [Option.eq_none_iff_forall_ne_some, ne_eq, linked_eq_some_iff, Unlinked]

end lookup

/-- What is queued to keep a stream running is determined by its spec. -/
theorem keeps_iff {spec : Spec} {note : List Command} : Keeps spec note ↔ note = touchOf spec := by
  unfold touchOf
  constructor
  · rintro (named | nameless)
    · rw [named]; rfl
    · rw [nameless]; rfl
  · rintro rfl
    cases named : spec.id? with
    | none => exact .nameless named
    | some id => exact .named named

/-- Manifests are told by their extension. -/
theorem isManifest_iff {path : Path} : isManifest path = true ↔ path.EndsWith "m3u8" :=
  Path.hasExtension_iff

/-- Chunks are told by their extension. -/
theorem isChunk_iff {path : Path} : isChunk path = true ↔ path.EndsWith "ts" :=
  Path.hasExtension_iff

/-- No file is both. -/
theorem not_chunk_of_manifest {path : Path} (manifest : path.EndsWith "m3u8") :
    ¬ path.EndsWith "ts" := fun chunk => by
  have same := manifest.same chunk
  revert same
  decide

/-- A decision that the rule allows is the one that is taken. -/
theorem trigger_eq_of_decides {vod cod : LinkIndex} {files : FileTree} {kind : SiteKind}
    {path : Path} {outcome : Outcome} {commands : List Command}
    (decides : Decides vod cod files kind path outcome commands) :
    trigger vod cod files kind path = (outcome, commands) := by
  cases decides with
  | unknownRecording manifest unlinked =>
    simp only [trigger, isManifest_iff.mpr manifest, linked_eq_none_iff.mpr unlinked, if_true]
  | recorded manifest linked complete =>
    have there : isMaterialized files path = true := isMaterialized_iff.mpr ⟨_, _, complete⟩
    simp only [trigger, isManifest_iff.mpr manifest, linked_eq_some_iff.mpr linked, there, if_true]
  | unrecorded manifest linked incomplete =>
    have missing : ¬ isMaterialized files path = true := fun there =>
      let ⟨directory, content, complete⟩ := isMaterialized_iff.mp there
      incomplete directory content complete
    simp only [trigger, isManifest_iff.mpr manifest, linked_eq_some_iff.mpr linked, if_neg missing,
      if_true]
  | unknownChannel file unlinked =>
    rcases file with manifest | chunk
    · simp only [trigger, isManifest_iff.mpr manifest, linked_eq_none_iff.mpr unlinked, if_true]
    · simp only [trigger, isChunk_iff.mpr chunk, linked_eq_none_iff.mpr unlinked, if_true, ite_self]
  | channel manifest linked keeps =>
    simp only [trigger, isManifest_iff.mpr manifest, linked_eq_some_iff.mpr linked, if_true,
      keeps_iff.mp keeps]
  | chunk chunk linked keeps =>
    have other : ¬ isManifest path = true := fun manifest =>
      not_chunk_of_manifest (isManifest_iff.mp manifest) chunk
    simp only [trigger, if_neg other, isChunk_iff.mpr chunk, linked_eq_some_iff.mpr linked, if_true,
      keeps_iff.mp keeps]
  | other library channels =>
    cases kind with
    | hls => rfl
    | vod =>
      have file : ¬ isManifest path = true := fun manifest =>
        library rfl (isManifest_iff.mp manifest)
      simp only [trigger, if_neg file]
    | cod =>
      obtain ⟨notManifest, notChunk⟩ := channels rfl
      rw [← isManifest_iff] at notManifest
      rw [← isChunk_iff] at notChunk
      simp only [trigger, if_neg notManifest, if_neg notChunk]

/-- The rule allows a decision in every case. -/
theorem exists_decides (vod cod : LinkIndex) (files : FileTree) (kind : SiteKind) (path : Path) :
    ∃ outcome commands, Decides vod cod files kind path outcome commands := by
  have found_or (links : LinkIndex) : Unlinked links path ∨ ∃ spec, LinkedTo links path spec := by
    by_cases linked : ∃ spec, LinkedTo links path spec
    · exact .inr linked
    · exact .inl (not_exists.mp linked)
  have note (spec : Spec) : Keeps spec (touchOf spec) := keeps_iff.mpr rfl
  cases kind with
  | hls => exact ⟨_, _, .other SiteKind.noConfusion SiteKind.noConfusion⟩
  | vod =>
    by_cases manifest : path.EndsWith "m3u8"
    · rcases found_or vod with unlinked | ⟨spec, linked⟩
      · exact ⟨_, _, .unknownRecording manifest unlinked⟩
      · by_cases complete : ∃ directory content, Complete files path directory content
        · obtain ⟨directory, content, complete⟩ := complete
          exact ⟨_, _, .recorded manifest linked complete⟩
        · exact ⟨_, _, .unrecorded manifest linked fun directory content there =>
            complete ⟨directory, content, there⟩⟩
    · exact ⟨_, _, .other (fun _ => manifest) SiteKind.noConfusion⟩
  | cod =>
    by_cases manifest : path.EndsWith "m3u8"
    · rcases found_or cod with unlinked | ⟨spec, linked⟩
      · exact ⟨_, _, .unknownChannel (.inl manifest) unlinked⟩
      · exact ⟨_, _, .channel manifest linked (note spec)⟩
    · by_cases chunk : path.EndsWith "ts"
      · rcases found_or cod with unlinked | ⟨spec, linked⟩
        · exact ⟨_, _, .unknownChannel (.inr chunk) unlinked⟩
        · exact ⟨_, _, .chunk chunk linked (note spec)⟩
      · exact ⟨_, _, .other SiteKind.noConfusion fun _ => ⟨manifest, chunk⟩⟩

end Site

namespace Node

open MediaNode.Stream (Spec Kind)

/-- Recording a stream under its link leaves its id. -/
theorem id?_recorded (spec : Spec) : (Request.recorded spec).id? = spec.id? := by
  have other : "cleanup_ts" ≠ "id" := by decide
  simp only [Request.recorded, Spec.id?, Spec.str?, Spec.get?, Spec.withField,
    Json.lookup_insertMember, other, if_false]

/-- A stream that serves a directory has an id. -/
theorem exists_id_of_serves {onDemand : Kind → Bool} {spec : Spec} {directory : Path}
    (serves : spec.Serves onDemand directory) : ∃ id, spec.id? = some id := by
  obtain ⟨identity, derived, -⟩ := serves.served
  exact ⟨identity.id, Stream.Identity.id?_of_derive derived⟩

/-- Every link of a node leads to a stream with an id. -/
theorem exists_id_of_linked {entries : List Json} {node : Node} (linked : Linked entries node)
    {directory : Path} {spec : Spec}
    (found : node.vodLinks.find directory = some spec ∨ node.codLinks.find directory = some spec) :
    ∃ id, spec.id? = some id := by
  rcases found with found | found
  · obtain ⟨own, last, rfl⟩ := (linked.library directory spec).mp found
    obtain ⟨id, named⟩ := exists_id_of_serves last.mem.2
    exact ⟨id, (id?_recorded own).trans named⟩
  · exact exists_id_of_serves ((linked.channels directory spec).mp found).mem.2

/-- Requests are decided and commands queued by the rule, whatever is linked, whatever the file
system holds and whatever is asked for; and every stream that a node has linked has an id to be
kept running under. -/
theorem trigger_follows_rule :
    (∀ (vod cod : LinkIndex) (files : FileTree) (kind : SiteKind) (path : Path)
      (outcome : Site.Outcome) (commands : List Command),
      Site.trigger vod cod files kind path = (outcome, commands) ↔
        Site.Decides vod cod files kind path outcome commands) ∧
    ∀ (settings : Settings) (history : List Moment) (directory : Path) (spec : Spec),
      (((ofSettings settings).after history).vodLinks.find directory = some spec ∨
        ((ofSettings settings).after history).codLinks.find directory = some spec) →
      ∃ id, spec.id? = some id := by
  refine ⟨fun vod cod files kind path outcome commands => ⟨fun decided => ?_,
    Site.trigger_eq_of_decides⟩, fun settings history directory spec found => ?_⟩
  · obtain ⟨allowed, queued, decides⟩ := Site.exists_decides vod cod files kind path
    obtain ⟨rfl, rfl⟩ := Prod.mk.inj ((Site.trigger_eq_of_decides decides).symm.trans decided)
    exact decides
  · exact exists_id_of_linked (linked_after settings history) found

/-- After a channel was linked, the request for its manifest, in whichever way it is written,
starts the channel and keeps it running. -/
theorem trigger_follows_rule_channel :
    let channel : Spec := ⟨[("data_directory", .str "/data"), ("feedback_directory", .str "/fb"),
      ("id", .str "c1"), ("input", .arr []),
      ("output", .arr [.obj [("http_root", .str "/cods/c1"), ("uri", .str "http://h/c1.m3u8")]]),
      ("type", .int 10)]⟩
    let sync : Moment := ⟨default, .empty, .heard "c" (.request (.make Method.syncService.name
      (some (.obj [("streams", .arr [channel.toJson])])) (.number 2)))⟩
    let node := (ofSettings relaySettings).after (relayHistory.take 2 ++ [sync])
    ∃ spec id, node.codLinks.find ⟨"/cods/c1"⟩ = some spec ∧ spec.id? = some id ∧
      Site.trigger node.vodLinks node.codLinks .empty .cod ⟨"/cods//c1/./live.M3u8/"⟩ =
        (.accepted, [.startStream spec, .touchStream id]) := by
  intro channel sync node
  have linked : (node.codLinks.find ⟨"/cods/c1"⟩).isSome = true := by decide +kernel
  obtain ⟨spec, found⟩ := Option.isSome_iff_exists.mp linked
  obtain ⟨id, named⟩ := trigger_follows_rule.2 relaySettings (relayHistory.take 2 ++ [sync])
    ⟨"/cods/c1"⟩ spec (.inr found)
  have manifest : Path.EndsWith ⟨"/cods//c1/./live.M3u8/"⟩ "m3u8" :=
    Path.hasExtension_iff.mp (by decide +kernel)
  have inside : Path.LiesIn ⟨"/cods//c1/./live.M3u8/"⟩ ⟨"/cods/c1"⟩ :=
    ⟨.normal "live.M3u8", Component.noConfusion, by decide +kernel⟩
  exact ⟨spec, id, found, named, (trigger_follows_rule.1 _ _ _ _ _ _ _).mpr
    (.channel manifest ⟨_, inside, found⟩ (.named named))⟩

end Node
end MediaNode
