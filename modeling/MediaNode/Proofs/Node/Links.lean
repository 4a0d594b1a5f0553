import Mathlib.Data.List.Induction
import MediaNode.Proofs.LinkIndex
import MediaNode.Proofs.Node.Sessions

/-!
# Which streams directories are linked to

Synchronisation is a fold over everything that clients ever listed: call after call, and in
each call entry after entry. An entry offers the directories of its stream or nothing, and
what it offers overwrites what was offered before. So a directory is linked to the last
stream that serves it, whatever stands before, between and behind, and it is linked to
nothing only as long as no stream that serves it was listed.

Nothing else that happens to a node reaches its links. After a history they are those of the
calls that its guards let pass, in order.
-/
namespace MediaNode

open MediaNode.Stream (Spec Kind)

/-- That a stream of certain kinds serves a directory: it is valid, it has an identity, and
one of its outputs over HTTP has the directory as its root. -/
structure Stream.Spec.Serves (onDemand : Kind → Bool) (spec : Spec) (directory : Path) : Prop where
  valid : (Stream.validate spec).snd = .ok ()
  served : ∃ identity, Stream.Identity.derive spec = .ok identity ∧
    onDemand identity.kind = true ∧
    ∃ output ∈ identity.output, output.isHttp = true ∧
      ∃ root, output.httpRoot = some root ∧ (Path.mk root).components = directory.components

/-- That a stream is the last one of a list that serves a directory. -/
def LastServing (onDemand : Kind → Bool) (entries : List Json) (directory : Path)
    (spec : Spec) : Prop :=
  ∃ before later, entries = before ++ spec.toJson :: later ∧ spec.Serves onDemand directory ∧
    ∀ other : Spec, other.toJson ∈ later → ¬ other.Serves onDemand directory

namespace LastServing

variable {onDemand : Kind → Bool} {entries : List Json} {directory : Path} {spec : Spec}
  {value : Json}

/-- Only what is listed is the last of a list. -/
theorem mem (last : LastServing onDemand entries directory spec) :
    spec.toJson ∈ entries ∧ spec.Serves onDemand directory := by
  obtain ⟨before, later, rfl, serves, -⟩ := last
  exact ⟨List.mem_append_right before List.mem_cons_self, serves⟩

/-- The last one of a longer list stands at its end, or it was the last one before and
nothing that serves the directory was added. -/
theorem snoc_iff :
    LastServing onDemand (entries ++ [value]) directory spec ↔
      (value = spec.toJson ∧ spec.Serves onDemand directory) ∨
        (LastServing onDemand entries directory spec ∧
          ∀ other : Spec, value = other.toJson → ¬ other.Serves onDemand directory) := by
  constructor
  · rintro ⟨before, later, split, serves, others⟩
    rcases List.eq_nil_or_concat later with rfl | ⟨between, ending, rfl⟩
    · obtain ⟨-, same⟩ := List.append_inj' split rfl
      exact .inl ⟨List.singleton_inj.mp same, serves⟩
    · rw [List.concat_eq_append, ← List.cons_append, ← List.append_assoc] at split
      obtain ⟨rfl, same⟩ := List.append_inj' split rfl
      obtain rfl := List.singleton_inj.mp same
      rw [List.concat_eq_append] at others
      refine .inr ⟨⟨before, between, rfl, serves, fun other listed => ?_⟩, fun other here => ?_⟩
      · exact others other (List.mem_append_left _ listed)
      · exact others other (List.mem_append_right _ (List.mem_singleton.mpr here.symm))
  · rintro (⟨rfl, serves⟩ | ⟨⟨before, later, rfl, serves, others⟩, idle⟩)
    · exact ⟨entries, [], rfl, serves, by simp⟩
    · refine ⟨before, later ++ [value], by simp, serves, fun other listed => ?_⟩
      rcases List.mem_append.mp listed with between | here
      · exact others other between
      · exact idle other (List.mem_singleton.mp here).symm

/-- When something that serves the directory is listed, one such is the last. -/
theorem exists_of_mem (listed : spec.toJson ∈ entries) (serves : spec.Serves onDemand directory) :
    ∃ last, LastServing onDemand entries directory last := by
  induction entries using List.reverseRecOn with
  | nil => cases listed
  | append_singleton entries value inductionHypothesis =>
    by_cases here : ∃ own : Spec, value = own.toJson ∧ own.Serves onDemand directory
    · obtain ⟨own, same, serves⟩ := here
      exact ⟨own, snoc_iff.mpr (.inl ⟨same, serves⟩)⟩
    · rcases List.mem_append.mp listed with earlier | ending
      · obtain ⟨last, found⟩ := inductionHypothesis earlier
        exact ⟨last, snoc_iff.mpr (.inr ⟨found, fun own same serves => here ⟨own, same, serves⟩⟩)⟩
      · exact absurd ⟨spec, (List.mem_singleton.mp ending).symm, serves⟩ here

end LastServing

/-- The directories that a stream of certain kinds serves. -/
def Stream.Spec.roots (onDemand : Kind → Bool) (spec : Spec) : List Path :=
  match (Stream.validate spec).snd, Stream.Identity.derive spec with
  | .ok (), .ok identity => if onDemand identity.kind then identity.servedRoots else []
  | _, _ => []

/-- These are the directories that it serves. -/
theorem Stream.Spec.serves_iff {onDemand : Kind → Bool} {spec : Spec} {directory : Path} :
    spec.Serves onDemand directory ↔
      ∃ root ∈ spec.roots onDemand, root.components = directory.components := by
  constructor
  · rintro ⟨valid, identity, derived, kind, output, listed, http, root, given, same⟩
    refine ⟨⟨root⟩, ?_, same⟩
    have served : output.servedRoot = some ⟨root⟩ := by simp [Output.servedRoot, http, given]
    simp only [roots, valid, derived, kind, if_true]
    exact List.mem_filterMap.mpr ⟨output, listed, served⟩
  · rintro ⟨root, listed, same⟩
    unfold roots at listed
    split at listed
    next identity valid derived =>
      split at listed
      next kind =>
        obtain ⟨output, member, served⟩ := List.mem_filterMap.mp listed
        obtain ⟨http, given⟩ : output.isHttp = true ∧ output.httpRoot.map Path.mk = some root := by
          simpa [Output.servedRoot] using served
        obtain ⟨text, named, rfl⟩ := Option.map_eq_some_iff.mp given
        exact ⟨valid, identity, derived, kind, output, member, http, text, named, same⟩
      next => cases listed
    next => cases listed

/-- A stream is never of a library and a channel at once. -/
theorem Stream.Kind.isCod_of_isVod {kind : Kind} (recorded : kind.isVod = true) :
    kind.isCod = false := by
  cases kind <;> simp_all [isVod, isCod]

namespace Request

/-- The spec under which a stream is linked to the directories of a library: its chunks are
not removed when its worker ends. -/
def recorded (spec : Spec) : Spec := spec.withField "cleanup_ts" (.bool false)

/-- An entry that is a stream links the directories that it serves. -/
theorem linksOf_toJson (spec : Spec) :
    linksOf spec.toJson =
      ((spec.roots Kind.isVod).map (·, recorded spec), (spec.roots Kind.isCod).map (·, spec)) := by
  have object : Spec.ofJson? spec.toJson = some spec := rfl
  simp only [linksOf, object, Spec.roots]
  cases (Stream.validate spec).snd with
  | error cause => rfl
  | ok =>
    cases Stream.Identity.derive spec with
    | error cause => rfl
    | ok identity =>
      cases vod : identity.kind.isVod with
      | true => simp [vod, Kind.isCod_of_isVod vod, recorded]
      | false => cases cod : identity.kind.isCod <;> simp [vod, cod]

/-- An entry that is no stream links nothing. -/
theorem linksOf_of_not_object {value : Json} (other : ∀ spec : Spec, value ≠ spec.toJson) :
    linksOf value = ([], []) := by
  cases value with
  | obj members => exact absurd rfl (other ⟨members⟩)
  | _ => rfl

section entries

variable {onDemand : Kind → Bool} {linkedAs : Spec → Spec}
  {links : Json → List (Path × Spec)}
  (offered : ∀ spec : Spec, links spec.toJson = (spec.roots onDemand).map (·, linkedAs spec))
  (ignored : ∀ value, (∀ spec : Spec, value ≠ spec.toJson) → links value = [])
include offered ignored

/-- After the links of a list of entries, a directory leads to the last of them that serves
it, and where it led before if there is none. -/
theorem find_extend_iff (index : LinkIndex) (entries : List Json) (directory : Path)
    (found : Spec) :
    (index.extend (entries.flatMap links)).find directory = some found ↔
      (∃ spec, LastServing onDemand entries directory spec ∧ found = linkedAs spec) ∨
        ((∀ spec : Spec, spec.toJson ∈ entries → ¬ spec.Serves onDemand directory) ∧
          index.find directory = some found) := by
  induction entries using List.reverseRecOn generalizing found with
  | nil => simp [LinkIndex.extend, LastServing]
  | append_singleton entries value inductionHypothesis =>
    rw [List.flatMap_append, List.flatMap_singleton, LinkIndex.extend_append]
    simp only [LastServing.snoc_iff, List.mem_append, List.mem_singleton]
    by_cases serving : ∃ spec : Spec, value = spec.toJson ∧ spec.Serves onDemand directory
    · obtain ⟨spec, rfl, serves⟩ := serving
      rw [offered, LinkIndex.find_extend_map, if_pos (Spec.serves_iff.mp serves)]
      constructor
      · intro same
        exact .inl ⟨spec, .inl ⟨rfl, serves⟩, (Option.some.inj same).symm⟩
      · rintro (⟨other, ⟨same, -⟩ | ⟨-, idle⟩, rfl⟩ | ⟨idle, -⟩)
        · obtain rfl : spec = other := congrArg Spec.mk (Json.obj.inj same)
          rfl
        · exact absurd serves (idle spec rfl)
        · exact absurd serves (idle spec (.inr rfl))
    · have idle : ∀ spec : Spec, value = spec.toJson → ¬ spec.Serves onDemand directory :=
        fun spec here serves => serving ⟨spec, here, serves⟩
      have kept : ((index.extend (entries.flatMap links)).extend (links value)).find directory =
          (index.extend (entries.flatMap links)).find directory := by
        by_cases object : ∃ spec : Spec, value = spec.toJson
        · obtain ⟨spec, rfl⟩ := object
          rw [offered, LinkIndex.find_extend_map,
            if_neg fun root => idle spec rfl (Spec.serves_iff.mpr root)]
        · rw [ignored value fun spec here => object ⟨spec, here⟩]
          rfl
      rw [kept, inductionHypothesis]
      constructor
      · rintro (⟨spec, last, rfl⟩ | ⟨others, before⟩)
        · exact .inl ⟨spec, .inr ⟨last, idle⟩, rfl⟩
        · refine .inr ⟨fun spec listed => ?_, before⟩
          rcases listed with earlier | here
          · exact others spec earlier
          · exact idle spec here.symm
      · rintro (⟨spec, ⟨here, serves⟩ | ⟨last, -⟩, rfl⟩ | ⟨others, before⟩)
        · exact absurd serves (idle spec here)
        · exact .inl ⟨spec, last, rfl⟩
        · exact .inr ⟨fun spec listed => others spec (.inl listed), before⟩

end entries

/-- The entries that a call lists; none if its parameters cannot be read. -/
def entriesOf (given : Option Json) : List Json := ((params streams given).toOption).getD []

/-- A call fails only when its parameters cannot be read. Otherwise it makes the links of all
entries, in their order. -/
theorem syncService_eq (node : Node) (given : Option Json) :
    syncService node given = (params streams given).map fun values =>
      { node := { node with
          vodLinks := node.vodLinks.extend (values.flatMap fun value => (linksOf value).fst)
          codLinks := node.codLinks.extend (values.flatMap fun value => (linksOf value).snd) } } := by
  unfold syncService
  cases params streams given with
  | error fault => rfl
  | ok values => simp [bind, Except.bind, Except.map, pure, Except.pure, List.flatMap_map]

end Request

namespace Node

variable {node : Node}

/-- The node after a call of synchronisation. -/
def synchronise (node : Node) (given : Option Json) : Node :=
  match Request.syncService node given with
  | .ok handled => handled.node
  | .error _ => node

/-- A call adds the links of its entries and changes nothing else. -/
theorem synchronise_eq (node : Node) (given : Option Json) :
    node.synchronise given = { node with
      vodLinks := node.vodLinks.extend
        ((Request.entriesOf given).flatMap fun value => (Request.linksOf value).fst)
      codLinks := node.codLinks.extend
        ((Request.entriesOf given).flatMap fun value => (Request.linksOf value).snd) } := by
  unfold synchronise Request.entriesOf
  rw [Request.syncService_eq]
  cases Request.params Request.streams given <;> rfl

/-- Calls add the links of all their entries, call by call. -/
theorem foldl_synchronise (node : Node) (calls : List (Option Json)) :
    calls.foldl synchronise node = { node with
      vodLinks := node.vodLinks.extend
        ((calls.flatMap Request.entriesOf).flatMap fun value => (Request.linksOf value).fst)
      codLinks := node.codLinks.extend
        ((calls.flatMap Request.entriesOf).flatMap fun value => (Request.linksOf value).snd) } := by
  induction calls generalizing node with
  | nil => rfl
  | cons given rest inductionHypothesis =>
    rw [List.foldl_cons, inductionHypothesis, synchronise_eq]
    simp only [List.flatMap_cons, List.flatMap_append, LinkIndex.extend_append]

/-- That the links of a node are those that a list of entries offers: each directory leads to
the last stream that serves it, and to nothing when there is none. In a library the chunks of
that stream are kept. -/
structure Linked (entries : List Json) (node : Node) : Prop where
  library : ∀ directory spec, node.vodLinks.find directory = some spec ↔
    ∃ own : Spec, LastServing Kind.isVod entries directory own ∧
      spec = own.withField "cleanup_ts" (.bool false)
  channels : ∀ directory spec, node.codLinks.find directory = some spec ↔
    LastServing Kind.isCod entries directory spec
  unlinkedLibrary : ∀ directory, node.vodLinks.find directory = none ↔
    ∀ own : Spec, own.toJson ∈ entries → ¬ own.Serves Kind.isVod directory
  unlinkedChannels : ∀ directory, node.codLinks.find directory = none ↔
    ∀ own : Spec, own.toJson ∈ entries → ¬ own.Serves Kind.isCod directory

/-- Nothing is found when nothing that serves a directory was listed. -/
theorem find_eq_none_iff {index : LinkIndex} {onDemand : Kind → Bool} {linkedAs : Spec → Spec}
    {entries : List Json} {directory : Path}
    (found_iff : ∀ spec, index.find directory = some spec ↔
      ∃ own, LastServing onDemand entries directory own ∧ spec = linkedAs own) :
    index.find directory = none ↔
      ∀ own : Spec, own.toJson ∈ entries → ¬ own.Serves onDemand directory := by
  constructor
  · intro nothing own listed serves
    obtain ⟨last, isLast⟩ := LastServing.exists_of_mem listed serves
    have found := (found_iff (linkedAs last)).mpr ⟨last, isLast, rfl⟩
    rw [nothing] at found
    cases found
  · intro idle
    rw [Option.eq_none_iff_forall_ne_some]
    intro spec found
    obtain ⟨own, isLast, -⟩ := (found_iff spec).mp found
    exact idle own isLast.mem.1 isLast.mem.2

/-- The links of a list of entries, made when there were none, are those that it offers. -/
theorem linked_of_links {entries : List Json}
    (library : node.vodLinks =
      LinkIndex.extend {} (entries.flatMap fun value => (Request.linksOf value).fst))
    (channels : node.codLinks =
      LinkIndex.extend {} (entries.flatMap fun value => (Request.linksOf value).snd)) :
    Linked entries node := by
  have recorded : ∀ directory spec, node.vodLinks.find directory = some spec ↔
      ∃ own, LastServing Kind.isVod entries directory own ∧ spec = Request.recorded own := by
    intro directory spec
    rw [library, @Request.find_extend_iff _ Request.recorded _
      (fun own => by rw [Request.linksOf_toJson])
      (fun value other => by rw [Request.linksOf_of_not_object other])]
    simp
  have shown : ∀ directory spec, node.codLinks.find directory = some spec ↔
      ∃ own, LastServing Kind.isCod entries directory own ∧ spec = id own := by
    intro directory spec
    rw [channels, @Request.find_extend_iff _ id _
      (fun own => by rw [Request.linksOf_toJson]; rfl)
      (fun value other => by rw [Request.linksOf_of_not_object other])]
    simp
  exact {
    library := recorded
    channels := fun directory spec => by simp [shown]
    unlinkedLibrary := fun directory => find_eq_none_iff (recorded directory)
    unlinkedChannels := fun directory => find_eq_none_iff (shown directory) }

/-- The parameters of the calls of synchronisation that are let pass at a moment. -/
def syncs (node : Node) (moment : Moment) : List (Option Json) :=
  match moment.event with
  | .heard name (.request request) =>
    if request.id.isSome ∧ request.method = Method.syncService.name ∧
        (node.session? name).any Session.verified = true then [request.params]
    else []
  | _ => []

/-- The parameters of all calls of synchronisation that are let pass in a history. -/
def syncsOf (node : Node) : List Moment → List (Option Json)
  | [] => []
  | moment :: later => node.syncs moment ++ (node.step moment).node.syncsOf later

/-- What handling a call of synchronisation leaves. -/
theorem handle_syncService (around : Surroundings) (files : FileTree) {name : String}
    {request : Rpc.Request} (asked : request.method = Method.syncService.name)
    (verified : (node.session? name).any Session.verified = true) :
    (node.handle around files name request).fst =
      { node := node.synchronise request.params, files } := by
  have named : Method.ofName? request.method = some .syncService := by rw [asked]; rfl
  simp only [handle, Request.dispatch, named, Method.guard, Guard.check, verified, if_true,
    Request.perform, synchronise, Request.syncService_eq]
  cases Request.params Request.streams request.params <;> rfl

/-- A request that is no such call, or one that is not let pass, leaves the links alone. -/
theorem links_receive (around : Surroundings) (files : FileTree) {name : String}
    {request : Rpc.Request} (other : node.syncs ⟨around, files, .heard name (.request request)⟩ = []) :
    (node.receive around files name (.request request)).node.vodLinks = node.vodLinks ∧
      (node.receive around files name (.request request)).node.codLinks = node.codLinks := by
  cases identified : request.id.isNone with
  | true => simp only [receive, identified, if_true, and_self]
  | false =>
    rw [(node.receive_request around files name identified).1]
    have answered := node.handle_answered around files name request
    generalize (node.handle around files name request).fst = turn,
      (node.handle around files name request).snd = response at answered
    cases answered with
    | unknown unnamed => exact ⟨rfl, rfl⟩
    | refused named stopped => exact ⟨rfl, rfl⟩
    | failed named passed failed => exact ⟨rfl, rfl⟩
    | done named passed performed =>
      cases performed with
      | activated read licensed expires good found left silent =>
        simp only [left]
        exact ⟨rfl, rfl⟩
      | closing read begun =>
        simp only
        rw [beginShutdown_frame begun]
        exact ⟨rfl, rfl⟩
      | linked vodLinks codLinks =>
        have asked := (Method.name_of_ofName? named).symm
        have verified : (node.session? name).any Session.verified = true := by
          simpa [Method.guard, Guard.check] using passed
        have called : request.id.isSome = true := by
          simpa [Option.isSome_iff_ne_none] using identified
        simp [syncs, called, asked, verified] at other
      | told result => exact ⟨rfl, rfl⟩
      | deferred job idle => exact ⟨rfl, rfl⟩
      | supervised called outbox => exact ⟨rfl, rfl⟩

/-- At every moment the calls of synchronisation that are let pass make the links of their
entries, and nothing else makes any. -/
theorem links_step (node : Node) (moment : Moment) :
    (node.step moment).node.vodLinks = ((node.syncs moment).foldl synchronise node).vodLinks ∧
      (node.step moment).node.codLinks =
        ((node.syncs moment).foldl synchronise node).codLinks := by
  obtain ⟨around, files, event⟩ := moment
  cases event with
  | connected name peer => exact ⟨rfl, rfl⟩
  | dropped name => exact ⟨rfl, rfl⟩
  | hungUp channel => exact ⟨rfl, rfl⟩
  | heard name message =>
    cases message with
    | notification notification => exact ⟨rfl, rfl⟩
    | response response =>
      simp only [step, receive, answered, syncs]
      split <;> exact ⟨rfl, rfl⟩
    | request request =>
      by_cases called : node.syncs ⟨around, files, .heard name (.request request)⟩ = []
      · rw [called]
        exact links_receive around files called
      · obtain ⟨identified, asked, verified⟩ : request.id.isSome = true ∧
            request.method = Method.syncService.name ∧
            (node.session? name).any Session.verified = true := by
          by_contra missing
          exact called (by simp only [syncs, if_neg missing])
        have unnamed : request.id.isNone = false := by
          simpa [Option.isSome_iff_ne_none] using identified
        have handled : (node.receive around files name (.request request)).node =
            (node.handle around files name request).fst.node := by
          simp only [receive, unnamed, Bool.false_eq_true, if_false]
          split <;> rfl
        simp only [step, syncs, identified, asked, verified, and_self, if_true, List.foldl_cons,
          List.foldl_nil, handled, handle_syncService around files asked verified]
  | commanded command =>
    simp only [step, syncs, List.foldl_nil]
    rw [apply_frame]
    exact ⟨rfl, rfl⟩
  | due chore =>
    simp only [step, syncs, List.foldl_nil]
    rw [doChore_frame]
    exact ⟨rfl, rfl⟩

/-- So the links of a history are those of its calls. -/
theorem links_after (node : Node) (history : List Moment) :
    (node.after history).vodLinks = ((node.syncsOf history).foldl synchronise node).vodLinks ∧
      (node.after history).codLinks = ((node.syncsOf history).foldl synchronise node).codLinks := by
  induction history generalizing node with
  | nil => exact ⟨rfl, rfl⟩
  | cons moment later inductionHypothesis =>
    obtain ⟨library, channels⟩ := node.links_step moment
    obtain ⟨laterLibrary, laterChannels⟩ := inductionHypothesis (node.step moment).node
    rw [foldl_synchronise] at library channels laterLibrary laterChannels
    rw [after_cons, syncsOf, List.foldl_append, laterLibrary, laterChannels, foldl_synchronise,
      foldl_synchronise, library, channels]
    exact ⟨rfl, rfl⟩

/-- That a call left nothing but links: no file and nobody else knows of it, nothing came of
it if its parameters cannot be read, and no directory lost its link. -/
structure OnlyLinks (node : Node) (files : FileTree) (given : Option Json) (turn : Turn) :
    Prop where
  called : turn.node = node.synchronise given
  frame : turn.node =
    { node with vodLinks := turn.node.vodLinks, codLinks := turn.node.codLinks }
  files : turn.files = files
  silent : turn.effects = []
  unread : ∀ fault, Request.params Request.streams given = .error fault → turn.node = node
  lasting : ∀ directory,
    ((node.vodLinks.find directory).isSome = true →
      (turn.node.vodLinks.find directory).isSome = true) ∧
    ((node.codLinks.find directory).isSome = true →
      (turn.node.codLinks.find directory).isSome = true)

/-- Every call that is let pass leaves nothing but links. -/
theorem onlyLinks_handle (around : Surroundings) (files : FileTree) {name : String}
    {request : Rpc.Request} (asked : request.method = Method.syncService.name)
    (verified : (node.session? name).any Session.verified = true) :
    node.OnlyLinks files request.params (node.handle around files name request).fst := by
  rw [handle_syncService around files asked verified]
  refine ⟨rfl, ?_, rfl, rfl, fun fault unread => ?_, fun directory => ⟨?_, ?_⟩⟩
  · simp only [synchronise_eq]
  · simp only [synchronise, Request.syncService_eq, unread, Except.map]
  · intro linked
    rw [synchronise_eq]
    exact LinkIndex.isSome_find_extend linked _
  · intro linked
    rw [synchronise_eq]
    exact LinkIndex.isSome_find_extend linked _

/-- The links of a node are those that the entries of all its calls offer. -/
theorem linked_after (settings : Settings) (history : List Moment) :
    Linked (((ofSettings settings).syncsOf history).flatMap Request.entriesOf)
      ((ofSettings settings).after history) := by
  obtain ⟨library, channels⟩ := links_after (ofSettings settings) history
  rw [foldl_synchronise] at library channels
  exact linked_of_links library channels

/-- After any calls of synchronisation, every directory is linked to the last stream among all
their entries that serves it. The same holds after every history of a node, for the calls that
its guards let pass. And such a call leaves nothing but links. -/
theorem linked_to_last (settings : Settings) :
    (∀ calls : List (Option Json),
      Linked (calls.flatMap Request.entriesOf) (calls.foldl synchronise (ofSettings settings))) ∧
    (∀ history : List Moment,
      Linked (((ofSettings settings).syncsOf history).flatMap Request.entriesOf)
        ((ofSettings settings).after history)) ∧
    ∀ (node : Node) (around : Surroundings) (files : FileTree) (name : String)
      (request : Rpc.Request), request.method = Method.syncService.name →
      (node.session? name).any Session.verified = true →
      node.OnlyLinks files request.params (node.handle around files name request).fst := by
  refine ⟨fun calls => ?_, fun history => ?_, ?_⟩
  · rw [foldl_synchronise]
    exact linked_of_links rfl rfl
  · exact linked_after settings history
  · intro node around files name request asked verified
    exact onlyLinks_handle around files asked verified

/-- A channel that is listed between unusable entries is what its directory leads to, however
the directory is written, and parameters that cannot be read leave the node alone. -/
theorem linked_to_last_channel :
    let channel : Spec := ⟨[("data_directory", .str "/data"), ("feedback_directory", .str "/fb"),
      ("id", .str "c1"), ("input", .arr []),
      ("output", .arr [.obj [("http_root", .str "/cods/c1"), ("uri", .str "http://h/c1.m3u8")]]),
      ("type", .int 10)]⟩
    let entries : List Json := [.null, channel.toJson, .obj []]
    let node : Node := ((ofSettings {}).connect "c" ⟨.ipv4 0x7F000001, 4000⟩).setSession "c"
      { peer := ⟨.ipv4 0x7F000001, 4000⟩, verified := true }
    (∃ spec, spec.id? = some "c1" ∧ LastServing Kind.isCod entries ⟨"/cods//c1/."⟩ spec) ∧
      (node.handle default .empty "c"
        (.make Method.syncService.name (some (.str "none")) (.number 1))).fst.node = node := by
  intro channel entries node
  constructor
  · have found : ((([some (Json.obj [("streams", .arr entries)])].foldl synchronise
        (ofSettings {})).codLinks.find ⟨"/cods//c1/."⟩).map Spec.id?) = some (some "c1") := by
      decide +kernel
    obtain ⟨spec, leads, named⟩ := Option.map_eq_some_iff.mp found
    have linked := (linked_to_last {}).1 [some (.obj [("streams", .arr entries)])]
    exact ⟨spec, named, (linked.channels _ _).mp leads⟩
  · have left := (linked_to_last {}).2.2 node default .empty "c"
      (.make Method.syncService.name (some (.str "none")) (.number 1)) rfl rfl
    exact left.unread _ rfl

end Node
end MediaNode
