import MediaNode.Proofs.FileTree.Making
import MediaNode.Proofs.Stream.Identity

/-!
# Which directories a preparation makes

A preparation asks for directories (`Asks`): the feedback and the data directory of the stream, and
if folders are checked those of its far end. It adds to the files the directories that are asked for
and the parents of these, whether it succeeds or not, and leaves everything else as it is. Once it
has succeeded, what was asked for is there (`Ready`).

An output that is served over HTTP may name the empty path as its root. Nothing is made for that,
and the preparation succeeds without the root.
-/
namespace MediaNode.Stream

variable {tree middle after : FileTree} {path : Path} {spec : Spec} {identity : Identity}

/-- Bytes that start with a slash are the text of an absolute path, whether or not more are put
behind them. -/
theorem isAbsolute_ofBytesLossy (rest more : List UInt8) (longer : Bool) :
    Path.isAbsolute ⟨Text.ofBytesLossy (if longer then 0x2F :: rest ++ more else 0x2F :: rest)⟩ =
      true := by
  cases longer <;> simp [Path.isAbsolute, Text.ofBytesLossy, Text.ofBytesLossy.go]

/-- The file that a URL names is absolute, or nothing. -/
theorem isAbsolute_of_filePath {url : Url} {file : Path} (named : url.filePath = some file) :
    file.text = "" ∨ file.isAbsolute = true := by
  unfold Url.filePath at named
  split at named
  · cases segments : url.segments with
    | nil =>
      rw [segments, List.flatMap_nil] at named
      rw [← Option.some.inj named]
      exact .inl rfl
    | cons first later =>
      rw [segments, List.flatMap_cons, List.cons_append] at named
      rw [← Option.some.inj named]
      exact .inr (isAbsolute_ofBytesLossy _ _ _)
  · cases named

/-- So the directory that it is in is named by something. -/
theorem parent_of_filePath {output : Output} {file directory : Path}
    (named : output.filePath = some file) (up : file.parent = some directory) :
    directory.text ≠ "" := by
  obtain ⟨url, -, named⟩ := Option.bind_eq_some_iff.mp named
  obtain ⟨last, other, split⟩ := Path.liesIn_parent up
  intro empty
  have silent : directory.components = [] := by
    obtain ⟨text⟩ := directory
    cases empty
    rfl
  rw [silent, List.nil_append] at split
  rcases isAbsolute_of_filePath named with nothing | absolute
  · obtain ⟨text⟩ := file
    cases nothing
    cases split
  · rw [Path.isAbsolute_iff, split, List.mem_singleton] at absolute
    exact other absolute.symm

/-- What is served over HTTP is no file. -/
theorem filePath_of_isHttp {output : Output} (http : output.isHttp = true) :
    output.filePath = none := by
  unfold Output.isHttp at http
  unfold Output.filePath
  cases parsed : output.url with
  | none => rfl
  | some url =>
    simp only [parsed] at http
    have scheme : url.scheme ≠ "file" := by
      intro file
      simp [Url.isHttp, file] at http
    rw [Option.bind_some, Url.filePath, if_neg (fun file => scheme file.1)]

/-- That a stream records: its far end is a directory that the spec names. -/
def Records (identity : Identity) : Prop :=
  identity.kind = .timeshiftRecorder ∨ identity.kind = .catchup

/-- The directories that the preparation of a spec asks for. Those of the far end are asked for only
if folders are checked. -/
inductive Asks (spec : Spec) (identity : Identity) : Bool → Path → Prop where
  | feedback {checkFolders : Bool} : Asks spec identity checkFolders identity.feedbackDirectory
  | data {checkFolders : Bool} : Asks spec identity checkFolders identity.dataDirectory
  | recording {text : String} (records : Records identity)
      (named : spec.str? "timeshift_dir" = some text) : Asks spec identity true ⟨text⟩
  | served {output : Output} {root : String} (other : ¬ Records identity)
      (listed : output ∈ identity.output) (http : output.isHttp = true)
      (named : output.httpRoot = some root) : Asks spec identity true ⟨root⟩
  | written {output : Output} {file directory : Path} (other : ¬ Records identity)
      (listed : output ∈ identity.output) (named : output.filePath = some file)
      (up : file.parent = some directory) : Asks spec identity true directory

/-- That a path is one of some paths or a parent of one. -/
def AtOrAbove (asked : Path → Prop) (up : Path) : Prop :=
  ∃ path, asked path ∧ up.components <+: path.components

/-- That the directories of a prepared stream are there. Nothing can be there for a root that is
named by the empty path. -/
structure Ready (spec : Spec) (identity : Identity) (checkFolders : Bool) (tree : FileTree) :
    Prop where
  feedback : tree.isDirectory identity.feedbackDirectory = true
  data : tree.isDirectory identity.dataDirectory = true
  recording : checkFolders = true → Records identity →
    ∃ text, spec.str? "timeshift_dir" = some text ∧ tree.isDirectory ⟨text⟩ = true
  served : checkFolders = true → ¬ Records identity → ∀ output ∈ identity.output,
    output.isHttp = true →
      ∃ root, output.httpRoot = some root ∧ (tree.isDirectory ⟨root⟩ = true ↔ root ≠ "")
  written : checkFolders = true → ¬ Records identity → ∀ output ∈ identity.output,
    ∀ file directory, output.filePath = some file → file.parent = some directory →
      tree.isDirectory directory = true

/-- A kind records if it is one of the two that do. -/
theorem recordsTimeshift_iff : identity.kind.recordsTimeshift = true ↔ Records identity := by
  simp [Kind.recordsTimeshift, Records]

/-- Nothing is where the empty path leads. -/
theorem isDirectory_empty (tree : FileTree) : tree.isDirectory ⟨""⟩ = false := rfl

/-- A directory that is required is named by the spec, and not by the empty text. -/
theorem requiredDirectory_eq_ok_iff {key : String} :
    requiredDirectory spec key = .ok path ↔ spec.str? key = some path.text ∧ path.text ≠ "" := by
  unfold requiredDirectory
  cases given : spec.str? key with
  | none => simp [require, Except.map]
  | some text =>
    obtain ⟨name⟩ := path
    by_cases empty : text = ""
    · simp [empty, Option.filter_some, require, Except.map, eq_comm]
    · simp only [Option.filter_some, ne_eq, empty, not_false_eq_true, decide_true, if_true, require,
        Except.map, Except.ok.injEq, Path.mk.injEq, Option.some.injEq, iff_self_and]
      rintro rfl
      exact empty

/-- What an identity takes from its spec for its directories and outputs. -/
theorem directories_of_derive (derived : Identity.derive spec = .ok identity) :
    identity.feedbackDirectory.text ≠ "" ∧ identity.dataDirectory.text ≠ "" ∧
      identity.output = (readOutput spec).getD [] := by
  simp only [Identity.derive, bind_eq_ok_iff, require_eq_ok_iff, requiredDirectory_eq_ok_iff]
    at derived
  obtain ⟨id, -, kind, -, feedback, ⟨-, first⟩, data, ⟨-, second⟩, input, -, built⟩ := derived
  cases built
  exact ⟨first, second, rfl⟩

section
variable {asked : Path → Prop} {α : Type} {goal : FileTree → α → Prop}

/-- That a step makes directories that are asked for and no others, whether it fails or not, and
reaches a goal if it does not fail. -/
structure Provides (asked : Path → Prop) (goal : FileTree → α → Prop) (before : FileTree)
    (step : FileTree × Except ConfigError α) : Prop where
  makes : FileTree.Makes (AtOrAbove asked) before step.fst
  reached {a : α} : step.snd = .ok a → goal step.fst a

namespace Provides

/-- Where the goal is reached, nothing has to be done. -/
theorem done {a : α} (holds : goal tree a) : Provides asked goal tree (tree, .ok a) := by
  refine ⟨.refl tree, fun {b} given => ?_⟩
  cases given
  exact holds

/-- Where a fault is found, nothing is done. -/
theorem fault (cause : ConfigError) : Provides asked goal tree (tree, .error cause) :=
  ⟨.refl tree, nofun⟩

/-- A step after another one reaches its goal from the tree that the first one reaches. -/
theorem andThen {reached : FileTree → Unit → Prop} {first : FileTree × Except ConfigError Unit}
    {second : FileTree → FileTree × Except ConfigError α} :
    Provides asked reached tree first →
    (∀ middle, tree.Keeps middle → reached middle () →
      Provides asked goal middle (second middle)) →
    Provides asked goal tree
      (match first with
        | (made, .error cause) => (made, Except.error cause)
        | (made, .ok ()) => second made) := by
  obtain ⟨middle, outcome⟩ := first
  intro here later
  cases outcome with
  | error cause => exact ⟨here.makes, nofun⟩
  | ok =>
    have rest := later middle here.makes.keeps (here.reached rfl)
    exact ⟨here.makes.trans rest.makes, rest.reached⟩

end Provides

/-- Making a directory that is asked for makes it, unless it is named by the empty path. -/
theorem provides_createDirectory (tree : FileTree) (wanted : asked path) :
    Provides asked (fun after _ => path.text ≠ "" → after.isDirectory path = true) tree
      (createDirectory tree path) := by
  obtain ⟨makes, made⟩ := tree.makes_makeDirectories path
  have above (up : Path) (listed : up ∈ path.ancestors) : AtOrAbove asked up :=
    ⟨path, wanted, Path.components_prefix_of_mem_ancestors listed⟩
  refine ⟨makes.mono above, fun {_} succeeded => made ?_⟩
  unfold createDirectory at succeeded
  cases outcome : (tree.makeDirectories path).snd with
  | ok => rfl
  | error cause => simp [outcome, Except.mapError] at succeeded

/-- That the directory of an output, if it needs one, is named and there. -/
def HasDirectory (tree : FileTree) (output : Output) : Prop :=
  ∃ need, output.directory = .ok need ∧
    ∀ path ∈ need, path.text ≠ "" → tree.isDirectory path = true

/-- Outputs are prepared one after the other, each with the directory that it needs. -/
theorem provides_prepareOutputs (tree : FileTree) {outputs : List Output}
    (wanted : ∀ output ∈ outputs, ∀ path, output.directory = .ok (some path) → asked path) :
    Provides asked (fun after _ => ∀ output ∈ outputs, HasDirectory after output) tree
      (prepareOutputs tree outputs) := by
  induction outputs generalizing tree with
  | nil => exact .done fun output absent => absurd absent List.not_mem_nil
  | cons output rest inductionHypothesis =>
    obtain ⟨own, others⟩ := List.forall_mem_cons.mp wanted
    unfold prepareOutputs
    cases needs : output.directory with
    | error cause => exact .fault cause
    | ok need =>
      cases need with
      | none =>
        obtain ⟨makes, reached⟩ := inductionHypothesis tree others
        refine ⟨makes, fun {_} succeeded => List.forall_mem_cons.mpr ⟨?_, reached succeeded⟩⟩
        exact ⟨none, needs, fun path needed => by cases needed⟩
      | some path =>
        have first := provides_createDirectory tree (own path needs)
        simp only
        generalize createDirectory tree path = made at first ⊢
        obtain ⟨middle, _ | _⟩ := made
        · exact ⟨first.makes, fun {_} failed => by cases failed⟩
        · obtain ⟨makes, reached⟩ := inductionHypothesis middle others
          -- the directory of the first output is kept while the others are prepared
          refine ⟨first.makes.trans makes, fun {_} succeeded => List.forall_mem_cons.mpr
            ⟨⟨some path, needs, ?_⟩, reached succeeded⟩⟩
          rintro _ ⟨rfl⟩ some
          exact makes.keeps.isDirectory (first.reached rfl some)

end

/-- An output that is served over HTTP needs the root that it names. -/
theorem directory_of_isHttp {output : Output} (http : output.isHttp = true)
    {need : Option Path} :
    output.directory = .ok need ↔ ∃ root, output.httpRoot = some root ∧ need = some ⟨root⟩ := by
  rw [Output.directory, if_pos http]
  cases output.httpRoot <;> simp [require, Except.map, eq_comm]

/-- What an output needs is asked for. -/
theorem asks_of_directory {output : Output} (other : ¬ Records identity)
    (listed : output ∈ identity.output) (needs : output.directory = .ok (some path)) :
    Asks spec identity true path := by
  by_cases http : output.isHttp = true
  · obtain ⟨root, named, same⟩ := (directory_of_isHttp http).mp needs
    cases same
    exact .served other listed http named
  · rw [Output.directory, if_neg http] at needs
    obtain ⟨file, named, up⟩ := Option.bind_eq_some_iff.mp (Except.ok.inj needs)
    exact .written other listed named up

/-- The root of an output is there unless it is named by the empty path. -/
theorem HasDirectory.served {output : Output} (has : HasDirectory tree output)
    (http : output.isHttp = true) :
    ∃ root, output.httpRoot = some root ∧ (tree.isDirectory ⟨root⟩ = true ↔ root ≠ "") := by
  obtain ⟨need, needs, there⟩ := has
  obtain ⟨root, named, rfl⟩ := (directory_of_isHttp http).mp needs
  refine ⟨root, named, fun directory => ?_, there ⟨root⟩ rfl⟩
  rintro rfl
  rw [isDirectory_empty] at directory
  cases directory

/-- The directory that an output is a file in is there. -/
theorem HasDirectory.written {output : Output} (has : HasDirectory tree output)
    {file directory : Path} (named : output.filePath = some file)
    (up : file.parent = some directory) : tree.isDirectory directory = true := by
  obtain ⟨need, needs, there⟩ := has
  have other : ¬ output.isHttp = true := fun http => by
    rw [filePath_of_isHttp http] at named
    cases named
  rw [Output.directory, if_neg other, named, Option.bind_some, up] at needs
  cases needs
  exact there directory rfl (parent_of_filePath named up)

/-- The directories of the far end are there: the one of a recorder, or those of the outputs. -/
structure FarEnd (spec : Spec) (identity : Identity) (tree : FileTree) : Prop where
  recording : Records identity →
    ∃ text, spec.str? "timeshift_dir" = some text ∧ tree.isDirectory ⟨text⟩ = true
  outputs : ¬ Records identity → ∀ output ∈ identity.output, HasDirectory tree output

/-- The far end of a stream is provided for. -/
theorem provides_prepareFarEnd (tree : FileTree) (derived : Identity.derive spec = .ok identity) :
    Provides (Asks spec identity true) (fun after _ => FarEnd spec identity after) tree
      (prepareFarEnd tree spec identity) := by
  unfold prepareFarEnd
  split
  · next records =>
    rw [recordsTimeshift_iff] at records
    split
    · exact .fault _
    · next path named =>
      obtain ⟨given, some⟩ := requiredDirectory_eq_ok_iff.mp named
      have wanted : Asks spec identity true path := .recording records given
      have step := provides_createDirectory tree wanted
      refine ⟨step.makes, fun {_} succeeded => ⟨fun _ => ⟨path.text, given, ?_⟩, absurd records⟩⟩
      exact step.reached succeeded some
  · next other =>
    rw [recordsTimeshift_iff] at other
    split
    · exact .fault _
    · next outputs read =>
      obtain ⟨-, -, same⟩ := directories_of_derive derived
      rw [read, Option.getD_some] at same
      have wanted : ∀ output ∈ outputs, ∀ path, output.directory = .ok (some path) →
          Asks spec identity true path :=
        fun output listed path needs => asks_of_directory other (same ▸ listed) needs
      obtain ⟨makes, reached⟩ := provides_prepareOutputs tree wanted
      refine ⟨makes, fun {_} succeeded => ⟨fun records => absurd records other, ?_⟩⟩
      exact fun _ output listed => reached succeeded output (same ▸ listed)

/-- The directories of a stream are provided for. -/
theorem provides_prepare (tree : FileTree) (derived : Identity.derive spec = .ok identity)
    (checkFolders : Bool) :
    Provides (Asks spec identity checkFolders)
      (fun after found => found = identity ∧ Ready spec identity checkFolders after) tree
      (Identity.prepare tree spec checkFolders) := by
  obtain ⟨feedback, data, -⟩ := directories_of_derive derived
  simp only [Identity.prepare, derived]
  refine (provides_createDirectory tree Asks.feedback).andThen fun tree _ first => ?_
  refine (provides_createDirectory tree Asks.data).andThen fun tree kept second => ?_
  -- what one step has made is kept by those behind it
  replace first := kept.isDirectory (first feedback)
  replace second := second data
  cases checkFolders with
  | false =>
    exact .done ⟨rfl, {
      feedback := first
      data := second
      recording := fun checked => by cases checked
      served := fun checked => by cases checked
      written := fun checked => by cases checked }⟩
  | true =>
    simp only [if_true]
    refine (provides_prepareFarEnd tree derived).andThen fun tree kept ends => .done ⟨rfl, ?_⟩
    exact {
      feedback := kept.isDirectory first
      data := kept.isDirectory second
      recording := fun _ => ends.recording
      served := fun _ other output listed => (ends.outputs other output listed).served
      written := fun _ other output listed _ _ => (ends.outputs other output listed).written }

/-- A spec without an identity is refused and nothing is made. Otherwise a preparation makes
directories that it asks for, or parents of them, and leaves everything else as it is; and if it
succeeds, it gives the identity, and its directories are there. -/
theorem prepared_directories (tree : FileTree) (spec : Spec) (checkFolders : Bool) :
    (∀ cause, Identity.derive spec = .error cause →
      Identity.prepare tree spec checkFolders = (tree, .error cause)) ∧
    ∀ identity, Identity.derive spec = .ok identity →
      FileTree.Makes (AtOrAbove (Asks spec identity checkFolders)) tree
        (Identity.prepare tree spec checkFolders).fst ∧
      ∀ found, (Identity.prepare tree spec checkFolders).snd = .ok found →
        found = identity ∧
          Ready spec identity checkFolders (Identity.prepare tree spec checkFolders).fst := by
  refine ⟨fun cause refused => by rw [Identity.prepare, refused], fun identity derived => ?_⟩
  have provided := provides_prepare tree derived checkFolders
  exact ⟨provided.makes, fun _ => provided.reached⟩

/-- The spec of a relay with outputs. -/
def relaySpec (output : List Json) : Spec :=
  ⟨[("data_directory", .str "/srv/data/s1"), ("feedback_directory", .str "/srv/fb"),
    ("id", .str "s1"), ("input", .arr [.str "udp://a"]), ("output", .arr output),
    ("type", .int 2)]⟩

/-- A relay is prepared behind a link, next to a file; a spec without an id is refused. -/
theorem prepared_directories_relay :
    let files : FileTree :=
      { entries :=
          [(["disk"], .directory), (["disk", "a.ts"], .file [1] 0), (["srv"], .link "disk")]
        current := [] }
    let spec := relaySpec [.obj [("http_root", .str "/srv/live"), ("uri", .str "http://a/a.m3u8")],
      .obj [("uri", .str "file:///disk/out/x.ts")]]
    let after := (Identity.prepare files spec true).fst
    (∃ identity, Identity.derive spec = .ok identity ∧
      FileTree.Makes (AtOrAbove (Asks spec identity true)) files after ∧
      Ready spec identity true after) ∧
    (∀ place ∈ [["disk", "live"], ["disk", "out"], ["disk", "fb"], ["disk", "data", "s1"]],
      after.get? place = some .directory) ∧
    Identity.prepare files ⟨[]⟩ true = (files, .error (.missing "id")) := by
  intro files spec after
  obtain ⟨-, derived⟩ := prepared_directories files spec true
  obtain ⟨refused, -⟩ := prepared_directories files ⟨[]⟩ true
  obtain ⟨identity, read⟩ : ∃ identity, Identity.derive spec = .ok identity := ⟨_, rfl⟩
  obtain ⟨makes, ready⟩ := derived identity read
  refine ⟨⟨identity, read, makes, (ready identity ?_).2⟩, by decide +kernel, refused _ rfl⟩
  cases read
  decide +kernel

/-- A relay with an output that names the empty path as its root is prepared, although nothing is
there that the output could be served from. -/
theorem prepared_without_root :
    let spec := relaySpec [.obj [("http_root", .str ""), ("uri", .str "http://a/a.m3u8")]]
    ∃ identity, Identity.derive spec = .ok identity ∧
      (Identity.prepare .empty spec true).snd = .ok identity ∧
      ∃ output ∈ identity.output, output.isHttp = true ∧ output.httpRoot = some "" ∧
        (Identity.prepare .empty spec true).fst.isDirectory ⟨""⟩ = false := by
  refine ⟨_, rfl, ?_, _, List.mem_cons_self, ?_, rfl, isDirectory_empty _⟩
  · decide +kernel
  · decide +kernel

end MediaNode.Stream
