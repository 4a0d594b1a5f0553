import MediaNode.Proofs.Path
import MediaNode.Proofs.Site.Manifest
import MediaNode.Site.Serve

/-!
# What a request can reach

Whatever path is asked for, the file that is read for it is the root of the site with nothing but
names behind it. The names are those of the path, in their order; a path that is absolute or steps
up means no file at all, and is refused before the links are looked at. The chunks that a manifest
lists are found in the same way, so that nothing outside its directory has a say in whether it is
complete.
-/
namespace MediaNode.Site

open MediaNode.Path (IsName Within nameOf namesOn)

/-- That a relative path would leave the directory that it is taken in. -/
def Escapes (relative : String) : Prop :=
  Path.isAbsolute ⟨relative⟩ = true ∨ .parent ∈ Path.components ⟨relative⟩

/-- That a request target stands for this path behind the first slash. -/
def Decoded (target relative : String) : Prop :=
  ∃ c rest, targetPath target = '/' :: c :: rest ∧
    Text.ofBytes? (Url.decode (String.ofList (c :: rest))) = some relative

/-- Components can be put behind a path unless one of them leaves it, and then their names are
joined to it. -/
theorem extend_eq (path : Path) (components : List Component) :
    extend path components =
      if .root ∈ components ∨ .parent ∈ components then none
      else some ((components.filterMap nameOf).foldl Path.join path) := by
  induction components generalizing path with
  | nil => rfl
  | cons component rest inductionHypothesis =>
    cases component with
    | root => simp [extend]
    | parent => simp [extend]
    | current => simp [extend, inductionHypothesis, List.filterMap_cons, nameOf]
    | normal name => simp [extend, inductionHypothesis, nameOf]

/-- A path escapes by its components. -/
theorem escapes_iff {relative : String} :
    Escapes relative ↔
      .root ∈ Path.components ⟨relative⟩ ∨ .parent ∈ Path.components ⟨relative⟩ := by
  rw [Escapes, Path.isAbsolute_iff]

/-- Only what escapes means no file. -/
theorem resolve_eq_none_iff {root : Path} {relative : String} :
    resolve root relative = none ↔ Escapes relative := by
  rw [escapes_iff, resolve, extend_eq]
  split
  · next leaves => simp [leaves]
  · next stays => simp [stays]

/-- Everything else means the root with the names of the path behind it. -/
theorem resolve_eq_some_iff {root path : Path} {relative : String} :
    resolve root relative = some path ↔
      ¬ Escapes relative ∧ Within root (namesOn ⟨relative⟩) path := by
  have within := Path.within_foldl_join root fun name (listed : name ∈ namesOn ⟨relative⟩) =>
    Path.isName_of_mem_namesOn listed
  rw [escapes_iff, resolve, extend_eq]
  split
  · next leaves => simp [leaves]
  · next stays =>
    constructor
    · intro found
      cases found
      exact ⟨stays, within⟩
    · rintro ⟨-, -, joined, -⟩
      rw [joined]
      rfl

section answers

variable {vod cod : LinkIndex} {files : FileTree} {kind : SiteKind} {root : Option Path}
  {relative : String}

/-- Without a root, or for a path that escapes it, nothing is found and nothing is queued. -/
theorem answerPath_of_escapes (refused : root = none ∨ Escapes relative) :
    answerPath vod cod files kind root relative = (.ofStatus 404, []) := by
  have nothing : root.bind (resolve · relative) = none := by
    rcases refused with rfl | escapes
    · rfl
    · simp [resolve_eq_none_iff.mpr escapes]
  rw [answerPath, nothing]

/-- A file is answered with only when it is read where the path leads, after the decision to
serve it. -/
theorem answerPath_file {file : String × List UInt8}
    (answered : (answerPath vod cod files kind root relative).fst.file = some file) :
    ∃ base path, root = some base ∧ resolve base relative = some path ∧
      (trigger vod cod files kind path).fst = .serve ∧ files.read path = .ok file.snd := by
  unfold answerPath at answered
  split at answered
  · cases answered
  · next path found =>
    obtain ⟨base, rfl, resolved⟩ := Option.bind_eq_some_iff.mp found
    split at answered
    · cases answered
    · cases answered
    · next commands decided =>
      unfold fileResponse at answered
      split at answered
      · next content read =>
        cases answered
        exact ⟨base, path, rfl, resolved, by rw [decided], read⟩
      · cases answered

/-- A request that gets a file stands for a path, and gets what is answered for that path. -/
theorem answer_file {target : String} {file : String × List UInt8}
    (answered : (answer vod cod files kind root "GET" target).fst.file = some file) :
    ∃ relative, Decoded target relative ∧
      (answerPath vod cod files kind root relative).fst.file = some file := by
  unfold answer at answered
  split at answered
  · next c rest path =>
    rw [if_neg (by decide)] at answered
    split at answered
    · cases answered
    · next relative decoded =>
      exact ⟨relative, ⟨c, rest, path, decoded⟩, by simpa using answered⟩
  · cases answered

end answers

/-- Whether a manifest is complete depends on the manifest, and on whether the chunks that it lists
are files where they lead to in its directory. -/
theorem isMaterialized_congr {files others : FileTree} {manifest : Path}
    (same : others.readText manifest = files.readText manifest)
    (agree : ∀ content directory chunk path, files.readText manifest = .ok content →
      manifest.parent = some directory → chunk ∈ listedChunks content →
      resolve directory chunk = some path → others.isFile path = files.isFile path) :
    isMaterialized others manifest = isMaterialized files manifest := by
  unfold isMaterialized
  rw [same]
  split
  · next content directory readable up =>
    have chunks : ∀ chunk ∈ listedChunks content,
        hasChunk others directory chunk = hasChunk files directory chunk := by
      intro chunk listed
      unfold hasChunk
      split
      · next path resolved => exact agree content directory chunk path readable up listed resolved
      · rfl
    rw [Bool.eq_iff_iff]
    simp only [Bool.and_eq_true, List.all_eq_true]
    constructor
    · rintro ⟨begins, whole⟩
      exact ⟨begins, fun chunk listed => (chunks chunk listed).symm.trans (whole chunk listed)⟩
    · rintro ⟨begins, whole⟩
      exact ⟨begins, fun chunk listed => (chunks chunk listed).trans (whole chunk listed)⟩
  · rfl

/-- How what is asked for is confined to a root. -/
structure Confinement : Prop where
  /-- A path leads below a root unless it escapes, -/
  escaped : ∀ root relative, resolve root relative = none ↔ Escapes relative
  /-- and then to the root with its names behind it. -/
  resolved : ∀ root relative path, resolve root relative = some path ↔
    ¬ Escapes relative ∧ Within root (namesOn ⟨relative⟩) path
  /-- Without a root, or for a path that escapes, the answer is the same whatever is linked and
  whatever the files are, and nothing is queued. -/
  refused : ∀ vod cod files kind root relative, root = none ∨ Escapes relative →
    answerPath vod cod files kind root relative = (.ofStatus 404, [])
  /-- A request is answered with a file only if its site has a root, the decision was to serve, and
  the file is the one that the path leads to below the root. -/
  served : ∀ vod cod files kind root relative type content,
    (answerPath vod cod files kind root relative).fst.file = some (type, content) →
    ∃ base path, root = some base ∧ ¬ Escapes relative ∧
      Within base (namesOn ⟨relative⟩) path ∧
      (trigger vod cod files kind path).fst = .serve ∧ files.read path = .ok content
  /-- The path is the one that the target of the request was decoded to. -/
  asked : ∀ vod cod files kind root target file,
    (answer vod cod files kind root "GET" target).fst.file = some file →
    ∃ relative, Decoded target relative ∧
      (answerPath vod cod files kind root relative).fst.file = some file
  /-- Whether a manifest is complete is said by the manifest alone and by the files that its chunks
  lead to below its directory. -/
  complete : ∀ files others : FileTree, ∀ manifest : Path,
    others.readText manifest = files.readText manifest →
    (∀ content directory chunk path, files.readText manifest = .ok content →
      manifest.parent = some directory → chunk ∈ listedChunks content → ¬ Escapes chunk →
      Within directory (namesOn ⟨chunk⟩) path → others.isFile path = files.isFile path) →
    isMaterialized others manifest = isMaterialized files manifest

/-- Nothing outside of the root is served, and nothing outside of its directory makes a manifest
complete. -/
theorem confined_to_root : Confinement where
  escaped _ _ := resolve_eq_none_iff
  resolved _ _ _ := resolve_eq_some_iff
  refused vod cod files kind root relative refused := answerPath_of_escapes refused
  served vod cod files kind root relative type content answered := by
    obtain ⟨base, path, served, resolved, decided, read⟩ := answerPath_file answered
    obtain ⟨stays, within⟩ := resolve_eq_some_iff.mp resolved
    exact ⟨base, path, served, stays, within, decided, read⟩
  asked vod cod files kind root target file answered := answer_file answered
  complete files others manifest read agree := by
    refine isMaterialized_congr read ?_
    intro content directory chunk path readable up listed resolved
    obtain ⟨stays, within⟩ := resolve_eq_some_iff.mp resolved
    exact agree content directory chunk path readable up listed stays within

/-- A chunk is served from the root, a path out of the root is refused, and a file elsewhere does
not make a manifest complete. -/
theorem confined_to_root_library :
    let chunk : List UInt8 := [1, 2, 3]
    let files : FileTree :=
      { entries := [(["srv"], .directory), (["srv", "a"], .directory),
          (["srv", "a", "1.ts"], .file chunk 0),
          (["srv", "a", "m.m3u8"], .file (Text.bytes "#EXTM3U\n1.ts\n../b.ts") 0)]
        current := [] }
    let others := files.set ["srv", "b.ts"] (.file chunk 0)
    let links : LinkIndex := {}
    Within ⟨"/srv"⟩ ["a", "1.ts"] ⟨"/srv/a/1.ts"⟩ ∧
      answerPath links links files .vod (some ⟨"/srv"⟩) "a/../../etc/passwd" = (.ofStatus 404, []) ∧
      (∃ base path, some (⟨"/srv"⟩ : Path) = some base ∧ ¬ Escapes "a//./1.ts/" ∧
        Within base (namesOn ⟨"a//./1.ts/"⟩) path ∧
        (trigger links links files .vod path).fst = .serve ∧ files.read path = .ok chunk) ∧
      (∃ relative, Decoded "/a/%31.ts?x" relative ∧
        (answerPath links links files .vod (some ⟨"/srv"⟩) relative).fst.file =
          some ("video/mp2t", chunk)) ∧
      isMaterialized others ⟨"/srv/a/m.m3u8"⟩ = isMaterialized files ⟨"/srv/a/m.m3u8"⟩ := by
  intro chunk files others links
  obtain ⟨-, resolved, refused, served, asked, complete⟩ : Confinement := confined_to_root
  have escapes : Escapes "a/../../etc/passwd" := .inr (by decide +kernel)
  refine ⟨?_, refused _ _ _ _ _ _ (.inr escapes), ?_, ?_, complete files others _ ?_ ?_⟩
  · exact ((resolved ⟨"/srv"⟩ "a//./1.ts/" ⟨"/srv/a/1.ts"⟩).mp (by decide +kernel)).2
  · exact served links links files .vod _ _ "video/mp2t" chunk (by decide +kernel)
  · exact asked links links files .vod _ _ _ (by decide +kernel)
  · decide +kernel
  · intro content directory listed path readable up member stays within
    have text : files.readText ⟨"/srv/a/m.m3u8"⟩ = .ok "#EXTM3U\n1.ts\n../b.ts" := by
      decide +kernel
    have parent : Path.parent ⟨"/srv/a/m.m3u8"⟩ = some ⟨"/srv/a"⟩ := by decide +kernel
    have lines : listedChunks "#EXTM3U\n1.ts\n../b.ts" = ["1.ts", "../b.ts"] := by decide +kernel
    have found : resolve directory listed = some path := (resolved _ _ _).mpr ⟨stays, within⟩
    cases Except.ok.inj (text.symm.trans readable)
    cases Option.some.inj (parent.symm.trans up)
    rw [lines] at member
    rcases List.mem_pair.mp member with rfl | rfl
    · have leads : resolve ⟨"/srv/a"⟩ "1.ts" = some ⟨"/srv/a/1.ts"⟩ := by decide +kernel
      cases Option.some.inj (leads.symm.trans found)
      decide +kernel
    · have leads : resolve ⟨"/srv/a"⟩ "../b.ts" = none := by decide +kernel
      cases leads.symm.trans found

end MediaNode.Site
