import MediaNode.Proofs.Text.Bytes
import MediaNode.Proofs.Text.Lines
import MediaNode.Site.Manifest

/-!
# Complete manifests

A manifest is complete when it is a text that begins like one and every chunk that it lists is
a file below its directory. A chunk is listed by a line that holds it between blanks, and the
lines of a text lie between its line feeds.
-/
namespace MediaNode.Site

open Text (isBlank Trimmed)

/-- That a text begins like a manifest, behind blanks. -/
def Begins (content : String) : Prop :=
  ∃ blanks rest, content.toList = blanks ++ manifestHeader.toList ++ rest ∧
    ∀ c ∈ blanks, isBlank c = true

/-- That a chunk stands in a line of a text, between blanks. -/
structure Lists (content chunk : String) : Prop where
  nonempty : chunk ≠ ""
  entry : chunk.toList.head? ≠ some '#'
  line : ∃ lines, content.toList = ['\n'].intercalate lines ∧ (∀ line ∈ lines, '\n' ∉ line) ∧
    ∃ line ∈ lines, Trimmed line chunk.toList

/-- That a manifest with this content is complete in its directory. -/
structure Complete (files : FileTree) (manifest directory : Path) (content : String) : Prop where
  readable : files.read manifest = .ok (Text.bytes content)
  beside : manifest.parent = some directory
  begins : Begins content
  whole : ∀ chunk, Lists content chunk →
    ∃ path, resolve directory chunk = some path ∧ files.isFile path = true

/-- The header is looked for behind the blanks. -/
theorem startsManifest_iff {content : String} : startsManifest content = true ↔ Begins content := by
  rw [startsManifest, List.isPrefixOf_iff_prefix]
  constructor
  · rintro ⟨rest, found⟩
    obtain ⟨blanks, split, blank⟩ := Text.exists_dropBlanks content.toList
    exact ⟨blanks, rest, by rw [List.append_assoc, found, ← split], blank⟩
  · rintro ⟨blanks, rest, split, blank⟩
    refine ⟨rest, ?_⟩
    rw [split, List.append_assoc, Text.dropBlanks_append blank]
    rfl

/-- The chunks are read off the lines. -/
theorem mem_listedChunks_iff {content chunk : String} :
    chunk ∈ listedChunks content ↔ Lists content chunk := by
  have listed : chunk ∈ listedChunks content ↔ chunk.toList ≠ [] ∧ chunk.toList.head? ≠ some '#' ∧
      chunk.toList ∈ (Text.lineList content.toList).map Text.trimChars := by
    simp only [listedChunks, List.mem_map (f := String.ofList), List.mem_filter, Bool.and_eq_true,
      Bool.not_eq_true', List.isEmpty_eq_false_iff, decide_eq_true_eq]
    constructor
    · rintro ⟨line, ⟨listed, nonempty, entry⟩, rfl⟩
      rw [String.toList_ofList]
      exact ⟨nonempty, entry, listed⟩
    · rintro ⟨nonempty, entry, listed⟩
      exact ⟨chunk.toList, ⟨listed, nonempty, entry⟩, String.ofList_toList⟩
  rw [listed]
  constructor
  · rintro ⟨nonempty, entry, listed⟩
    obtain ⟨line, piece, trimmed⟩ := (Text.mem_map_trimChars_lineList nonempty).mp listed
    obtain ⟨-, split, pure⟩ := Text.splitAll_eq_iff.mp (rfl : Text.splitAll '\n' content.toList = _)
    exact ⟨by simpa using nonempty, entry, _, split, pure, line, piece, trimmed⟩
  · rintro ⟨nonempty, entry, lines, split, pure, line, piece, trimmed⟩
    have nonempty : chunk.toList ≠ [] := by simpa using nonempty
    have pieces : Text.splitAll '\n' content.toList = lines :=
      Text.splitAll_eq_iff.mpr ⟨List.ne_nil_of_mem piece, split, pure⟩
    exact ⟨nonempty, entry,
      (Text.mem_map_trimChars_lineList nonempty).mpr ⟨line, pieces ▸ piece, trimmed⟩⟩

/-- What is read as text is the bytes of that text. -/
theorem readText_eq_ok_iff {files : FileTree} {path : Path} {content : String} :
    files.readText path = .ok content ↔ files.read path = .ok (Text.bytes content) := by
  unfold FileTree.readText
  cases files.read path with
  | error cause => simp
  | ok data =>
    rw [Except.ok.injEq, ← Text.ofBytes?_eq_some_iff]
    cases found : Text.ofBytes? data <;> simp [found]

/-- A chunk is there when it leads to a file. -/
theorem hasChunk_iff {files : FileTree} {directory : Path} {chunk : String} :
    hasChunk files directory chunk = true ↔
      ∃ path, resolve directory chunk = some path ∧ files.isFile path = true := by
  unfold hasChunk
  cases resolve directory chunk <;> simp

/-- A manifest is found complete exactly when it is. -/
theorem isMaterialized_iff {files : FileTree} {manifest : Path} :
    isMaterialized files manifest = true ↔
      ∃ directory content, Complete files manifest directory content := by
  unfold isMaterialized
  constructor
  · intro complete
    split at complete
    · next content directory readable beside =>
      rw [Bool.and_eq_true, List.all_eq_true] at complete
      exact ⟨directory, content, readText_eq_ok_iff.mp readable, beside,
        startsManifest_iff.mp complete.1,
        fun chunk listed => hasChunk_iff.mp (complete.2 chunk (mem_listedChunks_iff.mpr listed))⟩
    · cases complete
  · rintro ⟨directory, content, readable, beside, begins, whole⟩
    rw [readText_eq_ok_iff.mpr readable, beside]
    refine Bool.and_eq_true_iff.mpr ⟨startsManifest_iff.mpr begins, List.all_eq_true.mpr ?_⟩
    exact fun chunk listed => hasChunk_iff.mpr (whole chunk (mem_listedChunks_iff.mp listed))

end MediaNode.Site
