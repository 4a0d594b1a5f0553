import MediaNode.LinkIndex

/-!
# What a directory is linked to

Directories are found by their components, so that a directory has at most one link, under
whichever of its names. Linking one overwrites its link and touches no other. Of many links
for a directory the last one counts, and a directory that was linked once stays linked.
-/
namespace MediaNode

namespace LinkIndex

variable {index : LinkIndex} {directory : Path}

/-- Nothing is linked at the start. -/
@[simp] theorem find_empty (directory : Path) : ({} : LinkIndex).find directory = none := rfl

/-- A link leads from its own directory to its spec and changes no other link. -/
theorem find_insert (index : LinkIndex) (entry directory : Path) (spec : Stream.Spec) :
    (index.insert entry spec).find directory =
      if entry.components = directory.components then some spec else index.find directory := by
  obtain ⟨entries⟩ := index
  simp only [find, insert]
  induction entries with
  | nil =>
    by_cases here : entry.components = directory.components <;>
      simp [insertEntry, Path.same, here]
  | cons link rest inductionHypothesis =>
    obtain ⟨other, old⟩ := link
    by_cases replaced : other.components = entry.components
    · by_cases here : entry.components = directory.components <;>
        simp [insertEntry, Path.same, replaced, here]
    · by_cases first : other.components = directory.components
      · have elsewhere : entry.components ≠ directory.components := fun here =>
          replaced (first.trans here.symm)
        simp [insertEntry, Path.same, first, elsewhere, Ne.symm elsewhere]
      · simpa [insertEntry, Path.same, replaced, first] using inductionHypothesis

/-- Links are made part by part. -/
theorem extend_append (index : LinkIndex) (before later : List (Path × Stream.Spec)) :
    index.extend (before ++ later) = (index.extend before).extend later :=
  List.foldl_append

/-- Linking several directories to one spec overwrites their links and touches no other. -/
theorem find_extend_map (index : LinkIndex) (roots : List Path) (spec : Stream.Spec)
    (directory : Path) :
    (index.extend (roots.map (·, spec))).find directory =
      if ∃ root ∈ roots, root.components = directory.components then some spec
      else index.find directory := by
  induction roots generalizing index with
  | nil => simp [extend]
  | cons root rest inductionHypothesis =>
    have unfolded : index.extend ((root :: rest).map (·, spec)) =
        (index.insert root spec).extend (rest.map (·, spec)) := rfl
    rw [unfolded, inductionHypothesis, find_insert]
    by_cases later : ∃ other ∈ rest, other.components = directory.components
    · simp [later]
    · by_cases here : root.components = directory.components <;> simp [later, here]

/-- A directory that is linked stays linked. -/
theorem isSome_find_extend (linked : (index.find directory).isSome = true)
    (links : List (Path × Stream.Spec)) :
    ((index.extend links).find directory).isSome = true := by
  induction links generalizing index with
  | nil => exact linked
  | cons link rest inductionHypothesis =>
    obtain ⟨entry, spec⟩ := link
    have first : ((index.insert entry spec).find directory).isSome = true := by
      rw [find_insert]
      split
      · rfl
      · exact linked
    exact inductionHypothesis first

end LinkIndex
end MediaNode
