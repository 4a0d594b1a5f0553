import Mathlib.Data.List.Nodup
import MediaNode.FileTree

/-!
# Places of a file tree

A tree in which at most one thing stands at every place is a list of what stands where: the
children of a place are what stands one name behind it. A path that leads somewhere leads there in
every tree that keeps what the tree has (`Keeps`). So a tree with fewer entries has fewer paths, but
one that still leads somewhere leads where it did.
-/
namespace MediaNode.FileTree

variable {tree small large : FileTree} {place : Place} {node : Entry}

/-- That at most one thing stands at every place. -/
def Distinct (tree : FileTree) : Prop := (tree.entries.map Prod.fst).Nodup

/-- Below the root, what stands at a place is what is listed for it. -/
theorem Distinct.get?_eq_some_iff (distinct : tree.Distinct) (below : place ≠ []) :
    tree.get? place = some node ↔ (place, node) ∈ tree.entries := by
  rw [get?, if_neg below, Option.map_eq_some_iff]
  constructor
  · rintro ⟨⟨other, _⟩, found, rfl⟩
    obtain rfl : other = place := by simpa using List.find?_some found
    exact List.mem_of_find?_eq_some found
  · intro listed
    refine ⟨(place, node), ?_, rfl⟩
    obtain ⟨before, later, split⟩ := List.append_of_mem listed
    refine List.find?_eq_some_iff_append.mpr ⟨by simp, before, later, split, fun entry early => ?_⟩
    rw [Distinct, split, List.map_append] at distinct
    have other := (List.nodup_append.mp distinct).2.2 entry.fst (List.mem_map_of_mem early) place
      (by simp)
    simpa using other

/-- The child of a place that an entry is, if it is one. -/
def child? (place : Place) (entry : Place × Entry) : Option (String × Entry) :=
  match entry.fst.getLast? with
  | some name => if entry.fst.dropLast = place then some (name, entry.snd) else none
  | none => none

/-- A child stands one name behind its parent. -/
theorem child?_eq_some_iff {entry : Place × Entry} {child : String × Entry} :
    child? place entry = some child ↔ entry = (place ++ [child.fst], child.snd) := by
  obtain ⟨other, node⟩ := entry
  constructor
  · unfold child?
    intro found
    split at found
    · next name ends =>
      obtain ⟨inside, same⟩ := Option.ite_none_right_eq_some.mp found
      obtain rfl := Option.some.inj same
      obtain ⟨front, rfl⟩ := List.getLast?_eq_some_iff.mp ends
      rw [← inside, List.dropLast_concat]
    · cases found
  · intro same
    obtain ⟨rfl, rfl⟩ := Prod.mk.inj same
    simp [child?]

/-- The children of a place are what stands one name behind it. -/
theorem Distinct.mem_children_iff (distinct : tree.Distinct) {name : String} :
    (name, node) ∈ tree.children place ↔ tree.get? (place ++ [name]) = some node := by
  have listed : (name, node) ∈ tree.children place ↔
      ∃ entry ∈ tree.entries, child? place entry = some (name, node) := List.mem_filterMap
  simp only [distinct.get?_eq_some_iff (List.concat_ne_nil _ _), listed, child?_eq_some_iff,
    exists_eq_right]

/-- Removing places one after the other keeps the entries at all others. -/
theorem foldl_erase (tree : FileTree) (places : List Place) :
    places.foldl erase tree =
      { tree with entries := tree.entries.filter (·.fst ∉ places) } := by
  induction places generalizing tree with
  | nil => simp
  | cons place rest inductionHypothesis =>
    rw [List.foldl_cons, inductionHypothesis, erase]
    simp only [List.filter_filter, List.mem_cons, not_or, Bool.decide_and, Bool.and_comm, ne_eq]

/-- At the places that were removed nothing stands, at all others what stood there. -/
theorem get?_foldl_erase (tree : FileTree) {places : List Place} (below : [] ∉ places)
    (place : Place) :
    (places.foldl erase tree).get? place = if place ∈ places then none else tree.get? place := by
  rw [foldl_erase, get?, get?]
  by_cases root : place = []
  · rw [if_pos root, if_pos root, if_neg (root ▸ below)]
  · rw [if_neg root, if_neg root, List.find?_filter]
    split
    · next removed =>
      rw [List.find?_eq_none.mpr, Option.map_none]
      rintro ⟨other, _⟩ - both
      simp only [decide_not, Bool.not_eq_true', decide_eq_false_iff_not, decide_eq_true_eq] at both
      exact both.1 (both.2 ▸ removed)
    · next kept =>
      congr 2
      funext entry
      by_cases same : entry.fst = place
      · simp [same, kept]
      · simp [same]

/-- That a tree has no entries but those of another one. -/
structure PartOf (small large : FileTree) : Prop where
  entries : small.entries.Sublist large.entries
  current : small.current = large.current

/-- A part of a tree is what is left of it without some places. -/
theorem partOf_foldl_erase (tree : FileTree) (places : List Place) :
    (places.foldl erase tree).PartOf tree := by
  rw [foldl_erase]
  exact ⟨List.filter_sublist, rfl⟩

namespace PartOf

/-- A tree is a part of itself. -/
theorem refl (tree : FileTree) : tree.PartOf tree := ⟨.refl _, rfl⟩

/-- A part of a part is one. -/
theorem trans {medium : FileTree} (first : small.PartOf medium) (second : medium.PartOf large) :
    small.PartOf large :=
  ⟨first.entries.trans second.entries, first.current.trans second.current⟩

/-- Fewer entries stand at distinct places if more do. -/
theorem distinct (part : small.PartOf large) (distinct : large.Distinct) : small.Distinct :=
  List.Nodup.sublist (part.entries.map _) distinct

/-- What is left stands where it stood. -/
theorem get?_eq_some (part : small.PartOf large) (distinct : large.Distinct)
    (stands : small.get? place = some node) : large.get? place = some node := by
  by_cases root : place = []
  · subst root
    exact stands
  · rw [(part.distinct distinct).get?_eq_some_iff root] at stands
    exact (distinct.get?_eq_some_iff root).mpr (part.entries.subset stands)

end PartOf

/-- A number that every entry of a list may raise is raised at least as far by a longer list. -/
theorem foldl_le_foldl {α : Type} {raise : Nat → α → Nat} (raises : ∀ n a, n ≤ raise n a)
    (monotone : ∀ n m a, n ≤ m → raise n a ≤ raise m a) {few many : List α}
    (part : few.Sublist many) {n m : Nat} (le : n ≤ m) :
    few.foldl raise n ≤ many.foldl raise m := by
  induction part generalizing n m with
  | slnil => exact le
  | cons a _ inductionHypothesis => exact inductionHypothesis (Nat.le_trans le (raises m a))
  | cons_cons a _ inductionHypothesis => exact inductionHypothesis (monotone n m a le)

/-- The length of the longest target of a link. -/
def longestLink (entries : List (Place × Entry)) : Nat :=
  entries.foldl (fun n (_, node) => match node with
    | .link target _ => max n target.length
    | _ => n) 0

/-- The steps to follow are enough for a path and for as many of the longest link as may be
followed, and one more. -/
theorem walkFuel_eq (tree : FileTree) (text : String) :
    tree.walkFuel text = text.length + 2 + (maxLinks + 1) * (longestLink tree.entries + 1) := rfl

/-- Among fewer entries no link is longer. -/
theorem longestLink_le {few many : List (Place × Entry)} (part : few.Sublist many) :
    longestLink few ≤ longestLink many := by
  refine foldl_le_foldl (fun n entry => ?_) (fun n m entry le => ?_) part (Nat.le_refl 0)
  · obtain ⟨place, _ | _ | _⟩ := entry
    · exact Nat.le_refl n
    · exact Nat.le_refl n
    · exact Nat.le_max_left n _
  · obtain ⟨place, _ | _ | _⟩ := entry
    · exact le
    · exact le
    · exact Nat.max_le.mpr ⟨Nat.le_trans le (Nat.le_max_left ..), Nat.le_max_right ..⟩

/-- No link has a longer target. -/
theorem length_le_longestLink {target : String} {modified : Option Int}
    (stands : tree.get? place = some (.link target modified)) :
    target.length ≤ longestLink tree.entries := by
  unfold get? at stands
  split at stands
  · cases stands
  · obtain ⟨⟨other, node⟩, found, rfl⟩ := Option.map_eq_some_iff.mp stands
    have alone : longestLink [(other, .link target modified)] = target.length := Nat.zero_max _
    rw [← alone]
    exact longestLink_le (List.singleton_sublist.mpr (List.mem_of_find?_eq_some found))

/-- A tree with fewer entries has fewer steps to follow. -/
theorem PartOf.walkFuel_le (part : small.PartOf large) (text : String) :
    small.walkFuel text ≤ large.walkFuel text :=
  Nat.add_le_add_left (Nat.mul_le_mul_left _ (Nat.succ_le_succ (longestLink_le part.entries))) _

/-- A path leads to where its steps lead, if it is not empty and can be a name at all. -/
theorem locate_eq_ok_iff {follow : Bool} {location : Location} :
    tree.locate follow path = .ok location ↔
      '\x00' ∉ path.text.toList ∧ path.text ≠ "" ∧
        tree.walk follow (endsWithSlash path.text) (tree.walkFuel path.text) maxLinks
          (if path.isAbsolute then [] else tree.current) (steps path.text) = .ok location := by
  unfold locate
  simp only [List.contains_iff_mem]
  split
  · next nul => simp [nul]
  · next named =>
    split
    · next empty => simp [empty]
    · next some => simp [named, some]

/-- A path leads to something if it leads there with the last link followed. -/
theorem lookup_eq_ok_iff :
    tree.lookup path = .ok (place, node) ↔ tree.locate true path = .ok (.found place node) := by
  unfold lookup
  split <;> simp_all

/-- A directory is stepped into. -/
theorem walk_directory {follow slash : Bool} {fuel links : Nat} {at_ : Place} {name : String}
    {rest : List String} (one : name = "." → False) (two : name = ".." → False)
    (short : ¬ 255 < name.utf8ByteSize) (stands : tree.get? (at_ ++ [name]) = some .directory) :
    tree.walk follow slash (fuel + 1) links at_ (name :: rest) =
      tree.walk follow slash fuel links (at_ ++ [name]) rest := by
  rw [walk.eq_5 _ _ _ _ _ _ _ _ one two, if_neg short]
  simp only [stands]

/-- A link gives way to its target, unless it is last and not to be followed. -/
theorem walk_link {follow slash : Bool} {fuel links : Nat} {at_ : Place} {name : String}
    {rest : List String} {target : String} {modified : Option Int} (one : name = "." → False)
    (two : name = ".." → False) (short : ¬ 255 < name.utf8ByteSize)
    (stands : tree.get? (at_ ++ [name]) = some (.link target modified))
    (further : ¬ (rest.isEmpty && !follow && !slash) = true) :
    tree.walk follow slash (fuel + 1) (links + 1) at_ (name :: rest) =
      tree.walk follow (slash || (rest.isEmpty && endsWithSlash target)) fuel links
        (if Path.isAbsolute ⟨target⟩ then [] else at_) (steps target ++ rest) := by
  rw [walk.eq_5 _ _ _ _ _ _ _ _ one two, if_neg short]
  simp only [stands]
  rw [if_neg further]

/-- That a tree has all that another one has, each at its place, and no fewer steps to follow. -/
structure Keeps (small large : FileTree) : Prop where
  current : large.current = small.current
  get? {place : Place} {node : Entry} :
    small.get? place = some node → large.get? place = some node
  walkFuel (text : String) : small.walkFuel text ≤ large.walkFuel text

/-- A tree keeps what any part of it has. -/
theorem PartOf.keeps (part : small.PartOf large) (distinct : large.Distinct) : small.Keeps large :=
  ⟨part.current.symm, part.get?_eq_some distinct, part.walkFuel_le⟩

namespace Keeps

/-- A tree keeps what it has. -/
theorem refl (tree : FileTree) : tree.Keeps tree := ⟨rfl, id, fun _ => Nat.le_refl _⟩

/-- What is kept twice is kept. -/
theorem trans {medium : FileTree} (first : small.Keeps medium) (second : medium.Keeps large) :
    small.Keeps large :=
  ⟨second.current.trans first.current, second.get? ∘ first.get?,
    fun text => Nat.le_trans (first.walkFuel text) (second.walkFuel text)⟩

/-- A way through a tree leads to the same place in a tree that keeps all it has, and with more
steps to take. -/
theorem walk_eq_found (keeps : small.Keeps large) {follow slash : Bool} (more : Nat)
    {fuel links : Nat} {at_ : Place} {names : List String}
    (found : small.walk follow slash fuel links at_ names = .ok (.found place node)) :
    large.walk follow slash (more + fuel) links at_ names = .ok (.found place node) := by
  fun_induction small.walk follow slash fuel links at_ names
  -- no way ends for want of steps, or at a name that is too long or missing
  case case1 | case5 | case6 | case7 | case10 | case12 => cases found
  case case2 fuel slash links at_ some =>
    rw [walk.eq_2 _ _ _ _ _ _ fun none => some (Nat.eq_zero_of_add_eq_zero_left none)]
    exact found
  case case3 inductionHypothesis => exact inductionHypothesis found
  case case4 inductionHypothesis => exact inductionHypothesis found
  case case8 one two short place stands inductionHypothesis =>
    rw [Nat.add_succ, walk_directory one two short (keeps.get? stands)]
    exact inductionHypothesis found
  case case9 one two short place content modified stands last =>
    rw [Nat.add_succ, walk.eq_5 _ _ _ _ _ _ _ _ one two, if_neg short]
    replace stands := keeps.get? stands
    simp only [place] at stands
    simp only [stands]
    exact (if_pos last).trans found
  case case11 one two short place target modified stands last =>
    rw [Nat.add_succ, walk.eq_5 _ _ _ _ _ _ _ _ one two, if_neg short]
    replace stands := keeps.get? stands
    simp only [place] at stands
    simp only [stands]
    exact (if_pos last).trans found
  case case13 one two short place target modified stands further links start slash
      inductionHypothesis =>
    rw [Nat.add_succ, walk_link one two short (keeps.get? stands) further]
    exact inductionHypothesis found

/-- So a path that leads somewhere still leads there, whether its last link is followed or not. -/
theorem locate_eq_found (keeps : small.Keeps large) {follow : Bool} {path : Path}
    (found : small.locate follow path = .ok (.found place node)) :
    large.locate follow path = .ok (.found place node) := by
  rw [locate_eq_ok_iff] at found ⊢
  obtain ⟨named, some, walked⟩ := found
  refine ⟨named, some, ?_⟩
  rw [keeps.current, ← Nat.sub_add_cancel (keeps.walkFuel path.text)]
  exact keeps.walk_eq_found _ walked

/-- In particular it leads to the same thing. -/
theorem lookup_eq_ok (keeps : small.Keeps large) {path : Path}
    (found : small.lookup path = .ok (place, node)) : large.lookup path = .ok (place, node) :=
  lookup_eq_ok_iff.mpr (keeps.locate_eq_found (lookup_eq_ok_iff.mp found))

/-- In particular a directory is still one. -/
theorem isDirectory (keeps : small.Keeps large) {path : Path}
    (directory : small.isDirectory path = true) : large.isDirectory path = true := by
  unfold FileTree.isDirectory at directory ⊢
  cases found : small.lookup path with
  | error cause => simp [found] at directory
  | ok result =>
    obtain ⟨place, node⟩ := result
    rw [found] at directory
    rw [keeps.lookup_eq_ok found]
    exact directory

end Keeps

/-- A path that leads somewhere without some entries leads there with them. -/
theorem PartOf.lookup_eq_ok (part : small.PartOf large) (distinct : large.Distinct) {path : Path}
    (found : small.lookup path = .ok (place, node)) : large.lookup path = .ok (place, node) :=
  (part.keeps distinct).lookup_eq_ok found

end MediaNode.FileTree
