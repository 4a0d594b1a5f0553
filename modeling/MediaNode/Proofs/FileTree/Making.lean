import Mathlib.Data.List.DropRight
import MediaNode.Proofs.FileTree
import MediaNode.Proofs.Path

/-!
# Making directories

A directory is made at a name that is not there yet, and is then where its path leads. So making
directories only adds to a tree, and what it adds are directories that some of the paths lead to
(`Makes`). That holds of every tree that comes out, also where making the parents of a path fails
in between; where it does not fail, the path leads to a directory, unless it is empty.
-/
namespace MediaNode.FileTree

open Text

variable {tree small large before middle after : FileTree} {place directory : Place} {node : Entry}
  {path : Path} {name : String}

/-- Below the root, what is put at a place stands there, and elsewhere what stood there. -/
theorem get?_set (below : place ≠ []) (other : Place) :
    (tree.set place node).get? other = if other = place then some node else tree.get? other := by
  unfold get? set
  by_cases root : other = []
  · rw [if_pos root, if_pos root, if_neg (root ▸ below.symm)]
  · rw [if_neg root, if_neg root]
    by_cases same : other = place
    · subst same
      simp
    · rw [if_neg same, List.find?_cons_of_neg (by simpa using Ne.symm same), List.find?_filter]
      congr 2
      funext entry
      by_cases here : entry.fst = other
      · simp [here, same]
      · simp [here]

/-- A directory at a place where nothing stood leaves everything else as it is. -/
theorem keeps_set (absent : tree.get? place = none) : tree.Keeps (tree.set place .directory) := by
  have below : place ≠ [] := by
    rintro rfl
    cases absent
  have others : tree.entries.filter (·.fst ≠ place) = tree.entries := by
    rw [get?, if_neg below, Option.map_eq_none_iff, List.find?_eq_none] at absent
    exact List.filter_eq_self.mpr fun entry listed => by simpa using absent entry listed
  refine ⟨rfl, fun {other node} stands => ?_, fun text => ?_⟩
  · have different : other ≠ place := by
      rintro rfl
      rw [absent] at stands
      cases stands
    rwa [get?_set below, if_neg different]
  · unfold walkFuel set
    rw [others]
    exact Nat.le_refl _

/-- Nothing stands where a walk ends at a name that is not there. -/
theorem get?_of_walk {follow slash : Bool} {fuel links : Nat} {at_ : Place} {names : List String}
    (absent : tree.walk follow slash fuel links at_ names = .ok (.absent directory name)) :
    tree.get? (directory ++ [name]) = none := by
  fun_induction tree.walk follow slash fuel links at_ names
  case case1 | case2 | case5 | case7 | case9 | case10 | case11 | case12 => cases absent
  case case3 inductionHypothesis => exact inductionHypothesis absent
  case case4 inductionHypothesis => exact inductionHypothesis absent
  case case6 nothing _ =>
    cases absent
    exact nothing
  case case8 inductionHypothesis => exact inductionHypothesis absent
  case case13 inductionHypothesis => exact inductionHypothesis absent

/-- That no link of a tree has more steps. -/
def LinksWithin (tree : FileTree) (longest : Nat) : Prop :=
  ∀ place target modified, tree.get? place = some (.link target modified) →
    (steps target).length ≤ longest

/-- A walk that ends at a name which is not there leads to what is made there, if it has a step to
spare. No link is last on such a walk, and so it does not matter whether a last link is followed. -/
theorem Keeps.walk_eq_absent (keeps : small.Keeps large) {longest : Nat}
    (within : small.LinksWithin longest) (follow slash : Bool) (more : Nat) {bare : Bool}
    (slashless : bare = false) {fuel links : Nat} {at_ : Place} {names : List String}
    (enough : names.length + links * longest < fuel)
    (absent : small.walk false bare fuel links at_ names = .ok (.absent directory name))
    (made : large.get? (directory ++ [name]) = some .directory) :
    large.walk follow slash (more + fuel) links at_ names =
      .ok (.found (directory ++ [name]) .directory) := by
  fun_induction small.walk false bare fuel links at_ names
  case case1 | case2 | case5 | case7 | case9 | case10 | case11 | case12 => cases absent
  case case3 inductionHypothesis =>
    rw [List.length_cons] at enough
    exact inductionHypothesis slashless (by omega) absent
  case case4 inductionHypothesis =>
    rw [List.length_cons] at enough
    exact inductionHypothesis slashless (by omega) absent
  case case6 one two short _ _ last =>
    -- the step to spare is the one that ends the way at what is made
    cases absent
    obtain rfl := List.isEmpty_iff.mp last
    rw [List.length_singleton] at enough
    rw [Nat.add_succ, walk.eq_5 _ _ _ _ _ _ _ _ one two, if_neg short]
    simp only [made]
    exact walk.eq_2 _ _ _ _ _ _ (by omega)
  case case8 one two short place stands inductionHypothesis =>
    rw [List.length_cons] at enough
    rw [Nat.add_succ, walk_directory one two short (keeps.get? stands)]
    exact inductionHypothesis slashless (by omega) absent
  case case13 rest one two short place target modified stands further links start slashed
      inductionHypothesis =>
    have inner : rest.isEmpty = false := by simpa [slashless] using further
    have bounded := within _ _ _ stands
    rw [List.length_cons, Nat.succ_mul] at enough
    rw [Nat.add_succ, walk_link one two short (keeps.get? stands) (by simp [inner])]
    simp only [inner, Bool.false_and, Bool.or_false]
    refine inductionHypothesis (by simp [slashed, inner, slashless]) ?_ absent
    rw [List.length_append]
    omega

/-- A text has at most one piece more than it has characters. -/
theorem length_splitAll_le (separator : Char) (text : List Char) :
    (splitAll separator text).length ≤ text.length + 1 := by
  induction text with
  | nil => exact Nat.le_refl 1
  | cons c rest inductionHypothesis =>
    rw [splitAll]
    split
    · exact Nat.succ_le_succ inductionHypothesis
    · split
      · exact Nat.le_add_left 1 _
      · next piece pieces split =>
        rw [split] at inductionHypothesis
        exact Nat.le_succ_of_le inductionHypothesis

/-- So it has no more steps either. -/
theorem length_steps_le (text : String) : (steps text).length ≤ text.length + 1 := by
  refine Nat.le_trans (List.length_filter_le _ _) ?_
  rw [List.length_map]
  exact length_splitAll_le '/' text.toList

/-- No link of a tree has more steps than the longest one may have. -/
theorem linksWithin (tree : FileTree) : tree.LinksWithin (longestLink tree.entries + 1) :=
  fun _ target _ stands =>
    Nat.le_trans (length_steps_le target) (Nat.succ_le_succ (length_le_longestLink stands))

/-- The steps of a path and of the links on it are fewer than may be followed. -/
theorem length_steps_lt_walkFuel (tree : FileTree) (text : String) :
    (steps text).length + maxLinks * (longestLink tree.entries + 1) < tree.walkFuel text := by
  have own := length_steps_le text
  rw [walkFuel_eq, Nat.succ_mul]
  omega

/-- A path without the slashes at its end. -/
def withoutSlashes (path : Path) : Path :=
  Path.ofChars (path.text.toList.rdropWhile (· = '/'))

/-- Its characters are a path's own but for the slashes that are left out. -/
theorem exists_slashes (path : Path) :
    ∃ slashes, path.text.toList = (withoutSlashes path).text.toList ++ slashes ∧
      ∀ c ∈ slashes, c = '/' := by
  refine ⟨path.text.toList.rtakeWhile (· = '/'), ?_, fun c taken => ?_⟩
  · rw [withoutSlashes, Path.ofChars, String.toList_ofList, List.rdropWhile_append_rtakeWhile]
  · simpa using List.mem_rtakeWhile_imp taken

/-- Slashes at the end of a path are no steps. -/
theorem steps_withoutSlashes (path : Path) :
    steps (withoutSlashes path).text = steps path.text := by
  have characters (text : List Char) :
      steps (String.ofList (text.rdropWhile (· = '/'))) = steps (String.ofList text) := by
    induction text using List.reverseRecOn with
    | nil => rfl
    | append_singleton text c inductionHypothesis =>
      by_cases slash : c = '/'
      · subst slash
        rw [List.rdropWhile_concat_pos _ _ _ (by simp), inductionHypothesis]
        simp [steps, splitAll_append, splitAll]
      · rw [List.rdropWhile_concat_neg _ _ _ (by simpa using slash)]
  exact (characters path.text.toList).trans (by rw [String.ofList_toList])

/-- No slash is left at the end. -/
theorem endsWithSlash_withoutSlashes (path : Path) :
    endsWithSlash (withoutSlashes path).text = false := by
  refine decide_eq_false fun ends => ?_
  rw [withoutSlashes, Path.ofChars, String.toList_ofList] at ends
  obtain ⟨nonempty, last⟩ := List.mem_getLast?_eq_getLast ends
  have other := List.rdropWhile_last_not _ _ nonempty
  simp [← last] at other

/-- What is left of a path, if anything is, starts where the path does. -/
theorem isAbsolute_withoutSlashes {path : Path} (some : (withoutSlashes path).text ≠ "") :
    path.isAbsolute = (withoutSlashes path).isAbsolute := by
  obtain ⟨slashes, split, -⟩ := exists_slashes path
  rw [Path.isAbsolute, split, Path.isAbsolute,
    List.head?_append_of_ne_nil _ (by simpa [String.toList_eq_nil_iff] using some)]

/-- There are no more steps to follow without them. -/
theorem walkFuel_withoutSlashes_le (tree : FileTree) (path : Path) :
    tree.walkFuel (withoutSlashes path).text ≤ tree.walkFuel path.text := by
  obtain ⟨slashes, split, -⟩ := exists_slashes path
  have length := congrArg List.length split
  rw [List.length_append, String.length_toList, String.length_toList] at length
  rw [walkFuel_eq, walkFuel_eq]
  omega

/-- A directory is made where nothing stood, and its path leads to it. -/
theorem makeDirectory_eq_ok (made : tree.makeDirectory path = .ok after) :
    ∃ place, tree.get? place = none ∧ after = tree.set place .directory ∧
      after.lookup path = .ok (place, .directory) := by
  unfold makeDirectory at made
  simp only at made
  split at made
  · cases made
  · next directory name located =>
    split at made
    · cases made
    · cases made
      have located : tree.locate false (withoutSlashes path) = .ok (.absent directory name) :=
        located
      obtain ⟨named, some, walked⟩ := locate_eq_ok_iff.mp located
      have absent := get?_of_walk walked
      have keeps := keeps_set absent
      obtain ⟨slashes, split, only⟩ := exists_slashes path
      refine ⟨directory ++ [name], absent, rfl, ?_⟩
      rw [lookup_eq_ok_iff, locate_eq_ok_iff, keeps.current, isAbsolute_withoutSlashes some,
        ← steps_withoutSlashes]
      refine ⟨?named, ?some, ?walked⟩
      case named =>
        rw [split, List.mem_append]
        exact not_or.mpr ⟨named, fun slash => absurd (only _ slash) (by decide)⟩
      case some =>
        intro empty
        rw [empty, String.toList_empty, List.nil_eq, List.append_eq_nil_iff] at split
        exact some (String.toList_eq_nil_iff.mp split.1)
      case walked =>
        have shorter : tree.walkFuel (withoutSlashes path).text ≤ _ :=
          Nat.le_trans (walkFuel_withoutSlashes_le tree path) (keeps.walkFuel path.text)
        rw [← Nat.sub_add_cancel shorter]
        exact keeps.walk_eq_absent (linksWithin tree) true _ _ (endsWithSlash_withoutSlashes path)
          (length_steps_lt_walkFuel tree _) walked
          (by rw [get?_set (List.concat_ne_nil _ _), if_pos rfl])
  · cases made

/-- That one tree came out of another one by making directories that paths of a kind lead to: it has
all that the other has, and whatever else it has is such a directory. -/
structure Makes (asked : Path → Prop) (before after : FileTree) : Prop where
  keeps : before.Keeps after
  made {place : Place} {node : Entry} : after.get? place = some node →
    before.get? place = some node ∨
      node = .directory ∧ ∃ path, asked path ∧ after.lookup path = .ok (place, .directory)

namespace Makes

variable {asked few many : Path → Prop}

/-- Nothing has to be made. -/
theorem refl (tree : FileTree) : Makes asked tree tree := ⟨.refl tree, .inl⟩

/-- What is made step by step is made. -/
theorem trans (first : Makes asked before middle) (second : Makes asked middle after) :
    Makes asked before after := by
  refine ⟨first.keeps.trans second.keeps, fun stands => ?_⟩
  rcases second.made stands with stood | made
  · rcases first.made stood with stood | ⟨directory, path, wanted, leads⟩
    · exact .inl stood
    · exact .inr ⟨directory, path, wanted, second.keeps.lookup_eq_ok leads⟩
  · exact .inr made

/-- What is made for some paths is made for more. -/
theorem mono (makes : Makes few before after) (more : ∀ path, few path → many path) :
    Makes many before after := by
  refine ⟨makes.keeps, fun stands => (makes.made stands).imp_right ?_⟩
  rintro ⟨directory, path, wanted, leads⟩
  exact ⟨directory, path, more path wanted, leads⟩

end Makes

/-- A directory that is made is made for its path, and is there. -/
theorem makes_makeDirectory (made : tree.makeDirectory path = .ok after) :
    Makes (· = path) tree after ∧ after.isDirectory path = true := by
  obtain ⟨place, absent, rfl, leads⟩ := makeDirectory_eq_ok made
  have below : place ≠ [] := by
    rintro rfl
    cases absent
  refine ⟨⟨keeps_set absent, fun stands => ?_⟩, by rw [isDirectory, leads]⟩
  rw [get?_set below] at stands
  split at stands
  · next here =>
    subst here
    exact .inr ⟨(Option.some.inj stands).symm, path, rfl, leads⟩
  · exact .inl stands

/-- While it is searched how many parents have to be made, at most one directory is made, for one of
the paths; and if none has to be made behind the first one, that one is there or has no parent. -/
theorem makes_countMissing {paths : List Path} {missing : Nat}
    (counted : tree.countMissing paths = .ok (missing, after)) :
    Makes (· ∈ paths) tree after ∧
      ∀ first ∈ paths.head?, missing = 0 → (first.components = [] ∨ first.parent.isNone = true) ∨
        after.isDirectory first = true := by
  induction paths generalizing missing with
  | nil =>
    cases counted
    exact ⟨.refl tree, nofun⟩
  | cons path rest inductionHypothesis =>
    unfold countMissing at counted
    split at counted
    · next ends =>
      cases counted
      exact ⟨.refl tree, by simp only [List.head?_cons, Option.mem_some_iff, forall_eq', ends,
        true_or, implies_true]⟩
    · split at counted
      · next made =>
        cases counted
        obtain ⟨makes, there⟩ := makes_makeDirectory made
        exact ⟨makes.mono (by simp), by simp [there]⟩
      · split at counted
        · next n middle later =>
          cases counted
          exact ⟨(inductionHypothesis later).1.mono fun _ => List.mem_cons_of_mem path, by simp⟩
        · cases counted
      · split at counted
        · next present =>
          cases counted
          exact ⟨.refl tree, by simp [present.2]⟩
        · cases counted

/-- Directories are made for the paths, and if none of them fails, all are there. -/
theorem makes_makeAll (tree : FileTree) (paths : List Path) :
    Makes (· ∈ paths) tree (tree.makeAll paths).fst ∧
      ((tree.makeAll paths).snd = .ok () →
        ∀ path ∈ paths, (tree.makeAll paths).fst.isDirectory path = true) := by
  induction paths generalizing tree with
  | nil => exact ⟨.refl tree, nofun⟩
  | cons path rest inductionHypothesis =>
    unfold makeAll
    split
    · next middle made =>
      obtain ⟨makes, there⟩ := makes_makeDirectory made
      obtain ⟨later, others⟩ := inductionHypothesis middle
      refine ⟨(makes.mono (by simp)).trans (later.mono fun _ => List.mem_cons_of_mem path), ?_⟩
      exact fun succeeded => List.forall_mem_cons.mpr
        ⟨later.keeps.isDirectory there, others succeeded⟩
    · split
      · next present =>
        obtain ⟨later, others⟩ := inductionHypothesis tree
        refine ⟨later.mono fun _ => List.mem_cons_of_mem path, ?_⟩
        exact fun succeeded => List.forall_mem_cons.mpr
          ⟨later.keeps.isDirectory present.2, others succeeded⟩
      · exact ⟨.refl tree, nofun⟩

/-- Lone dots lead nowhere else. -/
theorem walk_dots {follow slash : Bool} {fuel links : Nat} {at_ : Place} {names : List String}
    (dots : ∀ name ∈ names, name = ".") (enough : names.length < fuel) :
    tree.walk follow slash fuel links at_ names = .ok (.found at_ .directory) := by
  induction names generalizing fuel with
  | nil => exact walk.eq_2 _ _ _ _ _ _ (Nat.ne_zero_of_lt enough)
  | cons name rest inductionHypothesis =>
    obtain ⟨rfl, others⟩ := List.forall_mem_cons.mp dots
    obtain ⟨fuel, rfl⟩ := Nat.exists_eq_succ_of_ne_zero (Nat.ne_zero_of_lt enough)
    exact inductionHypothesis others (Nat.lt_of_succ_lt_succ enough)

/-- A root is there, and it is all that has no parent but for the empty path. -/
theorem isDirectory_of_parent_isNone (tree : FileTree) (some : path.text ≠ "")
    (ends : path.components = [] ∨ path.parent.isNone = true) : tree.isDirectory path = true := by
  obtain ⟨absolute, silent⟩ := Path.root_of_parent_isNone some ends
  have found : tree.lookup path = .ok ([], .directory) := by
    rw [lookup_eq_ok_iff, locate_eq_ok_iff, if_pos absolute]
    -- the text has no characters but slashes and dots, and its steps lead from the root to the root
    refine ⟨fun nul => ?_, some, walk_dots (fun name step => ?_) ?_⟩
    · have other : '\x00' ≠ '/' := by decide
      obtain ⟨piece, split, inside⟩ := exists_mem_splitAll nul other
      obtain rfl | rfl := Path.blank_of_names_eq_nil silent split
      · cases inside
      · exact absurd (List.mem_singleton.mp inside) (by decide)
    · obtain ⟨listed, nonempty⟩ := List.mem_filter.mp step
      obtain ⟨piece, split, rfl⟩ := List.mem_map.mp listed
      obtain rfl | rfl := Path.blank_of_names_eq_nil silent split
      · exact absurd rfl (of_decide_eq_true nonempty)
      · rfl
    · exact Nat.lt_of_le_of_lt (Nat.le_add_right _ _) (length_steps_lt_walkFuel tree path.text)
  rw [isDirectory, found]

/-- The directories that are made are ones that the path or its ancestors lead to. If making them
does not fail, the path leads to a directory, unless it is empty. -/
theorem makes_makeDirectories (tree : FileTree) (path : Path) :
    Makes (· ∈ path.ancestors) tree (tree.makeDirectories path).fst ∧
      ((tree.makeDirectories path).snd = .ok () → path.text ≠ "" →
        (tree.makeDirectories path).fst.isDirectory path = true) := by
  obtain ⟨ups, split⟩ := path.ancestors_eq_cons
  unfold makeDirectories
  split
  · next ends => exact ⟨.refl tree, fun _ some => isDirectory_of_parent_isNone tree some ends⟩
  · next parented =>
    split
    · exact ⟨.refl tree, nofun⟩
    · next missing middle counted =>
      obtain ⟨searched, first⟩ := makes_countMissing counted
      obtain ⟨made, there⟩ := makes_makeAll middle (path.ancestors.take missing).reverse
      refine ⟨searched.trans (made.mono fun up listed => ?_), fun succeeded some => ?_⟩
      · exact List.mem_of_mem_take (List.mem_reverse.mp listed)
      · cases missing with
        | zero =>
          -- nothing is missing behind the path: the search made it, or found it
          rcases first path (by rw [split]; rfl) rfl with ends | present
          · exact absurd ends parented
          · exact made.keeps.isDirectory present
        | succ n => exact there succeeded path (by simp [split])

end MediaNode.FileTree
