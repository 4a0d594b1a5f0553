import MediaNode.Proofs.FileTree
import MediaNode.Proofs.Path

/-!
# Paths into a directory

In a tree whose names are those that a directory can hold (`Regular`), the path of a directory
with such a name joined to it leads to what stands there under that name, through the same links
(`locate_join`). What is opened or removed by such a path is therefore that one thing, if the path
is short enough; and where the path of the directory leads nowhere any more, neither do the paths
that are joined to it.
-/
namespace MediaNode.FileTree

open Text

variable {tree small large : FileTree} {place : Place} {node : Entry} {path : Path} {name : String}

/-- That a directory can hold a name. -/
structure Holds (name : String) : Prop extends Path.IsName name where
  printable : '\x00' ∉ name.toList
  short : name.utf8ByteSize ≤ 255

/-- That a tree has at most one thing at every place, and only names that a directory can hold. -/
structure Regular (tree : FileTree) : Prop where
  distinct : tree.Distinct
  holds : ∀ entry ∈ tree.entries, ∀ name ∈ entry.fst, Holds name

instance (name : String) : Decidable (Holds name) :=
  decidable_of_iff
    ((name ≠ "" ∧ name ≠ "." ∧ name ≠ ".." ∧ '/' ∉ name.toList) ∧ '\x00' ∉ name.toList ∧
      name.utf8ByteSize ≤ 255)
    ⟨fun ⟨⟨nonempty, other, forward, bare⟩, printable, short⟩ =>
      ⟨⟨nonempty, other, forward, bare⟩, printable, short⟩,
    fun ⟨⟨nonempty, other, forward, bare⟩, printable, short⟩ =>
      ⟨⟨nonempty, other, forward, bare⟩, printable, short⟩⟩

instance (tree : FileTree) : Decidable tree.Regular :=
  decidable_of_iff
    ((tree.entries.map Prod.fst).Nodup ∧ ∀ entry ∈ tree.entries, ∀ name ∈ entry.fst, Holds name)
    ⟨fun ⟨distinct, holds⟩ => ⟨distinct, holds⟩, fun ⟨distinct, holds⟩ => ⟨distinct, holds⟩⟩

/-- A directory holds the names under which something stands. -/
theorem Regular.of_get? (regular : tree.Regular)
    (stands : tree.get? (place ++ [name]) = some node) : Holds name :=
  regular.holds _ ((regular.distinct.get?_eq_some_iff (List.concat_ne_nil _ _)).mp stands) name
    (List.mem_append_right _ List.mem_cons_self)

/-- With fewer entries a tree is as regular. -/
theorem PartOf.regular (part : small.PartOf large) (regular : large.Regular) : small.Regular where
  distinct := part.distinct regular.distinct
  holds entry listed := regular.holds entry (part.entries.subset listed)

/-- A name is joined behind a slash, which the path may end with already. -/
theorem exists_join (nonempty : path.text ≠ "") (isName : Path.IsName name) :
    ∃ before, (path.join name).text.toList = before ++ '/' :: name.toList ∧
      (path.text.toList = before ∨ path.text.toList = before ++ ['/']) := by
  unfold Path.join
  rw [if_neg isName.not_isAbsolute]
  by_cases ended : path.text.toList.getLast? = some '/'
  · obtain ⟨before, text⟩ := List.getLast?_eq_some_iff.mp ended
    refine ⟨before, ?_, .inr text⟩
    rw [if_pos (.inr ended), String.toList_append, text, List.append_assoc]
    rfl
  · refine ⟨path.text.toList, ?_, .inl rfl⟩
    rw [if_neg (not_or.mpr ⟨nonempty, ended⟩)]
    simp

/-- The steps behind a slash come after those in front of it. -/
theorem steps_append (before behind : List Char) :
    steps (String.ofList (before ++ '/' :: behind)) =
      steps (String.ofList before) ++ steps (String.ofList behind) := by
  simp only [steps, String.toList_ofList, splitAll_append, List.map_append, List.filter_append]

/-- A name is one step. -/
theorem steps_of_isName (isName : Path.IsName name) : steps name = [name] := by
  rw [steps, splitAll_of_not_mem isName.bare, List.map_singleton, String.ofList_toList,
    List.filter_cons_of_pos (by simpa using isName.nonempty), List.filter_nil]

/-- Joining a name adds a step. -/
theorem steps_join (nonempty : path.text ≠ "") (isName : Path.IsName name) :
    steps (path.join name).text = steps path.text ++ [name] := by
  obtain ⟨before, joined, same⟩ := exists_join nonempty isName
  have front : steps path.text = steps (String.ofList before) := by
    rw [← String.ofList_toList (s := path.text)]
    rcases same with same | same
    · rw [same]
    · rw [same, steps_append]
      exact List.append_nil _
  rw [front, ← String.ofList_toList (s := (path.join name).text), joined, steps_append,
    String.ofList_toList, steps_of_isName isName]

/-- One step from a directory leads to what stands in it. A link stays where it is if links are not
to be followed. -/
theorem walk_name (holds : Holds name) (stands : tree.get? (place ++ [name]) = some node)
    {follow : Bool} (direct : node = .directory ∨ follow = false) {fuel links : Nat}
    (more : fuel ≠ 0) :
    tree.walk follow false (fuel + 1) links place [name] = .ok (.found (place ++ [name]) node) := by
  rw [walk.eq_5 _ _ _ _ _ _ _ _ holds.other holds.forward, if_neg (Nat.not_lt.mpr holds.short)]
  simp only [stands]
  cases node with
  | directory => exact walk.eq_2 _ _ _ _ _ _ more
  | file content modified => rfl
  | link target modified =>
    obtain rfl : follow = false := direct.resolve_left Entry.noConfusion
    rfl

/-- So the way to a directory leads on to what stands in it. -/
theorem walk_concat (holds : Holds name) (stands : tree.get? (place ++ [name]) = some node)
    {follow : Bool} (direct : node = .directory ∨ follow = false) {asked slash : Bool}
    {fuel links : Nat} {at_ : Place} {names : List String}
    (found : tree.walk asked slash fuel links at_ names = .ok (.found place .directory)) :
    tree.walk follow false (fuel + 1) links at_ (names ++ [name]) =
      .ok (.found (place ++ [name]) node) := by
  fun_induction tree.walk asked slash fuel links at_ names
  -- no way to a directory ends for want of steps, or at anything else
  case case1 | case5 | case6 | case7 | case10 | case12 => cases found
  case case9 | case11 => simp at found
  case case2 fuel slash links at_ more =>
    cases found
    exact walk_name holds stands direct more
  case case3 inductionHypothesis => exact inductionHypothesis found
  case case4 inductionHypothesis => exact inductionHypothesis found
  case case8 one two short place stands' inductionHypothesis =>
    rw [List.cons_append, walk_directory one two short stands']
    exact inductionHypothesis found
  case case13 rest one two short place target modified stands' further links start slash
      inductionHypothesis =>
    have inner : (rest ++ [name]).isEmpty = false := by simp
    rw [List.cons_append, walk_link one two short stands' (by simp [inner]), inner,
      ← List.append_assoc]
    exact inductionHypothesis found

/-- A name joined to the path of a directory leads to what stands in it under that name. -/
theorem locate_join (holds : Holds name) (found : tree.lookup path = .ok (place, .directory))
    (stands : tree.get? (place ++ [name]) = some node) {follow : Bool}
    (direct : node = .directory ∨ follow = false) :
    tree.locate follow (path.join name) = .ok (.found (place ++ [name]) node) := by
  obtain ⟨printable, nonempty, walked⟩ := locate_eq_ok_iff.mp (lookup_eq_ok_iff.mp found)
  obtain ⟨before, joined, same⟩ := exists_join nonempty holds.toIsName
  have filled : name.toList ≠ [] := fun none => holds.nonempty (by simpa using none)
  have absolute : (path.join name).isAbsolute = path.isAbsolute := by
    have some : path.text.toList ≠ [] := fun none => nonempty (by simpa using none)
    simp only [Path.isAbsolute, joined]
    rcases same with same | same
    · rw [same, List.head?_append_of_ne_nil _ (same ▸ some)]
    · rw [same, List.append_cons, List.head?_append_of_ne_nil _ (by simp)]
  have slashless : endsWithSlash (path.join name).text = false := by
    rw [endsWithSlash, joined, List.append_cons, List.getLast?_append_of_ne_nil _ filled]
    refine decide_eq_false fun slash => holds.bare (List.mem_of_getLast? slash)
  have longer : tree.walkFuel path.text + 1 ≤ tree.walkFuel (path.join name).text := by
    have further := congrArg List.length joined
    have some := List.length_pos_iff.mpr filled
    rw [walkFuel_eq, walkFuel_eq, ← String.length_toList, ← String.length_toList]
    rw [List.length_append, List.length_cons] at further
    rcases same with same | same
    · rw [same]
      omega
    · rw [same, List.length_append, List.length_singleton]
      omega
  refine locate_eq_ok_iff.mpr ⟨?_, ?_, ?_⟩
  · rw [joined]
    rcases same with same | same <;> simp_all [holds.printable]
  · intro none
    rw [none] at joined
    simp at joined
  · rw [slashless, absolute, steps_join nonempty holds.toIsName]
    have walked := walk_concat holds stands direct walked
    have further := (Keeps.refl tree).walk_eq_found
      (tree.walkFuel (path.join name).text - (tree.walkFuel path.text + 1)) walked
    rwa [Nat.sub_add_cancel longer] at further

/-- That the system takes a path. -/
def Fits (path : Path) : Prop := path.text.utf8ByteSize < maxPath

instance (path : Path) : Decidable (Fits path) := inferInstanceAs (Decidable (_ < _))

/-- Joining a name makes a path longer. -/
theorem utf8ByteSize_join (path : Path) (isName : Path.IsName name) :
    path.text.utf8ByteSize < (path.join name).text.utf8ByteSize := by
  have some : name.utf8ByteSize ≠ 0 := by simpa using isName.nonempty
  rw [Path.join, if_neg isName.not_isAbsolute]
  split <;> simp only [String.utf8ByteSize_append] <;> omega

/-- So the system takes the path of a directory if it takes one that is joined to it. -/
theorem Fits.of_join (fits : Fits (path.join name)) (isName : Path.IsName name) : Fits path :=
  (utf8ByteSize_join path isName).trans fits

/-- It does so if several are joined. -/
theorem Fits.of_foldl_join {names : List String} (fits : Fits (names.foldl Path.join path))
    (all : ∀ name ∈ names, Path.IsName name) : Fits path := by
  induction names generalizing path with
  | nil => exact fits
  | cons name names inductionHypothesis =>
    obtain ⟨isName, others⟩ := List.forall_mem_cons.mp all
    exact (inductionHypothesis fits others).of_join isName

/-- A directory is opened where its path leads, and holds its children. -/
theorem openDirectory_eq_ok_iff {names : List String} :
    tree.openDirectory path = .ok (place, names) ↔
      Fits path ∧ tree.lookup path = .ok (place, .directory) ∧
        names = (tree.children place).map Prod.fst := by
  unfold openDirectory Fits
  split
  · next long => simp [Nat.not_lt.mpr long]
  · next short =>
    simp only [Nat.not_le.mp short, true_and]
    split
    · next there leads =>
      rw [leads]
      constructor
      · rintro ⟨⟩
        exact ⟨rfl, rfl⟩
      · rintro ⟨⟨⟩, rfl⟩
        rfl
    · next other leads =>
      rw [leads]
      simpa using fun same => absurd same (other place)
    · next leads => simp [leads]

/-- What is removed is what a path leads to, no last link followed, if it is no directory. -/
theorem remove_eq_ok_iff {left : FileTree} :
    tree.remove path = .ok left ↔
      Fits path ∧ ∃ place node, tree.locate false path = .ok (.found place node) ∧
        node ≠ .directory ∧ left = tree.erase place := by
  unfold remove Fits
  split
  · next long => simp [Nat.not_lt.mpr long]
  · next short =>
    simp only [Nat.not_le.mp short, true_and]
    split
    · next leads =>
      simp only [leads, reduceCtorEq, false_iff, not_exists]
      rintro _ _ ⟨⟨⟩, solid, -⟩
      exact solid rfl
    · next place node solid leads =>
      rw [leads]
      constructor
      · rintro ⟨⟩
        exact ⟨place, node, rfl, solid, rfl⟩
      · rintro ⟨_, _, ⟨⟩, -, rfl⟩
        rfl
    · next leads => simp [leads]
    · next leads => simp [leads]

/-- A directory in a directory is opened by the joined path, if the path of the outer one still
leads there. -/
theorem lookup_join (holds : Holds name) (found : tree.lookup path = .ok (place, .directory))
    (stands : tree.get? (place ++ [name]) = some .directory) :
    tree.lookup (path.join name) = .ok (place ++ [name], .directory) :=
  lookup_eq_ok_iff.mpr (locate_join holds found stands (.inl rfl))

/-- Anything else is removed by it. -/
theorem remove_join (holds : Holds name) (found : tree.lookup path = .ok (place, .directory))
    (stands : tree.get? (place ++ [name]) = some node) (solid : node ≠ .directory)
    (fits : Fits (path.join name)) :
    tree.remove (path.join name) = .ok (tree.erase (place ++ [name])) :=
  remove_eq_ok_iff.mpr
    ⟨fits, _, _, locate_join holds found stands (.inr rfl), solid, rfl⟩

/-- With fewer entries the joined path removes nothing else. -/
theorem PartOf.remove_join (part : small.PartOf large) (regular : large.Regular)
    (found : large.lookup path = .ok (place, .directory))
    (stands : small.get? (place ++ [name]) = some node) {left : FileTree}
    (removed : small.remove (path.join name) = .ok left) :
    Fits (path.join name) ∧ left = small.erase (place ++ [name]) := by
  have stands := part.get?_eq_some regular.distinct stands
  obtain ⟨fits, other, node', leads, -, rfl⟩ := remove_eq_ok_iff.mp removed
  have there := locate_join (regular.of_get? stands) found stands (.inr rfl)
  rw [(part.keeps regular.distinct).locate_eq_found leads] at there
  obtain ⟨rfl, -⟩ := Location.found.inj (Except.ok.inj there)
  exact ⟨fits, rfl⟩

end MediaNode.FileTree
