import MediaNode.Chunk
import MediaNode.Proofs.FileTree.Joining

/-!
# What removing old chunks removes

A chunk is swept if the way to it from the directory leads through directories alone, if it is old
enough, and if it is no directory itself. Nothing else is ever removed: every directory stays, and
so does everything outside of the directory, where its links may lead. What is removed is told by
the list of its places (`Sheds`), which one visit after the other makes longer.

That a chunk is swept does not say that it is removed. The path that it is removed by may be too
long, and it may lead through a link that was removed before, because the path of the directory
itself does. So whatever is swept by a path that is short enough (`Due`) is gone if the path of the
directory leads there by nothing of that kind (`LeadsTo`), since then it still leads there in what
is left (`gone_of_lookup`).
-/
namespace MediaNode.Chunk

open FileTree (Regular Fits)

variable {files left after : FileTree} {now : Int} {maxAge : Nat} {directory : Path}
  {start place : Place}

/-- That a name has something in front of its last dot and behind it the extension of chunks, its
letters in any case. -/
def IsChunkName (name : String) : Prop :=
  ∃ stem ending : List Char, name.toList = stem ++ '.' :: ending ∧ stem ≠ [] ∧
    ending.map Char.toLower = ['t', 's']

/-- The names of chunks are recognised. -/
theorem isName_iff {name : String} : isName name = true ↔ IsChunkName name := by
  have lower (ending : String) :
      Text.asciiLower ending = "ts" ↔ ending.toList.map Char.toLower = ['t', 's'] :=
    String.ofList_inj
  unfold isName
  constructor
  · intro named
    split at named
    · next ending extension =>
      obtain ⟨stem, rfl, nonempty, -⟩ := Path.nameExtension_eq_some_iff.mp extension
      exact ⟨stem, ending.toList, String.toList_ofList, nonempty,
        (lower ending).mp (of_decide_eq_true named)⟩
    · cases named
  · rintro ⟨stem, ending, whole, nonempty, lowered⟩
    have last : '.' ∉ ending := fun dot => by
      have listed := List.mem_map_of_mem (f := Char.toLower) dot
      rw [lowered] at listed
      simp at listed
    have extension : Path.nameExtension name = some (String.ofList ending) := by
      refine Path.nameExtension_eq_some_iff.mpr ⟨stem, ?_, nonempty, ?_⟩
      · rw [String.toList_ofList, ← whole, String.ofList_toList]
      · rwa [String.toList_ofList]
    rw [extension]
    refine decide_eq_true ((lower _).mpr ?_)
    rwa [String.toList_ofList]

/-- That the way from a place to another one leads through directories alone. -/
inductive Reaches (files : FileTree) : Place → Place → Prop where
  | here (place : Place) : Reaches files place place
  | inside {place directory : Place} {name : String}
      (stands : files.get? (place ++ [name]) = some .directory)
      (reaches : Reaches files (place ++ [name]) directory) : Reaches files place directory

/-- That a chunk stands at a place, so many milliseconds old, on a way through directories alone. -/
inductive Swept (files : FileTree) (now : Int) (maxAge : Nat) (start : Place) : Place → Prop where
  | chunk {directory : Place} {name : String} {entry : Entry}
      (reaches : Reaches files start directory)
      (stands : files.get? (directory ++ [name]) = some entry) (solid : entry ≠ .directory)
      (named : IsChunkName name) (old : maxAge ≤ age now entry) :
      Swept files now maxAge start (directory ++ [name])

/-- Whatever is reached lies behind the start. -/
theorem Reaches.behind (reaches : Reaches files start place) : start <+: place := by
  induction reaches with
  | here => exact List.prefix_rfl
  | inside _ _ inductionHypothesis => exact (List.prefix_append _ _).trans inductionHypothesis

/-- So does whatever is swept. -/
theorem Swept.behind (swept : Swept files now maxAge start place) : start <+: place := by
  cases swept with
  | chunk reaches => exact reaches.behind.trans (List.prefix_append _ _)

/-- The chunks of a subdirectory are swept with those of the directory. -/
theorem Swept.outward {name : String} (stands : files.get? (start ++ [name]) = some .directory)
    (swept : Swept files now maxAge (start ++ [name]) place) :
    Swept files now maxAge start place := by
  cases swept with
  | chunk reaches there solid named old =>
    exact .chunk (.inside stands reaches) there solid named old

/-- Fewer entries have fewer ways. -/
theorem Reaches.mono (reaches : Reaches left start place) (part : left.PartOf files)
    (distinct : files.Distinct) : Reaches files start place := by
  induction reaches with
  | here place => exact .here place
  | inside stands _ inductionHypothesis =>
    exact .inside (part.get?_eq_some distinct stands) inductionHypothesis

/-- So no more is swept among them. -/
theorem Swept.mono (swept : Swept left now maxAge start place) (part : left.PartOf files)
    (distinct : files.Distinct) : Swept files now maxAge start place := by
  cases swept with
  | chunk reaches stands solid named old =>
    exact .chunk (reaches.mono part distinct) (part.get?_eq_some distinct stands) solid named old

/-- The root is never swept, and neither is a directory; but something stands there. -/
theorem Swept.stands (swept : Swept files now maxAge start place) :
    place ≠ [] ∧ ∃ entry, files.get? place = some entry ∧ entry ≠ .directory := by
  cases swept with
  | chunk _ stands solid => exact ⟨List.concat_ne_nil _ _, _, stands, solid⟩

/-- Whatever has no age to reach is swept at any time. -/
theorem Swept.anytime (swept : Swept files now 0 start place) (later : Int) :
    Swept files later 0 start place := by
  cases swept with
  | chunk reaches stands solid named => exact .chunk reaches stands solid named (Nat.zero_le _)

/-- That a chunk is swept by a path that is short enough. -/
structure Due (files : FileTree) (now : Int) (maxAge : Nat) (directory : Path)
    (start place : Place) : Prop where
  swept : Swept files now maxAge start place
  fits : ∃ names, place = start ++ names ∧ Fits (names.foldl Path.join directory)

/-- Fewer entries are due among fewer. -/
theorem Due.mono (due : Due left now maxAge directory start place) (part : left.PartOf files)
    (distinct : files.Distinct) : Due files now maxAge directory start place :=
  ⟨due.swept.mono part distinct, due.fits⟩

/-- What is due in a subdirectory is due in the directory. -/
theorem Due.outward {name : String} (stands : files.get? (start ++ [name]) = some .directory)
    (due : Due files now maxAge (directory.join name) (start ++ [name]) place) :
    Due files now maxAge directory start place := by
  obtain ⟨swept, names, rfl, fits⟩ := due
  exact ⟨swept.outward stands, name :: names, by simp, fits⟩

/-- What is due in a directory stands in it, or is due in a subdirectory. -/
theorem Due.cases (due : Due files now maxAge directory start place) :
    (∃ name entry, place = start ++ [name] ∧ files.get? place = some entry ∧
      entry ≠ .directory ∧ isStale now maxAge name entry = true ∧ Fits (directory.join name)) ∨
    ∃ name, files.get? (start ++ [name]) = some .directory ∧
      Due files now maxAge (directory.join name) (start ++ [name]) place := by
  obtain ⟨swept, names, same, fits⟩ := due
  cases swept with
  | @chunk within name entry reaches stands solid named old =>
    cases reaches with
    | here =>
      obtain rfl : names = [name] := (List.append_cancel_left same).symm
      refine .inl ⟨name, entry, rfl, stands, solid, ?_, fits⟩
      simp [isStale, isName_iff.mpr named, solid, old]
    | @inside _ _ first subdirectory reaches =>
      obtain ⟨others, whole⟩ := reaches.behind.trans (List.prefix_append within [name])
      obtain rfl : names = first :: others := by
        rw [same, List.append_assoc] at whole
        exact (List.append_cancel_left whole).symm
      exact .inr ⟨first, subdirectory, .chunk reaches stands solid named old, others, whole.symm,
        fits⟩

/-- A subdirectory is left to the run through it, -/
theorem visit_directory {inside : FileTree → Path → FileTree × Nat} {name : String}
    (stands : files.get? (start ++ [name]) = some .directory) :
    visit inside now maxAge directory start files name = inside files (directory.join name) := by
  simp only [visit, stands]

/-- and an old chunk is removed if the path of the directory leads there. -/
theorem gone_visit {inside : FileTree → Path → FileTree × Nat} {name : String} {entry : Entry}
    (regular : files.Regular) (found : files.lookup directory = .ok (start, .directory))
    (stands : files.get? (start ++ [name]) = some entry) (solid : entry ≠ .directory)
    (stale : isStale now maxAge name entry = true) (fits : Fits (directory.join name)) :
    (visit inside now maxAge directory start files name).fst.get? (start ++ [name]) = none := by
  have removed := FileTree.remove_join (regular.of_get? stands) found stands solid fits
  have visited : visit inside now maxAge directory start files name =
      (files.erase (start ++ [name]), 1) := by
    unfold visit
    rw [stands]
    cases entry with
    | directory => exact absurd rfl solid
    | file => simp only [stale, if_true, removed]
    | link => simp only [stale, if_true, removed]
  have below : [] ∉ [start ++ [name]] := by simp
  rw [visited]
  exact (FileTree.get?_foldl_erase files below _).trans (if_pos List.mem_cons_self)

/-- What a run has removed, place by place: nothing twice, nothing but what was due. -/
structure Sheds (files : FileTree) (now : Int) (maxAge : Nat) (directory : Path) (start : Place)
    (places : List Place) (run : FileTree × Nat) : Prop where
  nodup : places.Nodup
  due : ∀ place ∈ places, Due files now maxAge directory start place
  left : run.fst = places.foldl FileTree.erase files
  count : run.snd = places.length

namespace Sheds

variable {places more : List Place} {run : FileTree × Nat}

/-- It may have removed nothing. -/
theorem none : Sheds files now maxAge directory start [] (files, 0) :=
  ⟨List.nodup_nil, List.forall_mem_nil _, rfl, rfl⟩

/-- What is left is a part of what there was. -/
theorem partOf (sheds : Sheds files now maxAge directory start places run) :
    run.fst.PartOf files := by
  rw [sheds.left]
  exact FileTree.partOf_foldl_erase files places

/-- Nothing is missing but what was removed. -/
theorem get? (sheds : Sheds files now maxAge directory start places run) (place : Place) :
    run.fst.get? place = if place ∈ places then Option.none else files.get? place := by
  have root : [] ∉ places := fun listed => (sheds.due _ listed).swept.stands.1 rfl
  rw [sheds.left, FileTree.get?_foldl_erase files root]

/-- Every directory stays. -/
theorem get?_directory (sheds : Sheds files now maxAge directory start places run)
    (stands : files.get? place = some .directory) : run.fst.get? place = some .directory := by
  rw [sheds.get?, if_neg, stands]
  intro listed
  obtain ⟨-, entry, there, solid⟩ := (sheds.due _ listed).swept.stands
  exact solid (Option.some.inj (there.symm.trans stands))

/-- What a run removes from what another one left was not removed before. -/
theorem append (sheds : Sheds files now maxAge directory start places run)
    {next : FileTree × Nat} (distinct : files.Distinct)
    (further : Sheds run.fst now maxAge directory start more next) :
    Sheds files now maxAge directory start (places ++ more) (next.fst, run.snd + next.snd) where
  nodup := by
    refine List.nodup_append.mpr ⟨sheds.nodup, further.nodup, ?_⟩
    rintro place before _ again rfl
    obtain ⟨-, entry, stands, -⟩ := (further.due place again).swept.stands
    rw [sheds.get?, if_pos before] at stands
    cases stands
  due place listed := by
    rcases List.mem_append.mp listed with before | again
    · exact sheds.due place before
    · exact (further.due place again).mono sheds.partOf distinct
  left := by rw [List.foldl_append, ← sheds.left, further.left]
  count := by rw [sheds.count, further.count, List.length_append]

/-- What a run through a subdirectory removes is due in the directory. -/
theorem outward {name : String} (stands : files.get? (start ++ [name]) = some .directory)
    (sheds : Sheds files now maxAge (directory.join name) (start ++ [name]) places run) :
    Sheds files now maxAge directory start places run :=
  ⟨sheds.nodup, fun place listed => (sheds.due place listed).outward stands, sheds.left, sheds.count⟩

end Sheds

/-- One visit removes only what is due, if that is all that is removed from subdirectories. It is
made in what is left of the tree in which the directory was opened. -/
theorem exists_sheds_visit {inside : FileTree → Path → FileTree × Nat}
    (regular : files.Regular) (found : files.lookup directory = .ok (start, .directory))
    (part : left.PartOf files)
    (sheds : ∀ {inner : Path} {below : Place}, files.lookup inner = .ok (below, .directory) →
      ∃ places, Sheds left now maxAge inner below places (inside left inner)) (name : String) :
    ∃ places, Sheds left now maxAge directory start places
      (visit inside now maxAge directory start left name) := by
  unfold visit
  split
  · exact ⟨[], .none⟩
  · next stands =>
    have before := part.get?_eq_some regular.distinct stands
    obtain ⟨places, sheds⟩ :=
      sheds (FileTree.lookup_join (regular.of_get? before) found before)
    exact ⟨places, sheds.outward stands⟩
  · next entry solid stands =>
    split
    · next stale =>
      split
      · next left' removed =>
        obtain ⟨fits, rfl⟩ := part.remove_join regular found stands removed
        simp only [isStale, Bool.and_eq_true, decide_eq_true_eq] at stale
        have swept : Swept left now maxAge start (start ++ [name]) :=
          .chunk (.here start) stands solid (isName_iff.mp stale.1.2) stale.2
        refine ⟨[start ++ [name]], List.nodup_singleton _, ?_, rfl, rfl⟩
        exact List.forall_mem_singleton.mpr ⟨swept, [name], rfl, fits⟩
      · exact ⟨[], .none⟩
    · exact ⟨[], .none⟩

/-- So do several visits. -/
theorem exists_sheds_visitAll {visit : FileTree → String → FileTree × Nat}
    (distinct : files.Distinct)
    (sheds : ∀ left name, left.PartOf files → ∃ places,
      Sheds left now maxAge directory start places (visit left name))
    (part : left.PartOf files) (names : List String) :
    ∃ places, Sheds left now maxAge directory start places (visitAll visit left names) := by
  induction names generalizing left with
  | nil => exact ⟨[], .none⟩
  | cons name names inductionHypothesis =>
    obtain ⟨places, first⟩ := sheds left name part
    obtain ⟨more, others⟩ := inductionHypothesis (first.partOf.trans part)
    exact ⟨places ++ more, first.append (part.distinct distinct) others⟩

/-- A run through a directory removes only what is due. -/
theorem exists_sheds_sweep (fuel : Nat) (regular : files.Regular)
    (found : files.lookup directory = .ok (start, .directory)) (part : left.PartOf files) :
    ∃ places, Sheds left now maxAge directory start places
      (sweep now maxAge fuel left directory) := by
  induction fuel generalizing files left directory start with
  | zero => exact ⟨[], .none⟩
  | succ fuel inductionHypothesis =>
    unfold sweep
    split
    · exact ⟨[], .none⟩
    · next place names opened =>
      obtain ⟨-, leads, -⟩ := FileTree.openDirectory_eq_ok_iff.mp opened
      obtain rfl : place = start := by
        have same := (part.lookup_eq_ok regular.distinct leads).symm.trans found
        exact (Prod.mk.inj (Except.ok.inj same)).1
      have regular := part.regular regular
      refine exists_sheds_visitAll regular.distinct (fun later name part => ?_) (.refl left) names
      exact exists_sheds_visit regular leads part (fun inner => inductionHypothesis regular inner part)
        name

/-- That a tree is what is left of another one with all its directories. -/
structure Leaves (files left : FileTree) : Prop where
  part : left.PartOf files
  directory {place : Place} : files.get? place = some .directory → left.get? place = some .directory

namespace Leaves

/-- A tree is left as it is. -/
theorem refl (files : FileTree) : Leaves files files := ⟨.refl files, id⟩

/-- What is left of what is left. -/
theorem trans (first : Leaves files left) (second : Leaves left after) : Leaves files after :=
  ⟨second.part.trans first.part, second.directory ∘ first.directory⟩

/-- What is gone does not come back. -/
theorem get?_eq_none (leaves : Leaves files left) (distinct : files.Distinct)
    (gone : files.get? place = none) : left.get? place = none := by
  cases stands : left.get? place with
  | none => rfl
  | some entry =>
    rw [leaves.part.get?_eq_some distinct stands] at gone
    cases gone

/-- The ways through directories are left. -/
theorem reaches (leaves : Leaves files left) (reaches : Reaches files start place) :
    Reaches left start place := by
  induction reaches with
  | here place => exact .here place
  | inside stands _ inductionHypothesis => exact .inside (leaves.directory stands) inductionHypothesis

/-- So whatever was due and still stands is still due. -/
theorem due (leaves : Leaves files left) (distinct : files.Distinct) {entry : Entry}
    (stands : left.get? place = some entry) (due : Due files now maxAge directory start place) :
    Due left now maxAge directory start place := by
  refine ⟨?_, due.fits⟩
  have stood := leaves.part.get?_eq_some distinct stands
  cases due.swept with
  | chunk reaches there solid named old =>
    obtain rfl := Option.some.inj (there.symm.trans stood)
    exact .chunk (leaves.reaches reaches) stands solid named old

end Leaves

/-- A run leaves every directory. -/
theorem Sheds.leaves {places : List Place} {run : FileTree × Nat}
    (sheds : Sheds files now maxAge directory start places run) : Leaves files run.fst :=
  ⟨sheds.partOf, sheds.get?_directory⟩

/-- A run removes nothing where there is no directory to be opened. -/
theorem sweep_of_lookup (fuel : Nat)
    (missing : ∀ start, files.lookup directory ≠ .ok (start, .directory)) :
    sweep now maxAge fuel files directory = (files, 0) := by
  cases fuel with
  | zero => rfl
  | succ fuel =>
    unfold sweep
    split
    · rfl
    · next place names opened =>
      exact absurd (FileTree.openDirectory_eq_ok_iff.mp opened).2.1 (missing place)

/-- So it leaves every directory in any case. -/
theorem leaves_sweep (regular : files.Regular) (now : Int) (maxAge fuel : Nat) (directory : Path) :
    Leaves files (sweep now maxAge fuel files directory).fst := by
  by_cases found : ∃ start, files.lookup directory = .ok (start, .directory)
  · obtain ⟨start, found⟩ := found
    obtain ⟨places, sheds⟩ := exists_sheds_sweep fuel regular found (.refl files)
    exact sheds.leaves
  · rw [sweep_of_lookup fuel (not_exists.mp found)]
    exact .refl files

/-- Among several visits there is one to each of the names. -/
theorem exists_visit {visit : FileTree → String → FileTree × Nat}
    (visits : ∀ left name, Leaves files left → Leaves left (visit left name).fst)
    (leaves : Leaves files left) {names : List String} {name : String} (listed : name ∈ names) :
    ∃ before, Leaves left before ∧
      Leaves (visit before name).fst (visitAll visit left names).fst := by
  have rest (left : FileTree) (leaves : Leaves files left) (names : List String) :
      Leaves left (visitAll visit left names).fst := by
    induction names generalizing left with
    | nil => exact .refl left
    | cons name names inductionHypothesis =>
      have first := visits left name leaves
      exact first.trans (inductionHypothesis _ (leaves.trans first))
  induction names generalizing left with
  | nil => cases listed
  | cons first names inductionHypothesis =>
    have visited := visits left first leaves
    rcases List.mem_cons.mp listed with rfl | later
    · exact ⟨left, .refl left, rest _ (leaves.trans visited) names⟩
    · obtain ⟨before, earlier, others⟩ := inductionHypothesis (leaves.trans visited) later
      exact ⟨before, visited.trans earlier, others⟩

/-- The entries of a tree lie no deeper than its depth. -/
theorem length_le_depth {entry : Place × Entry} (listed : entry ∈ files.entries) :
    entry.fst.length ≤ depth files := by
  have le : [entry].foldl (fun deepest other => max deepest other.fst.length) 0 ≤ depth files :=
    FileTree.foldl_le_foldl (fun n entry => Nat.le_max_left ..) (fun n m entry le => by omega)
      (List.singleton_sublist.mpr listed) (Nat.le_refl 0)
  exact Nat.le_trans (Nat.le_max_right ..) le

/-- What stands one name behind a place lies within the depth of the tree. -/
theorem length_lt_depth (distinct : files.Distinct) {name : String} {entry : Entry}
    (stands : files.get? (place ++ [name]) = some entry) : place.length < depth files := by
  have listed := (distinct.get?_eq_some_iff (List.concat_ne_nil _ _)).mp stands
  have le := length_le_depth listed
  rwa [List.length_append] at le

/-- What is left of a tree is no deeper. -/
theorem depth_le (part : left.PartOf files) : depth left ≤ depth files :=
  FileTree.foldl_le_foldl (fun n entry => Nat.le_max_left ..) (fun n m entry le => by omega)
    part.entries (Nat.le_refl 0)

/-- The system takes the path of a directory in which something is due. -/
theorem Due.fits_directory (due : Due files now maxAge directory start place)
    (regular : files.Regular) : Fits directory := by
  obtain ⟨swept, names, rfl, fits⟩ := due
  obtain ⟨below, entry, stands, -⟩ := swept.stands
  have listed := (regular.distinct.get?_eq_some_iff below).mp stands
  exact fits.of_foldl_join fun name here =>
    (regular.holds _ listed name (List.mem_append_right start here)).toIsName

/-- A run through a directory visits whatever stands there, in what is left of the tree by then. -/
theorem exists_visit_sweep (fuel : Nat) (regular : files.Regular) (fits : Fits directory)
    (leads : files.lookup directory = .ok (start, .directory)) {name : String} {entry : Entry}
    (stands : files.get? (start ++ [name]) = some entry) :
    ∃ before, Leaves files before ∧
      Leaves before (visit (sweep now maxAge fuel) now maxAge directory start before name).fst ∧
      Leaves (visit (sweep now maxAge fuel) now maxAge directory start before name).fst
        (sweep now maxAge (fuel + 1) files directory).fst := by
  have opened := FileTree.openDirectory_eq_ok_iff.mpr ⟨fits, leads, rfl⟩
  have listed : name ∈ (files.children start).map Prod.fst :=
    List.mem_map_of_mem (regular.distinct.mem_children_iff.mpr stands)
  have visits (later : FileTree) (name : String) (leaves : Leaves files later) :
      Leaves later (visit (sweep now maxAge fuel) now maxAge directory start later name).fst := by
    obtain ⟨places, sheds⟩ := exists_sheds_visit regular leads leaves.part
      (fun inner => exists_sheds_sweep fuel regular inner leaves.part) name
    exact sheds.leaves
  obtain ⟨before, earlier, later⟩ := exists_visit visits (.refl files) listed
  rw [sweep, opened]
  exact ⟨before, earlier, visits before name earlier, later⟩

/-- Whatever is due is gone if the path of the directory still leads there in what is left. For it
then led there all along, and the paths that are joined to it to what they were joined for. -/
theorem gone_of_lookup {fuel : Nat} (regular : files.Regular)
    (deep : depth files < start.length + fuel)
    (found : (sweep now maxAge fuel files directory).fst.lookup directory = .ok (start, .directory))
    (due : Due files now maxAge directory start place) :
    (sweep now maxAge fuel files directory).fst.get? place = none := by
  induction fuel generalizing files directory start with
  | zero =>
    obtain ⟨name, entry, rfl, stands, -⟩ | ⟨name, stands, -⟩ := due.cases
    all_goals
      have bound := length_lt_depth regular.distinct stands
      omega
  | succ fuel inductionHypothesis =>
    have fits := due.fits_directory regular
    have leads := (leaves_sweep regular now maxAge (fuel + 1) directory).part.lookup_eq_ok
      regular.distinct found
    obtain ⟨name, entry, rfl, stands, solid, stale, short⟩ | ⟨name, subdirectory, inner⟩ := due.cases
    · obtain ⟨before, earlier, during, later⟩ := exists_visit_sweep fuel regular fits leads stands
      have stillRegular := earlier.part.regular regular
      refine later.get?_eq_none (during.part.distinct stillRegular.distinct) ?_
      cases still : before.get? (start ++ [name]) with
      | none => exact during.get?_eq_none stillRegular.distinct still
      | some other =>
        obtain rfl : other = entry := by
          have stood := earlier.part.get?_eq_some regular.distinct still
          exact Option.some.inj (stood.symm.trans stands)
        have whole := (during.trans later).part.lookup_eq_ok stillRegular.distinct found
        exact gone_visit stillRegular whole still solid stale short
    · obtain ⟨before, earlier, during, later⟩ :=
        exists_visit_sweep fuel regular fits leads subdirectory
      have distinct := earlier.part.distinct regular.distinct
      refine later.get?_eq_none (during.part.distinct distinct) ?_
      cases still : before.get? place with
      | none => exact during.get?_eq_none distinct still
      | some other =>
        rw [visit_directory (earlier.directory subdirectory)] at during later ⊢
        -- the path of the subdirectory leads there as long as that of the directory does
        have whole := later.part.lookup_eq_ok (during.part.distinct distinct) found
        have leadsInside := FileTree.lookup_join (regular.of_get? subdirectory) whole
          (during.directory (earlier.directory subdirectory))
        refine inductionHypothesis (earlier.part.regular regular) ?_ leadsInside
          (earlier.due regular.distinct still inner)
        have shallower := depth_le earlier.part
        rw [List.length_append, List.length_singleton]
        omega

/-- That the path of a directory leads there by nothing that is due: it does so in a part of the
tree where none of that stands. -/
def LeadsTo (files : FileTree) (now : Int) (maxAge : Nat) (directory : Path) (start : Place) : Prop :=
  ∃ way : FileTree, way.PartOf files ∧ way.lookup directory = .ok (start, .directory) ∧
    ∀ place, Due files now maxAge directory start place → way.get? place = none

/-- In the whole tree it leads there as well, -/
theorem LeadsTo.found (leads : LeadsTo files now maxAge directory start)
    (distinct : files.Distinct) : files.lookup directory = .ok (start, .directory) := by
  obtain ⟨way, part, found, -⟩ := leads
  exact part.lookup_eq_ok distinct found

/-- and in what is left of it. -/
theorem LeadsTo.lookup (leads : LeadsTo files now maxAge directory start)
    (distinct : files.Distinct) {places : List Place} {run : FileTree × Nat}
    (sheds : Sheds files now maxAge directory start places run) :
    run.fst.lookup directory = .ok (start, .directory) := by
  obtain ⟨way, part, found, none⟩ := leads
  have kept (entry : Place × Entry) (listed : entry ∈ way.entries) : entry.fst ∉ places := by
    intro removed
    have due := sheds.due _ removed
    have stands := ((part.distinct distinct).get?_eq_some_iff due.swept.stands.1).mpr listed
    rw [none _ due] at stands
    cases stands
  have within : way.PartOf run.fst := by
    rw [sheds.left, FileTree.foldl_erase]
    refine ⟨?_, part.current⟩
    rw [← List.filter_eq_self.mpr fun entry listed => decide_eq_true (kept entry listed)]
    exact part.entries.filter _
  exact within.lookup_eq_ok (sheds.partOf.distinct distinct) found

/-- What a run removes is listed, if there is a directory. -/
theorem exists_sheds_removeStale (regular : files.Regular) (now : Int) (maxAge : Nat)
    (found : files.lookup directory = .ok (start, .directory)) :
    ∃ places, Sheds files now maxAge directory start places
      (removeStale files now maxAge directory) :=
  exists_sheds_sweep _ regular found (.refl files)

/-- A run leaves every directory. -/
theorem leaves_removeStale (regular : files.Regular) (now : Int) (maxAge : Nat) (directory : Path) :
    Leaves files (removeStale files now maxAge directory).fst :=
  leaves_sweep regular now maxAge _ directory

/-- Where there is no directory nothing is removed. -/
theorem removeStale_of_lookup (now : Int) (maxAge : Nat)
    (missing : ∀ start, files.lookup directory ≠ .ok (start, .directory)) :
    removeStale files now maxAge directory = (files, 0) :=
  sweep_of_lookup _ missing

/-- Whatever is due is gone if the path of the directory leads there in what is left. -/
theorem gone_removeStale (regular : files.Regular)
    (found : (removeStale files now maxAge directory).fst.lookup directory =
      .ok (start, .directory))
    (due : Due files now maxAge directory start place) :
    (removeStale files now maxAge directory).fst.get? place = none :=
  gone_of_lookup regular (by omega) found due

/-- So removing again removes nothing. -/
theorem removeStale_again (regular : files.Regular) (now : Int) (maxAge : Nat) (directory : Path) :
    removeStale (removeStale files now maxAge directory).fst now maxAge directory =
      ((removeStale files now maxAge directory).fst, 0) := by
  have part := (leaves_removeStale regular now maxAge directory).part
  by_cases found : ∃ start,
      (removeStale files now maxAge directory).fst.lookup directory = .ok (start, .directory)
  · obtain ⟨start, found⟩ := found
    obtain ⟨places, sheds⟩ := exists_sheds_removeStale (part.regular regular) now maxAge found
    -- whatever was still due would have been removed before
    obtain rfl : places = [] := by
      refine List.eq_nil_iff_forall_not_mem.mpr fun place listed => ?_
      have due := sheds.due place listed
      obtain ⟨-, entry, stands, -⟩ := due.swept.stands
      rw [gone_removeStale regular found (due.mono part regular.distinct)] at stands
      cases stands
    exact Prod.ext sheds.left sheds.count
  · exact removeStale_of_lookup now maxAge (not_exists.mp found)

/-- What removing old chunks does to a tree, and what it counts. -/
structure Removal (files : FileTree) (now : Int) (maxAge : Nat) (directory : Path)
    (after : FileTree) (removed : Nat) : Prop where
  /-- Whatever is due is gone, if the path of the directory leads there by nothing that is due. -/
  gone : ∀ start, LeadsTo files now maxAge directory start →
    ∀ place, Due files now maxAge directory start place → after.get? place = none
  /-- It is counted then, each of it once. -/
  counted : ∀ start, LeadsTo files now maxAge directory start →
    ∃ places : List Place, places.Nodup ∧ places.length = removed ∧
      ∀ place, place ∈ places ↔ Due files now maxAge directory start place
  /-- With no age to reach nothing is due any more, whatever the time. -/
  exhausted : maxAge = 0 → ∀ start, LeadsTo files now maxAge directory start →
    ∀ later place, ¬ Due after later 0 directory start place
  /-- By whatever links the path leads there, everything else is as it was, -/
  kept : ∀ start, files.lookup directory = .ok (start, .directory) →
    ∀ place, ¬ Due files now maxAge directory start place → after.get? place = files.get? place
  /-- such as everything outside of the directory, -/
  outside : ∀ start, files.lookup directory = .ok (start, .directory) →
    ∀ place, ¬ start <+: place → after.get? place = files.get? place
  /-- and every directory. -/
  directories : ∀ place, files.get? place = some .directory → after.get? place = some .directory
  /-- What is counted is always what is missing. -/
  missing : ∃ places : List Place, places.Nodup ∧ places.length = removed ∧
    ∀ place, place ∈ places ↔ files.get? place ≠ none ∧ after.get? place = none
  /-- Where the path leads to no directory, nothing is. -/
  nowhere : (∀ start, files.lookup directory ≠ .ok (start, .directory)) →
    after = files ∧ removed = 0
  regular : after.Regular
  current : after.current = files.current
  /-- Removing again removes nothing. -/
  again : removeStale after now maxAge directory = (after, 0)

/-- Removing old chunks removes nothing but what is due, which is what is swept by a path that is
short enough, and counts it. It is all removed if the path of the directory itself leads there by
nothing that is due. -/
theorem removeStale_removes (regular : files.Regular) (now : Int) (maxAge : Nat)
    (directory : Path) :
    Removal files now maxAge directory (removeStale files now maxAge directory).fst
      (removeStale files now maxAge directory).snd := by
  have leaves := leaves_removeStale regular now maxAge directory
  have gone (start : Place) (leads : LeadsTo files now maxAge directory start) (place : Place)
      (due : Due files now maxAge directory start place) :
      (removeStale files now maxAge directory).fst.get? place = none := by
    obtain ⟨places, sheds⟩ :=
      exists_sheds_removeStale regular now maxAge (leads.found regular.distinct)
    exact gone_removeStale regular (leads.lookup regular.distinct sheds) due
  have kept (start : Place) (found : files.lookup directory = .ok (start, .directory))
      (place : Place) (spared : ¬ Due files now maxAge directory start place) :
      (removeStale files now maxAge directory).fst.get? place = files.get? place := by
    obtain ⟨places, sheds⟩ := exists_sheds_removeStale regular now maxAge found
    rw [sheds.get?, if_neg fun listed => spared (sheds.due place listed)]
  refine {
    gone
    counted := fun start leads => ?_
    exhausted := ?_
    kept
    outside := fun start found place outside =>
      kept start found place fun due => outside due.swept.behind
    directories := fun place => leaves.directory
    missing := ?_
    nowhere := fun missing => Prod.mk.inj (removeStale_of_lookup now maxAge missing)
    regular := leaves.part.regular regular
    current := leaves.part.current
    again := removeStale_again regular now maxAge directory }
  · obtain ⟨places, sheds⟩ :=
      exists_sheds_removeStale regular now maxAge (leads.found regular.distinct)
    refine ⟨places, sheds.nodup, sheds.count.symm, fun place => ⟨sheds.due place, fun due => ?_⟩⟩
    by_contra other
    obtain ⟨-, entry, stands, -⟩ := due.swept.stands
    have removed := gone start leads place due
    rw [sheds.get?, if_neg other, stands] at removed
    cases removed
  · rintro rfl start leads later place ⟨swept, fits⟩
    have due : Due files now 0 directory start place :=
      ⟨(swept.anytime now).mono leaves.part regular.distinct, fits⟩
    obtain ⟨-, entry, stands, -⟩ := swept.stands
    rw [gone start leads place due] at stands
    cases stands
  · by_cases found : ∃ start, files.lookup directory = .ok (start, .directory)
    · obtain ⟨start, found⟩ := found
      obtain ⟨places, sheds⟩ := exists_sheds_removeStale regular now maxAge found
      refine ⟨places, sheds.nodup, sheds.count.symm, fun place => ?_⟩
      rw [sheds.get?]
      constructor
      · intro listed
        obtain ⟨-, entry, stands, -⟩ := (sheds.due place listed).swept.stands
        exact ⟨by simp [stands], if_pos listed⟩
      · rintro ⟨stood, removed⟩
        by_contra other
        rw [if_neg other] at removed
        exact stood removed
    · rw [removeStale_of_lookup now maxAge (not_exists.mp found)]
      exact ⟨[], List.nodup_nil, rfl, fun place => by simp⟩

/-- A directory with a chunk, a link with the name of one, a file that is changed later, one without
a name in front of its extension, and a subdirectory; the link leads to another directory. -/
def mixedTree : FileTree where
  entries :=
    [(["d"], .directory), (["d", "a.TS"], .file [] 0), (["d", "l.ts"], .link "/e" (some 0)),
      (["d", "new.ts"], .file [] 5000), (["d", ".ts"], .file [] 0), (["d", "s"], .directory),
      (["d", "s", "b.Ts"], .file [] 500), (["e"], .directory), (["e", "c.ts"], .file [] 0)]
  current := []

/-- The link is removed, and what it leads to is not. -/
theorem removeStale_removes_mixedTree :
    mixedTree.Regular ∧ LeadsTo mixedTree 1000 500 ⟨"/d"⟩ ["d"] ∧
      ∃ after, removeStale mixedTree 1000 500 ⟨"/d"⟩ = (after, 3) ∧
        after.get? ["d", "l.ts"] = none ∧ after.get? ["d", "s", "b.Ts"] = none ∧
        after.get? ["e", "c.ts"] = some (.file [] 0) ∧
        after.get? ["d", "s"] = some .directory ∧
        removeStale after 1000 500 ⟨"/d"⟩ = (after, 0) := by
  have regular : mixedTree.Regular := by decide +kernel
  have leads : LeadsTo mixedTree 1000 500 ⟨"/d"⟩ ["d"] := by
    refine ⟨{ entries := [(["d"], .directory)], current := [] }, ⟨by simp [mixedTree], rfl⟩,
      by decide +kernel, fun place due => ?_⟩
    obtain ⟨below, entry, stands, solid⟩ := due.swept.stands
    have other : place ≠ ["d"] := by
      rintro rfl
      exact solid (Option.some.inj (stands.symm.trans (by decide)))
    simp [FileTree.get?, below, Ne.symm other]
  have removal := removeStale_removes regular 1000 500 ⟨"/d"⟩
  have count : (removeStale mixedTree 1000 500 ⟨"/d"⟩).snd = 3 := by decide +kernel
  have link : mixedTree.get? (["d"] ++ ["l.ts"]) = some (.link "/e" (some 0)) := by decide
  have subdirectory : mixedTree.get? (["d"] ++ ["s"]) = some .directory := by decide
  have inside : mixedTree.get? (["d", "s"] ++ ["b.Ts"]) = some (.file [] 500) := by decide
  have linkSwept : Swept mixedTree 1000 500 ["d"] ["d", "l.ts"] :=
    .chunk (.here _) link (by decide) ⟨['l'], ['t', 's'], by decide⟩ (by decide)
  have insideSwept : Swept mixedTree 1000 500 ["d"] ["d", "s", "b.Ts"] :=
    .chunk (.inside subdirectory (.here _)) inside (by decide) ⟨['b'], ['T', 's'], by decide⟩
      (by decide)
  exact ⟨regular, leads, _, Prod.ext rfl count,
    removal.gone _ leads _ ⟨linkSwept, ["l.ts"], rfl, by decide +kernel⟩,
    removal.gone _ leads _ ⟨insideSwept, ["s", "b.Ts"], rfl, by decide +kernel⟩,
    removal.outside _ (leads.found regular.distinct) _ (by decide),
    removal.directories _ subdirectory, removal.again⟩

/-- A directory with a subdirectory, which holds a chunk. -/
def nested : FileTree where
  entries := [(["d"], .directory), (["d", "s"], .directory), (["d", "s", "x.ts"], .file [] 0)]
  current := []

/-- The same with a link to the directory that has the name of a chunk. -/
def looped : FileTree where
  entries := (["d", "l.ts"], .link "/d" (some 0)) :: nested.entries
  current := []

/-- Slashes at the end of its path make no difference to where the directory is. -/
theorem lookup_nested (slashes : Nat) :
    nested.lookup ⟨String.ofList (['/', 'd'] ++ List.replicate slashes '/')⟩ =
      .ok (["d"], .directory) := by
  have steps : FileTree.steps (String.ofList (['/', 'd'] ++ List.replicate slashes '/')) = ["d"] := by
    induction slashes with
    | zero => decide +kernel
    | succ slashes inductionHypothesis =>
      rw [List.replicate_succ', ← List.append_assoc, FileTree.steps_append, inductionHypothesis]
      rfl
  have absolute :
      Path.isAbsolute ⟨String.ofList (['/', 'd'] ++ List.replicate slashes '/')⟩ = true := by
    simp [Path.isAbsolute]
  refine FileTree.lookup_eq_ok_iff.mpr (FileTree.locate_eq_ok_iff.mpr ⟨by simp, by simp, ?_⟩)
  rw [steps, if_pos absolute, FileTree.walkFuel_eq, Nat.add_right_comm,
    FileTree.walk_directory (by decide) (by decide) (by decide) (by decide)]
  exact FileTree.walk.eq_2 _ _ _ _ _ _ (Nat.succ_ne_zero _)

/-- Every slash is a byte. -/
theorem utf8ByteSize_slashes (slashes : Nat) :
    (String.ofList (['/', 'd'] ++ List.replicate slashes '/')).utf8ByteSize = slashes + 2 := by
  induction slashes with
  | zero => decide +kernel
  | succ slashes inductionHypothesis =>
    rw [List.replicate_succ', ← List.append_assoc, String.ofList_append, String.utf8ByteSize_append,
      inductionHypothesis]
    rfl

/-- Not everything that is swept is removed. The path of a directory may lead there through a link
that has the name of a chunk, and once that is removed none of the subdirectories can be opened; nor
can they if the path of the directory is as long as it may be. -/
theorem not_every_chunk_removed :
    let long : Path := ⟨String.ofList (['/', 'd'] ++ List.replicate 4093 '/')⟩
    (looped.Regular ∧ looped.lookup ⟨"/d/l.ts"⟩ = .ok (["d"], .directory) ∧
      Swept looped 1000 0 ["d"] ["d", "s", "x.ts"] ∧
      ∃ after, removeStale looped 1000 0 ⟨"/d/l.ts"⟩ = (after, 1) ∧
        after.get? ["d", "s", "x.ts"] = some (.file [] 0)) ∧
    (nested.Regular ∧ nested.lookup long = .ok (["d"], .directory) ∧
      Swept nested 1000 0 ["d"] ["d", "s", "x.ts"] ∧
      removeStale nested 1000 0 long = (nested, 0)) := by
  intro long
  have subdirectory : nested.get? (["d"] ++ ["s"]) = some .directory := by decide
  have inside : nested.get? (["d", "s"] ++ ["x.ts"]) = some (.file [] 0) := by decide
  have nestedSwept : Swept nested 1000 0 ["d"] ["d", "s", "x.ts"] :=
    .chunk (.inside subdirectory (.here _)) inside (by decide) ⟨['x'], ['t', 's'], by decide⟩
      (by decide)
  have loopedRegular : looped.Regular := by decide +kernel
  have loopedSwept : Swept looped 1000 0 ["d"] ["d", "s", "x.ts"] :=
    nestedSwept.mono ⟨List.sublist_cons_self _ _, rfl⟩ loopedRegular.distinct
  have regular : nested.Regular := by decide +kernel
  refine ⟨⟨loopedRegular, by decide +kernel, loopedSwept, _, Prod.ext rfl (by decide +kernel),
    by decide +kernel⟩, regular, lookup_nested 4093, nestedSwept, ?_⟩
  obtain ⟨places, sheds⟩ := exists_sheds_removeStale regular 1000 0 (lookup_nested 4093)
  have size : long.text.utf8ByteSize = 4095 := utf8ByteSize_slashes 4093
  -- nothing that is joined to such a path is short enough
  have tooLong {name : String} {entry : Entry} (stands : nested.get? (["d"] ++ [name]) = some entry) :
      ¬ Fits (long.join name) := by
    have longer := FileTree.utf8ByteSize_join long (regular.of_get? stands).toIsName
    rw [size] at longer
    exact Nat.not_lt.mpr longer
  obtain rfl : places = [] := by
    refine List.eq_nil_iff_forall_not_mem.mpr fun place listed => ?_
    obtain ⟨name, entry, rfl, stands, -, -, fits⟩ | ⟨name, stands, due⟩ :=
      (sheds.due place listed).cases
    · exact tooLong stands fits
    · exact tooLong stands (due.fits_directory regular)
  exact Prod.ext sheds.left sheds.count

end MediaNode.Chunk
