import MediaNode.Path
import MediaNode.Proofs.Text.Lines
import Mathlib.Data.List.Basic

/-!
# The components of a path

The components of a path are what its opening says, its root or a leading dot, and then its
names; slashes and lone dots behind the opening say nothing. So the parent of a path, which is
cut out of the text, is the path without its last component, however the text is written.
-/
namespace MediaNode.Path

open Text

/-- The path with these characters. -/
def ofChars (text : List Char) : Path := ⟨String.ofList text⟩

/-- What the pieces of a text say behind the opening. -/
def names (text : List Char) : List Component :=
  ((splitAll '/' text).map String.ofList).filterMap pieceComponent

/-- What the beginning of a text says. -/
def opening (text : List Char) : List Component :=
  if text.head? = some '/' then [.root]
  else if (splitAll '/' text).head? = some ['.'] then [.current]
  else []

/-- When the first piece of a path is a dot, so is that of its text. -/
theorem splitAll_of_pieces {path : Path} {rest : List String} (split : path.pieces = "." :: rest) :
    ∃ later, splitAll '/' path.text.toList = ['.'] :: later ∧ rest = later.map String.ofList := by
  obtain ⟨piece, later, pieces, dot, rfl⟩ := List.map_eq_cons_iff.mp split
  refine ⟨later, ?_, rfl⟩
  rw [pieces, ← String.toList_ofList (l := piece), dot]
  rfl

/-- A path consists of its opening and its names. -/
theorem components_ofChars (text : List Char) :
    (ofChars text).components = opening text ++ names text := by
  have chars : (ofChars text).text.toList = text := String.toList_ofList
  have all : (ofChars text).pieces = (splitAll '/' text).map String.ofList := by
    rw [pieces, chars]
  unfold components opening names
  simp only [isAbsolute, chars, decide_eq_true_eq, ← all]
  split
  · rfl
  · split
    · next rest split =>
      obtain ⟨later, pieces, -⟩ := splitAll_of_pieces split
      rw [chars] at pieces
      rw [split, pieces]
      rfl
    · next other =>
      have nothing : (splitAll '/' text).head? ≠ some ['.'] := by
        intro dot
        obtain ⟨later, split⟩ := List.head?_eq_some_iff.mp dot
        exact other (later.map String.ofList) (by rw [all, split]; rfl)
      rw [if_neg nothing, List.nil_append]

/-- The characters of a path make it again. -/
theorem ofChars_toList (path : Path) : ofChars path.text.toList = path := by
  simp [ofChars]

/-- A slash ends the names in front of it. -/
theorem names_append (before behind : List Char) :
    names (before ++ '/' :: behind) = names before ++ names behind := by
  simp [names, splitAll_append]

/-- The opening of a text with a slash in it lies in front of the slash. -/
theorem opening_append (before behind : List Char) :
    opening (before ++ '/' :: behind) = opening (before ++ ['/']) := by
  have pieces : splitAll '/' before ≠ [] := (splitAll_eq_iff.mp rfl).1
  cases before with
  | nil => rfl
  | cons c rest =>
    cases split : splitAll '/' (c :: rest) with
    | nil => exact absurd split pieces
    | cons piece later =>
      rw [opening, opening, splitAll_append, splitAll_append, split]
      rfl

/-- A path with a slash in it says what it says up to the slash, and the names behind it. -/
theorem components_append (before behind : List Char) :
    (ofChars (before ++ '/' :: behind)).components =
      (ofChars (before ++ ['/'])).components ++ names behind := by
  rw [components_ofChars, components_ofChars, opening_append, names_append, names_append,
    List.append_assoc, List.append_assoc]
  rfl

/-- A slash at the end says nothing. -/
theorem components_append_slash {text : List Char} (nonempty : text ≠ []) :
    (ofChars (text ++ ['/'])).components = (ofChars text).components := by
  have begins : opening (text ++ ['/']) = opening text := by
    cases text with
    | nil => exact absurd rfl nonempty
    | cons c rest =>
      cases split : splitAll '/' (c :: rest) with
      | nil => exact absurd split (splitAll_eq_iff.mp rfl).1
      | cons piece later =>
        rw [opening, opening, splitAll_append, split]
        rfl
  rw [components_ofChars, components_ofChars, begins, names_append]
  simp [names, splitAll, pieceComponent]

/-- A lone dot at the end says nothing. -/
theorem components_append_dot (text : List Char) :
    (ofChars (text ++ ['/', '.'])).components = (ofChars (text ++ ['/'])).components := by
  rw [components_append, show names ['.'] = [] from rfl, List.append_nil]

/-- Trimming a text from its end leaves its components, unless the text is nothing but slashes. -/
theorem components_trimReversed (front : List Char) (fuel : Nat) (body : List Char)
    (kept : front ≠ [] ∨ body.getLast? ≠ some '/') :
    (ofChars (front ++ (trimReversed fuel body).reverse)).components =
      (ofChars (front ++ body.reverse)).components := by
  induction fuel, body using trimReversed.induct with
  | case1 text => rfl
  | case2 fuel more => rw [trimReversed.eq_2 fuel more]
  | case3 fuel rest inductionHypothesis =>
    have nonempty : front ++ rest.reverse ≠ [] := by
      intro nothing
      obtain ⟨rfl, empty⟩ := List.append_eq_nil_iff.mp nothing
      simp [List.reverse_eq_nil_iff.mp empty] at kept
    have later : front ≠ [] ∨ rest.getLast? ≠ some '/' := by
      refine kept.imp_right fun other => ?_
      cases rest with
      | nil => simp
      | cons c more => rwa [List.getLast?_cons_cons] at other
    rw [trimReversed, inductionHypothesis later, List.reverse_cons, ← List.append_assoc,
      components_append_slash nonempty]
  | case4 fuel rest inductionHypothesis =>
    have later : front ≠ [] ∨ ('/' :: rest).getLast? ≠ some '/' := by
      rwa [List.getLast?_cons_cons] at kept
    have slash : front ++ ('/' :: rest).reverse = front ++ rest.reverse ++ ['/'] := by simp
    have dot : front ++ ('.' :: '/' :: rest).reverse = front ++ rest.reverse ++ ['/', '.'] := by
      simp
    rw [trimReversed, inductionHypothesis later, slash, dot, components_append_dot]
  | case5 fuel text nonempty more slash dot => rw [trimReversed.eq_5 fuel text more nonempty slash dot]

/-- What is trimmed does not end with a slash or a lone dot behind one. -/
theorem trimReversed_trimmed (fuel : Nat) (body : List Char) (enough : body.length < fuel) :
    ∀ rest, trimReversed fuel body ≠ '/' :: rest ∧ trimReversed fuel body ≠ '.' :: '/' :: rest := by
  induction fuel, body using trimReversed.induct with
  | case1 text => exact absurd enough (Nat.not_lt_zero _)
  | case2 fuel more => simp [trimReversed.eq_2 fuel more]
  | case3 fuel rest inductionHypothesis =>
    rw [trimReversed]
    exact inductionHypothesis (Nat.lt_of_succ_lt_succ enough)
  | case4 fuel rest inductionHypothesis =>
    rw [trimReversed]
    exact inductionHypothesis (Nat.lt_of_succ_lt_succ enough)
  | case5 fuel text nonempty more slash dot =>
    rw [trimReversed.eq_5 fuel text more nonempty slash dot]
    obtain ⟨fuel, rfl⟩ := Nat.exists_eq_succ_of_ne_zero more
    exact fun rest => ⟨slash fuel rest rfl, dot fuel rest rfl⟩

/-- Trimming takes characters from the end of a text. -/
theorem trimReversed_suffix (fuel : Nat) (body : List Char) : trimReversed fuel body <:+ body := by
  induction fuel, body using trimReversed.induct with
  | case1 text => exact List.suffix_rfl
  | case2 fuel more => simp only [trimReversed.eq_2 fuel more, List.suffix_rfl]
  | case3 fuel rest inductionHypothesis =>
    rw [trimReversed]
    exact inductionHypothesis.trans (List.suffix_cons '/' rest)
  | case4 fuel rest inductionHypothesis =>
    rw [trimReversed]
    exact inductionHypothesis.trans (List.suffix_cons '.' ('/' :: rest))
  | case5 fuel text nonempty more slash dot =>
    simp only [trimReversed.eq_5 fuel text more nonempty slash dot, List.suffix_rfl]

/-- How a text divides into an opening, which is never trimmed, and what follows it. -/
inductive Divides : List Char → List Char → Prop
  | root (body : List Char) : Divides ['/'] body
  | dot {body : List Char} (ended : ∀ c ∈ body.head?, c = '/') : Divides ['.'] body
  | none {body : List Char} (relative : body.head? ≠ some '/') : Divides [] body

/-- Every text divides in one way. -/
theorem exists_divides (path : Path) :
    ∃ front body, Divides front body ∧ path.text.toList = front ++ body ∧
      path.keptFront = front.length := by
  by_cases absolute : path.isAbsolute = true
  · obtain ⟨body, text⟩ := List.head?_eq_some_iff.mp (of_decide_eq_true absolute)
    exact ⟨['/'], body, .root body, text, by rw [keptFront, if_pos absolute]; rfl⟩
  · have relative : path.text.toList.head? ≠ some '/' := by simpa [isAbsolute] using absolute
    rw [keptFront, if_neg absolute]
    split
    · next rest split =>
      obtain ⟨later, pieces, -⟩ := splitAll_of_pieces split
      obtain ⟨-, text, -⟩ := splitAll_eq_iff.mp pieces
      cases later with
      | nil => exact ⟨['.'], [], .dot (by simp), by simpa using text, rfl⟩
      | cons piece later =>
        exact ⟨['.'], _, .dot (by simp), text.trans List.intercalate_cons_cons, rfl⟩
    · exact ⟨[], path.text.toList, .none relative, rfl, rfl⟩

/-- What is left of a text when it is trimmed: its opening and a part of what follows that says
the same and does not end with a slash or a lone dot behind one. -/
theorem trimmed_eq {path : Path} {front body : List Char} (divides : Divides front body)
    (text : path.text.toList = front ++ body) (kept : path.keptFront = front.length) :
    ∃ rest, path.trimmed.toList = front ++ rest ∧ rest <+: body ∧
      (ofChars (front ++ rest)).components = (ofChars (front ++ body)).components ∧
      ∀ before, rest ≠ before ++ ['/'] ∧ rest ≠ before ++ ['/', '.'] := by
  have proper : front ≠ [] ∨ body.reverse.getLast? ≠ some '/' := by
    cases divides with
    | root => exact .inl (List.cons_ne_nil _ _)
    | dot => exact .inl (List.cons_ne_nil _ _)
    | none relative => exact .inr (by rwa [List.getLast?_reverse])
  have enough : body.reverse.length < path.text.toList.length + 1 := by
    rw [text, List.length_reverse, List.length_append]
    omega
  have same := components_trimReversed front (path.text.toList.length + 1) body.reverse proper
  have part := trimReversed_suffix (path.text.toList.length + 1) body.reverse
  have clean := trimReversed_trimmed _ _ enough
  have left : path.trimmed.toList = front ++
      if (trimReversed (path.text.toList.length + 1) body.reverse).reverse = ['.'] ∧
        path.isAbsolute = true then []
      else (trimReversed (path.text.toList.length + 1) body.reverse).reverse := by
    simp only [trimmed, text, kept, List.take_left, List.drop_left, String.toList_ofList]
  rw [List.reverse_reverse] at same
  refine ⟨_, left, ?_⟩
  split
  · next lone =>
    refine ⟨List.nil_prefix, ?_, by simp⟩
    have root : front = ['/'] := by
      have absolute : (front ++ body).head? = some '/' := text ▸ of_decide_eq_true lone.2
      cases divides with
      | root => rfl
      | dot => simp at absolute
      | none relative => exact absurd absolute relative
    rw [← same, lone.1, root]
    exact (components_append_dot []).symm
  · refine ⟨by rwa [← List.reverse_suffix, List.reverse_reverse], same, fun before => ?_⟩
    simpa [List.reverse_eq_iff] using clean before.reverse

/-- Trimming a path leaves its components. -/
theorem components_trimmed (path : Path) : Path.components ⟨path.trimmed⟩ = path.components := by
  obtain ⟨front, body, divides, text, kept⟩ := path.exists_divides
  obtain ⟨rest, left, -, same, -⟩ := trimmed_eq divides text kept
  have whole := ofChars_toList path
  have trimmed := ofChars_toList ⟨path.trimmed⟩
  rw [text] at whole
  rw [left] at trimmed
  rw [← trimmed, same, whole]

/-- A text without a slash says one name, or nothing if it is empty or a dot. -/
theorem names_of_not_mem {text : List Char} (bare : '/' ∉ text) :
    names text = (pieceComponent (String.ofList text)).toList := by
  rw [names, splitAll_of_not_mem bare, List.map_singleton, List.filterMap_cons]
  cases pieceComponent (String.ofList text) <;> rfl

/-- Any other text says something. -/
theorem names_singleton {text : List Char} (bare : '/' ∉ text) (nonempty : text ≠ [])
    (other : text ≠ ['.']) : ∃ last, names text = [last] := by
  rw [names_of_not_mem bare, pieceComponent]
  have empty : String.ofList text ≠ "" := fun same =>
    nonempty (by simpa using congrArg String.toList same)
  have dot : String.ofList text ≠ "." := fun same =>
    other (by simpa using congrArg String.toList same)
  rw [if_neg (not_or.mpr ⟨empty, dot⟩)]
  split <;> exact ⟨_, rfl⟩

/-- The opening alone says at most a root or a leading dot. -/
theorem components_front {front body : List Char} (divides : Divides front body)
    {last : Component} (ends : (ofChars front).components.getLast? = some last) :
    last = .root ∨ last = .current := by
  cases divides with
  | root => exact .inl (Option.some.inj ends).symm
  | dot => exact .inr (Option.some.inj ends).symm
  | none => cases ends

/-- Cutting off the name behind the last slash takes one component away. -/
theorem components_cut (before : List Char) {piece : List Char} (bare : '/' ∉ piece)
    (nonempty : piece ≠ []) (other : piece ≠ ['.']) :
    (ofChars (before ++ ['/'])).components =
      (ofChars (before ++ '/' :: piece)).components.dropLast := by
  obtain ⟨own, spelt⟩ := names_singleton bare nonempty other
  rw [components_append before piece, spelt, List.dropLast_concat]

/-- So does cutting off the only name. -/
theorem components_cut_only {front body piece : List Char} {last : Component}
    (divides : Divides front body) (part : piece <+: body) (bare : '/' ∉ piece)
    (ends : (ofChars (front ++ piece)).components.getLast? = some last)
    (name : last ≠ .root ∧ last ≠ .current) :
    (ofChars front).components = (ofChars (front ++ piece)).components.dropLast := by
  have nonempty : piece ≠ [] := by
    rintro rfl
    rw [List.append_nil] at ends
    exact (components_front divides ends).elim name.1 name.2
  cases divides with
  | root =>
    have other : piece ≠ ['.'] := by
      rintro rfl
      exact name.1 (Option.some.inj ends).symm
    exact components_cut [] bare nonempty other
  | dot ended =>
    obtain ⟨c, piece, rfl⟩ := List.exists_cons_of_ne_nil nonempty
    obtain ⟨later, rfl⟩ := part
    exact absurd (ended c rfl ▸ List.mem_cons_self) bare
  | none relative =>
    have other : piece ≠ ['.'] := by
      rintro rfl
      exact name.2 (Option.some.inj ends).symm
    obtain ⟨own, spelt⟩ := names_singleton bare nonempty other
    have first : piece.head? ≠ some '/' := fun slash => bare (List.mem_of_mem_head? slash)
    have opens : opening piece = [] := by
      rw [opening, if_neg first, splitAll_of_not_mem bare, List.head?_cons,
        if_neg (fun dot => other (Option.some.inj dot))]
    rw [List.nil_append, components_ofChars piece, opens, spelt]
    rfl

/-- Only the opening says a root or a leading dot. -/
theorem names_named {text : List Char} {component : Component} (said : component ∈ names text) :
    component ≠ .root ∧ component ≠ .current := by
  obtain ⟨piece, -, spelt⟩ := List.mem_filterMap.mp said
  unfold pieceComponent at spelt
  split at spelt
  · cases spelt
  · split at spelt <;> cases spelt <;> exact ⟨Component.noConfusion, Component.noConfusion⟩

/-- A path that ends with a leading dot is nothing else. -/
theorem components_of_current {path : Path} (ends : path.components.getLast? = some .current) :
    path.components = [.current] := by
  rw [← ofChars_toList path, components_ofChars] at ends ⊢
  cases said : names path.text.toList with
  | nil =>
    rw [said, List.append_nil] at ends
    rw [List.append_nil]
    unfold opening at ends ⊢
    split at ends
    · cases ends
    · next relative =>
      split at ends
      · next dot => rw [if_neg relative, if_pos dot]
      · cases ends
  | cons name later =>
    have last : (names path.text.toList).getLast? = some .current := by
      rw [List.getLast?_append, said, List.getLast?_cons, Option.some_or] at ends
      rw [said, List.getLast?_cons, ends]
    exact absurd rfl (names_named (List.mem_of_getLast? last)).2

/-- What is left of a text when the characters behind its last slash are taken away. -/
theorem exists_last_piece (text : List Char) :
    ∃ before piece, text = before ++ piece ∧
      piece.length = (text.reverse.takeWhile (· ≠ '/')).length ∧ '/' ∉ piece ∧
      (before = [] ∨ before.getLast? = some '/') := by
  refine ⟨(text.reverse.dropWhile (· ≠ '/')).reverse, (text.reverse.takeWhile (· ≠ '/')).reverse,
    ?_, List.length_reverse, ?_, ?_⟩
  · rw [← List.reverse_append, List.takeWhile_append_dropWhile, List.reverse_reverse]
  · intro slash
    have passed := List.mem_takeWhile_imp (List.mem_reverse.mp slash)
    exact of_decide_eq_true passed rfl
  · have stopped := List.head?_dropWhile_not (· ≠ '/') text.reverse
    rw [List.getLast?_reverse]
    cases left : text.reverse.dropWhile (· ≠ '/') with
    | nil => exact .inl rfl
    | cons c rest =>
      rw [left] at stopped
      exact .inr (congrArg some (by simpa using stopped))

/-- The parent of a path is the path without its last component. -/
theorem components_parent {path directory : Path} (up : path.parent = some directory) :
    directory.components = path.components.dropLast := by
  unfold parent at up
  split at up
  · cases up
  · cases up
  · next ends =>
    cases up
    rw [components_of_current ends]
    rfl
  · next last notRoot notCurrent ends =>
    obtain ⟨front, body, divides, text, kept⟩ := path.exists_divides
    obtain ⟨rest, left, part, same, clean⟩ := trimmed_eq divides text kept
    obtain ⟨before, piece, split, size, bare, slash⟩ := exists_last_piece rest
    rw [← text, ofChars_toList] at same
    simp only [left, kept, List.drop_left, ← size] at up
    have short : (front ++ rest).length - piece.length = (front ++ before).length := by
      simp only [split, List.length_append]
      omega
    rw [short, split, ← List.append_assoc, List.take_left] at up
    rw [← Option.some.inj up, components_trimmed, ← same]
    change (ofChars (front ++ before)).components = _
    subst split
    rcases slash with rfl | ended
    · rw [List.append_nil]
      exact components_cut_only divides part bare (same ▸ ends)
        ⟨fun root => notRoot root, fun current => notCurrent current⟩
    · obtain ⟨before, rfl⟩ := List.getLast?_eq_some_iff.mp ended
      have nonempty : piece ≠ [] := by
        rintro rfl
        exact (clean before).1 (List.append_nil _)
      have other : piece ≠ ['.'] := by
        rintro rfl
        exact (clean before).2 (List.append_assoc before ['/'] ['.'])
      have cut := components_cut (front ++ before) bare nonempty other
      simpa only [List.append_assoc, List.singleton_append] using cut

/-- A path has a parent unless it is empty or a root. -/
theorem parent_isSome {path : Path} {last : Component} (ends : path.components.getLast? = some last)
    (other : last ≠ .root) : path.parent.isSome = true := by
  unfold parent
  rw [ends]
  cases last with
  | root => exact absurd rfl other
  | _ => rfl

/-- That a path leads to something in a directory: it has one component more. -/
def LiesIn (path directory : Path) : Prop :=
  ∃ last, last ≠ .root ∧ path.components = directory.components ++ [last]

/-- A path leads to something in its parent. -/
theorem liesIn_parent {path directory : Path} (up : path.parent = some directory) :
    path.LiesIn directory := by
  have same := components_parent up
  unfold parent at up
  split at up
  · cases up
  · cases up
  · next ends =>
    exact ⟨.current, Component.noConfusion, by rw [same, List.dropLast_append_getLast? _ ends]⟩
  · next last notRoot _ ends =>
    exact ⟨last, notRoot, by rw [same, List.dropLast_append_getLast? _ ends]⟩

/-- What lies in a directory has a parent, and it is that directory. -/
theorem exists_parent {path directory : Path} (inside : path.LiesIn directory) :
    ∃ up, path.parent = some up ∧ up.components = directory.components := by
  obtain ⟨last, other, split⟩ := inside
  have ends : path.components.getLast? = some last := by rw [split, List.getLast?_concat]
  obtain ⟨up, found⟩ := Option.isSome_iff_exists.mp (parent_isSome ends other)
  exact ⟨up, found, by rw [components_parent found, split, List.dropLast_concat]⟩

/-- That a text can be a component of a path on its own. -/
structure IsName (name : String) : Prop where
  nonempty : name ≠ ""
  other : name ≠ "."
  forward : name ≠ ".."
  bare : '/' ∉ name.toList

/-- A name is no absolute path. -/
theorem IsName.not_isAbsolute {name : String} (isName : IsName name) :
    ¬ Path.isAbsolute ⟨name⟩ = true :=
  fun slash => isName.bare (List.mem_of_mem_head? (by simpa [isAbsolute] using slash))

/-- The name of a component, if it is one. -/
def nameOf : Component → Option String
  | .normal name => some name
  | _ => none

/-- The names on a path, in order. -/
def namesOn (path : Path) : List String := path.components.filterMap nameOf

/-- A path is absolute when the root is one of its components. -/
theorem isAbsolute_iff {path : Path} : path.isAbsolute = true ↔ .root ∈ path.components := by
  have absolute : path.isAbsolute = true ↔ path.text.toList.head? = some '/' := by
    simp [isAbsolute]
  rw [absolute, ← ofChars_toList path, components_ofChars]
  constructor
  · intro slash
    apply List.mem_append_left
    rw [opening, if_pos (by simpa [ofChars] using slash)]
    exact List.mem_singleton_self _
  · intro said
    rcases List.mem_append.mp said with opens | named
    · unfold opening at opens
      split at opens
      · next slash => simpa [ofChars] using slash
      · split at opens <;> simp at opens
    · exact absurd rfl (names_named named).1

/-- The names on a path are names. -/
theorem isName_of_mem_namesOn {path : Path} {name : String} (listed : name ∈ path.namesOn) :
    IsName name := by
  obtain ⟨component, said, found⟩ := List.mem_filterMap.mp listed
  obtain rfl : component = .normal name := by
    cases component <;> simp_all [nameOf]
  rw [← ofChars_toList path, components_ofChars] at said
  rcases List.mem_append.mp said with opens | named
  · unfold opening at opens
    split at opens
    · simp at opens
    · split at opens <;> simp at opens
  · obtain ⟨piece, listed, spelt⟩ := List.mem_filterMap.mp named
    obtain ⟨chars, split, rfl⟩ := List.mem_map.mp listed
    unfold pieceComponent at spelt
    split at spelt
    · cases spelt
    · next something =>
      split at spelt
      · cases spelt
      · next forward =>
        obtain rfl : String.ofList chars = name := by simpa using spelt
        exact {
          nonempty := fun nothing => something (.inl nothing)
          other := fun dot => something (.inr dot)
          forward
          bare := by simpa using not_mem_of_mem_splitAll split }

/-- A name says itself. -/
theorem names_of_isName {name : String} (isName : IsName name) :
    names name.toList = [.normal name] := by
  rw [names_of_not_mem isName.bare, String.ofList_toList, pieceComponent,
    if_neg (not_or.mpr ⟨isName.nonempty, isName.other⟩), if_neg isName.forward]
  rfl

/-- Joining a name to a path adds the name to its components, whatever the path looks like. -/
theorem components_join (path : Path) {name : String} (isName : IsName name) :
    (path.join name).components = path.components ++ [.normal name] := by
  have relative : name.toList.head? ≠ some '/' := fun slash =>
    isName.bare (List.mem_of_mem_head? slash)
  have joined (text : List Char) (same : (path.join name).text.toList = text) :
      (path.join name).components = (ofChars text).components := by
    rw [← same, ofChars_toList]
  unfold join at joined ⊢
  rw [if_neg isName.not_isAbsolute] at joined ⊢
  by_cases ended : path.text = "" ∨ path.text.toList.getLast? = some '/'
  · rw [if_pos ended] at joined ⊢
    rcases ended with empty | slash
    · -- an empty path gives way to the name
      have opens : opening name.toList = [] := by
        rw [opening, if_neg relative, splitAll_of_not_mem isName.bare, List.head?_cons, if_neg]
        intro dot
        apply isName.other
        rw [← String.ofList_toList (s := name), Option.some.inj dot]
      have nothing : path.components = [] := by
        rw [← ofChars_toList path, empty]
        rfl
      rw [joined name.toList (by simp [empty]), components_ofChars, opens, names_of_isName isName,
        nothing]
    · obtain ⟨before, text⟩ := List.getLast?_eq_some_iff.mp slash
      rw [joined (before ++ '/' :: name.toList) (by simp [text]), components_append,
        names_of_isName isName, ← text, ofChars_toList]
  · rw [if_neg ended] at joined ⊢
    have nonempty : path.text.toList ≠ [] := fun nothing =>
      ended (.inl (by simpa using nothing))
    rw [joined (path.text.toList ++ '/' :: name.toList) (by simp), components_append,
      names_of_isName isName, components_append_slash nonempty, ofChars_toList]

/-- Joining names one after the other adds them all. -/
theorem components_foldl_join (path : Path) {list : List String} (all : ∀ name ∈ list, IsName name) :
    (list.foldl join path).components = path.components ++ list.map .normal := by
  induction list generalizing path with
  | nil => simp
  | cons name rest inductionHypothesis =>
    have first : IsName name := all name List.mem_cons_self
    have others : ∀ other ∈ rest, IsName other := fun other member =>
      all other (List.mem_cons_of_mem name member)
    rw [List.foldl_cons, inductionHypothesis _ others, components_join path first,
      List.append_assoc, List.map_cons, List.singleton_append]

/-- That a path is a directory with names behind it: they are joined to the directory one after
the other, and so its components are those of the directory and then the names. -/
structure Within (directory : Path) (list : List String) (path : Path) : Prop where
  names : ∀ name ∈ list, IsName name
  joined : path = list.foldl join directory
  components : path.components = directory.components ++ list.map .normal

/-- Whatever names are joined to a directory, the result is within it. -/
theorem within_foldl_join (directory : Path) {list : List String}
    (all : ∀ name ∈ list, IsName name) : Within directory list (list.foldl join directory) :=
  ⟨all, rfl, components_foldl_join directory all⟩

/-- A text that says nothing behind the opening has no pieces but empty ones and lone dots. -/
theorem blank_of_names_eq_nil {text : List Char} (nothing : names text = []) {piece : List Char}
    (listed : piece ∈ splitAll '/' text) : piece = [] ∨ piece = ['.'] := by
  have silent := List.filterMap_eq_nil_iff.mp nothing _ (List.mem_map_of_mem listed)
  unfold pieceComponent at silent
  split at silent
  · next blank =>
    exact blank.imp (fun empty => by simpa using congrArg String.toList empty)
      (fun dot => by simpa using congrArg String.toList dot)
  · split at silent <;> cases silent

/-- Only the empty path says nothing at all. -/
theorem components_ne_nil {path : Path} (nonempty : path.text ≠ "") : path.components ≠ [] := by
  rw [← ofChars_toList path, components_ofChars, Ne, List.append_eq_nil_iff, opening]
  rintro ⟨opens, named⟩
  split at opens
  · cases opens
  · next relative =>
    split at opens
    · cases opens
    · next noDot =>
      have pieces : splitAll '/' path.text.toList ≠ [] := (splitAll_eq_iff.mp rfl).1
      obtain ⟨first, later, split⟩ := List.exists_cons_of_ne_nil pieces
      rw [split, List.head?_cons, Option.some.injEq] at noDot
      obtain rfl | dot := blank_of_names_eq_nil named (split ▸ List.mem_cons_self)
      · obtain ⟨-, text, -⟩ := splitAll_eq_iff.mp split
        cases later with
        | nil => exact nonempty (by simpa using text)
        | cons second later => exact relative (by rw [text, List.intercalate_cons_cons]; rfl)
      · exact noDot dot

/-- What has no parent, other than the empty path, is a root and nothing else. -/
theorem root_of_parent_isNone {path : Path} (nonempty : path.text ≠ "")
    (ends : path.components = [] ∨ path.parent.isNone = true) :
    path.isAbsolute = true ∧ names path.text.toList = [] := by
  have alone : path.parent = none :=
    Option.isNone_iff_eq_none.mp (ends.resolve_left (components_ne_nil nonempty))
  obtain ⟨last, ends⟩ : ∃ last, path.components.getLast? = some last :=
    Option.ne_none_iff_exists'.mp (List.getLast?_eq_none_iff.not.mpr (components_ne_nil nonempty))
  obtain rfl : last = .root := by
    by_contra other
    exact absurd (parent_isSome ends other) (by rw [alone]; decide)
  refine ⟨isAbsolute_iff.mpr (List.mem_of_getLast? ends), ?_⟩
  rw [← ofChars_toList path, components_ofChars] at ends
  by_contra said
  rw [List.getLast?_append_of_ne_nil _ said] at ends
  exact (names_named (List.mem_of_getLast? ends)).1 rfl

/-- An ancestor of a path is reached by a part of its components. -/
theorem components_prefix_of_mem_ancestors {path up : Path} (listed : up ∈ path.ancestors) :
    up.components <+: path.components := by
  unfold ancestors at listed
  generalize path.components.length = fuel at listed
  induction fuel generalizing path with
  | zero =>
    obtain rfl := List.mem_singleton.mp listed
    exact List.prefix_rfl
  | succ fuel inductionHypothesis =>
    rw [ancestors.go] at listed
    split at listed
    · next directory parent =>
      rcases List.mem_cons.mp listed with rfl | further
      · exact List.prefix_rfl
      · refine (inductionHypothesis further).trans ?_
        rw [components_parent parent]
        exact List.dropLast_prefix _
    · obtain rfl := List.mem_singleton.mp listed
      exact List.prefix_rfl

/-- The first of the ancestors of a path is the path. -/
theorem ancestors_eq_cons (path : Path) : ∃ ups, path.ancestors = path :: ups := by
  unfold ancestors
  cases path.components.length with
  | zero => exact ⟨[], rfl⟩
  | succ fuel =>
    rw [ancestors.go]
    split <;> exact ⟨_, rfl⟩

/-- That a path ends with a name that has an extension: something in front of the last dot, and
the extension behind it, in whichever case its letters are. -/
def EndsWith (path : Path) (extension : String) : Prop :=
  ∃ stem ending : List Char,
    path.components.getLast? = some (.normal (String.ofList (stem ++ '.' :: ending))) ∧
      stem ≠ [] ∧ '.' ∉ ending ∧ ending.map Char.toLower = extension.toList.map Char.toLower

/-- The extension of a name is what follows its last dot, if something is in front of that. -/
theorem nameExtension_eq_some_iff {name extension : String} :
    nameExtension name = some extension ↔
      ∃ stem, name = String.ofList (stem ++ '.' :: extension.toList) ∧ stem ≠ [] ∧
        '.' ∉ extension.toList := by
  unfold nameExtension
  constructor
  · intro found
    split at found
    · cases found
    · next stem ending nonempty split =>
      obtain ⟨text, last⟩ := splitLast_eq_some_iff.mp split
      cases found
      refine ⟨stem, ?_, fun none => nonempty none, ?_⟩ <;> rw [String.toList_ofList]
      · rw [← text, String.ofList_toList]
      · exact last
    · cases found
  · rintro ⟨stem, rfl, nonempty, last⟩
    obtain ⟨c, stem, rfl⟩ := List.exists_cons_of_ne_nil nonempty
    rw [String.toList_ofList, splitLast_eq_some_iff.mpr ⟨rfl, last⟩]
    simp

/-- Whether a path has an extension is a matter of its last component. -/
theorem hasExtension_iff {path : Path} {wanted : String} :
    path.hasExtension wanted = true ↔ path.EndsWith wanted := by
  constructor
  · intro has
    unfold hasExtension at has
    split at has
    · next found given =>
      obtain ⟨name, last, extension⟩ := Option.bind_eq_some_iff.mp given
      obtain ⟨stem, rfl, nonempty, bare⟩ := nameExtension_eq_some_iff.mp extension
      refine ⟨stem, found.toList, ?_, nonempty, bare,
        String.ofList_injective (of_decide_eq_true has)⟩
      unfold fileName at last
      split at last
      · next named ends => rw [ends, Option.some.inj last]
      · cases last
    · cases has
  · rintro ⟨stem, ending, last, nonempty, bare, same⟩
    have found :
        nameExtension (String.ofList (stem ++ '.' :: ending)) = some (String.ofList ending) :=
      nameExtension_eq_some_iff.mpr ⟨stem, by simp, nonempty, by simpa using bare⟩
    have given : path.extension = some (String.ofList ending) := by
      simp only [extension, fileName, last, Option.bind_some, found]
    simp only [hasExtension, given, asciiLower, String.toList_ofList, same, decide_true]

/-- A path has one extension. -/
theorem EndsWith.same {path : Path} {one other : String} (first : path.EndsWith one)
    (second : path.EndsWith other) : asciiLower one = asciiLower other := by
  have first := hasExtension_iff.mpr first
  have second := hasExtension_iff.mpr second
  unfold hasExtension at first second
  cases found : path.extension with
  | none => simp [found] at first
  | some extension => simp_all

end MediaNode.Path
