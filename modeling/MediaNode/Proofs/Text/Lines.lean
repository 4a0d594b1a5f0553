import MediaNode.Text.Blank
import Mathlib.Data.List.TakeWhile

/-!
# Pieces, trimmed texts, words and lines

A separator cuts a text into pieces that do not hold it, and the pieces with the separator
between them are the text. A trimmed text is what lies between the blanks at both ends; the words
of a text are its pieces between blanks that hold a character. The two meet in the lines of a text:
once trimmed it does not matter whether a line ended with a carriage return, and a line that is
missing at the end is an empty one. Texts that are put together where a line ends have the lines of
both.
-/
namespace MediaNode.Text

variable {separator : Char} {text before behind : List Char}

/-- The first separator is the one that has no other in front of it. -/
theorem splitFirst_eq_some_iff :
    splitFirst separator text = some (before, behind) ↔
      text = before ++ separator :: behind ∧ separator ∉ before := by
  induction text generalizing before with
  | nil => simp [splitFirst]
  | cons c rest inductionHypothesis =>
    by_cases here : c = separator
    · subst here
      cases before with
      | nil => simp [splitFirst]
      | cons first before =>
        simp only [splitFirst, if_true, Option.some.injEq, Prod.mk.injEq, List.nil_eq, reduceCtorEq,
          false_and, List.cons_append, List.cons.injEq, List.mem_cons, not_or, false_iff]
        rintro ⟨⟨same, -⟩, other, -⟩
        exact other same
    · simp only [splitFirst, if_neg here, Option.map_eq_some_iff, Prod.exists, Prod.mk.injEq]
      constructor
      · rintro ⟨front, later, split, rfl, rfl⟩
        obtain ⟨rfl, absent⟩ := inductionHypothesis.mp split
        exact ⟨rfl, List.not_mem_cons_of_ne_of_not_mem (Ne.symm here) absent⟩
      · rintro ⟨split, absent⟩
        cases before with
        | nil => exact absurd (List.cons.inj split).1 here
        | cons first before =>
          obtain ⟨rfl, rest_eq⟩ := List.cons.inj split
          exact ⟨before, behind,
            inductionHypothesis.mpr ⟨rest_eq, List.not_mem_of_not_mem_cons absent⟩, rfl, rfl⟩

/-- Without a separator there is nothing to split at. -/
theorem splitFirst_eq_none_iff : splitFirst separator text = none ↔ separator ∉ text := by
  constructor
  · intro unsplit separated
    obtain ⟨before, behind, first⟩ := List.eq_append_cons_of_mem separated
    rw [splitFirst_eq_some_iff.mpr first] at unsplit
    cases unsplit
  · intro absent
    rw [Option.eq_none_iff_forall_ne_some]
    rintro ⟨before, behind⟩ split
    obtain ⟨rfl, -⟩ := splitFirst_eq_some_iff.mp split
    exact absent (List.mem_append_right before List.mem_cons_self)

/-- The last separator is the one that has no other behind it. -/
theorem splitLast_eq_some_iff :
    splitLast separator text = some (before, behind) ↔
      text = before ++ separator :: behind ∧ separator ∉ behind := by
  have reversed : splitLast separator text = some (before, behind) ↔
      splitFirst separator text.reverse = some (behind.reverse, before.reverse) := by
    simp only [splitLast, Option.map_eq_some_iff, Prod.exists, Prod.mk.injEq]
    constructor
    · rintro ⟨later, front, split, rfl, rfl⟩
      rw [List.reverse_reverse, List.reverse_reverse, split]
    · intro split
      exact ⟨_, _, split, List.reverse_reverse before, List.reverse_reverse behind⟩
  rw [reversed, splitFirst_eq_some_iff, List.mem_reverse, List.reverse_eq_iff]
  simp

/-- The pieces of a text are those that splitting a list at an element gives. -/
theorem splitAll_eq_splitOn (separator : Char) (text : List Char) :
    splitAll separator text = text.splitOn separator := by
  induction text with
  | nil => rfl
  | cons c rest inductionHypothesis =>
    rw [splitAll, inductionHypothesis, List.splitOn_eq_splitOnP, List.splitOn_eq_splitOnP,
      List.splitOnP_cons_eq_if_modifyHead]
    by_cases here : c = separator
    · rw [if_pos here, if_pos (beq_iff_eq.mpr here)]
    · rw [if_neg here, if_neg (beq_iff_eq.not.mpr here)]
      cases pieces : rest.splitOnP (· == separator) with
      | nil => exact absurd pieces (List.splitOnP_ne_nil _ _)
      | cons piece pieces => rfl

/-- A piece does not hold the separator. -/
theorem not_mem_of_mem_splitAll {piece : List Char} (listed : piece ∈ splitAll separator text) :
    separator ∉ piece := by
  induction text generalizing piece with
  | nil =>
    rw [List.mem_singleton.mp listed]
    exact List.not_mem_nil
  | cons c rest inductionHypothesis =>
    rw [splitAll] at listed
    split at listed
    · rcases List.mem_cons.mp listed with rfl | listed
      · exact List.not_mem_nil
      · exact inductionHypothesis listed
    · next other =>
      split at listed
      · rw [List.mem_singleton.mp listed]
        exact List.not_mem_cons_of_ne_of_not_mem (Ne.symm other) List.not_mem_nil
      · next first pieces split =>
        rcases List.mem_cons.mp listed with rfl | listed
        · exact List.not_mem_cons_of_ne_of_not_mem (Ne.symm other)
            (inductionHypothesis (split ▸ List.mem_cons_self))
        · exact inductionHypothesis (split ▸ List.mem_cons_of_mem first listed)

/-- Whatever is no separator is in a piece. -/
theorem exists_mem_splitAll {c : Char} (listed : c ∈ text) (other : c ≠ separator) :
    ∃ piece ∈ splitAll separator text, c ∈ piece := by
  induction text with
  | nil => cases listed
  | cons first rest inductionHypothesis =>
    rw [splitAll]
    rcases List.mem_cons.mp listed with rfl | later
    · rw [if_neg other]
      split <;> exact ⟨_, List.mem_cons_self, List.mem_cons_self⟩
    · obtain ⟨piece, split, inside⟩ := inductionHypothesis later
      split
      · exact ⟨piece, List.mem_cons_of_mem _ split, inside⟩
      · split
        · next none =>
          rw [none] at split
          cases split
        · next own pieces same =>
          rw [same] at split
          rcases List.mem_cons.mp split with rfl | further
          · exact ⟨_, List.mem_cons_self, List.mem_cons_of_mem first inside⟩
          · exact ⟨piece, List.mem_cons_of_mem _ further, inside⟩

/-- The pieces of a text are the lists without a separator that make the text when separators
are put between them. -/
theorem splitAll_eq_iff {pieces : List (List Char)} :
    splitAll separator text = pieces ↔
      pieces ≠ [] ∧ text = [separator].intercalate pieces ∧ ∀ piece ∈ pieces, separator ∉ piece := by
  constructor
  · rintro rfl
    refine ⟨?_, ?_, fun piece => not_mem_of_mem_splitAll⟩
    · rw [splitAll_eq_splitOn]
      exact List.splitOn_ne_nil separator text
    · rw [splitAll_eq_splitOn, List.intercalate_splitOn]
  · rintro ⟨some, rfl, pure⟩
    rw [splitAll_eq_splitOn, List.splitOn_intercalate separator pure some]

/-- A separator ends the pieces in front of it. -/
theorem splitAll_append (before behind : List Char) :
    splitAll separator (before ++ separator :: behind) =
      splitAll separator before ++ splitAll separator behind := by
  induction before with
  | nil => simp [splitAll]
  | cons c rest inductionHypothesis =>
    rw [List.cons_append, splitAll, inductionHypothesis, splitAll]
    split
    · rfl
    · cases pieces : splitAll separator rest with
      | nil => exact absurd pieces (splitAll_eq_iff.mp rfl).1
      | cons piece pieces => rfl

/-- A text without a separator is one piece. -/
theorem splitAll_of_not_mem (absent : separator ∉ text) : splitAll separator text = [text] := by
  rw [splitAll_eq_splitOn, List.splitOn_eq_singleton absent]

/-- That a text is a line without the blanks at either end of it. -/
structure Trimmed (line text : List Char) : Prop where
  between : ∃ front back, line = front ++ text ++ back ∧
    (∀ c ∈ front, isBlank c = true) ∧ ∀ c ∈ back, isBlank c = true
  front : ∀ c ∈ text.head?, isBlank c = false
  back : ∀ c ∈ text.getLast?, isBlank c = false

/-- Blanks in front of a text are dropped. -/
theorem dropBlanks_append {front : List Char} (blank : ∀ c ∈ front, isBlank c = true)
    (text : List Char) : dropBlanks (front ++ text) = dropBlanks text :=
  List.dropWhile_append_of_pos blank

/-- A text that begins with another character is kept. -/
theorem dropBlanks_of_head {text : List Char} (solid : ∀ c ∈ text.head?, isBlank c = false) :
    dropBlanks text = text := by
  cases text with
  | nil => rfl
  | cons c rest => exact List.dropWhile_cons_of_neg (by simp [solid c rfl])

/-- What is dropped in front of a text are blanks. -/
theorem exists_dropBlanks (text : List Char) :
    ∃ front, text = front ++ dropBlanks text ∧ ∀ c ∈ front, isBlank c = true :=
  ⟨text.takeWhile isBlank, List.takeWhile_append_dropWhile.symm, fun _ => List.mem_takeWhile_imp⟩

/-- What is left does not begin with a blank. -/
theorem head_dropBlanks (text : List Char) : ∀ c ∈ (dropBlanks text).head?, isBlank c = false := by
  intro c first
  have checked := List.head?_dropWhile_not isBlank text
  rw [dropBlanks] at first
  rwa [Option.mem_def.mp first] at checked

/-- Trimming a line drops the blanks at either end of it, and nothing more. -/
theorem trimChars_eq_iff {line : List Char} : trimChars line = text ↔ Trimmed line text := by
  constructor
  · rintro rfl
    obtain ⟨front, split, frontBlank⟩ := exists_dropBlanks line
    obtain ⟨back, reversed, backBlank⟩ := exists_dropBlanks (dropBlanks line).reverse
    have kept : dropBlanks line = trimChars line ++ back.reverse := by
      rw [trimChars, dropBlanksEnd, ← dropBlanks, ← List.reverse_append, ← reversed,
        List.reverse_reverse]
    refine ⟨⟨front, back.reverse, ?_, frontBlank, ?_⟩, ?_, ?_⟩
    · rw [List.append_assoc, ← kept, ← split]
    · exact fun c listed => backBlank c (List.mem_reverse.mp listed)
    · intro c first
      refine head_dropBlanks line c ?_
      rw [kept, Option.mem_def, List.head?_append, Option.mem_def.mp first, Option.some_or]
    · intro c last
      rw [trimChars, dropBlanksEnd, List.getLast?_reverse] at last
      exact head_dropBlanks _ c last
  · rintro ⟨⟨front, back, rfl, frontBlank, backBlank⟩, first, last⟩
    have backReversed : ∀ c ∈ back.reverse, isBlank c = true := fun c listed =>
      backBlank c (List.mem_reverse.mp listed)
    have lastReversed : ∀ c ∈ text.reverse.head?, isBlank c = false := by
      rwa [List.head?_reverse]
    rw [trimChars, dropBlanksEnd, List.append_assoc, dropBlanks_append frontBlank]
    cases text with
    | nil =>
      have nothing : dropBlanks back = [] := List.dropWhile_eq_nil_iff.mpr backBlank
      rw [List.nil_append, nothing]
      rfl
    | cons c rest =>
      have kept : dropBlanks (c :: rest ++ back) = c :: rest ++ back := dropBlanks_of_head first
      rw [kept, List.reverse_append, ← dropBlanks, dropBlanks_append backReversed,
        dropBlanks_of_head lastReversed, List.reverse_reverse]

/-- A text with a character that is not blank has a word. -/
theorem words_ne_nil {c : Char} (listed : c ∈ text) (solid : isBlank c = false) :
    words text ≠ [] := by
  induction text with
  | nil => cases listed
  | cons first rest inductionHypothesis =>
    rcases List.mem_cons.mp listed with rfl | listed
    · simp [words, words.step, words.collect, solid]
    · have some := inductionHypothesis listed
      cases blank : isBlank first with
      | true => simpa [words, words.step, words.collect, blank] using some
      | false => simp [words, words.step, words.collect, blank]

/-- A finished word joins the ones behind it if it holds a character. -/
theorem collect_eq_filter (word : List Char) (pieces : List (List Char)) :
    words.collect word (pieces.filter (· ≠ [])) = (word :: pieces).filter (· ≠ []) := by
  cases word <;> simp [words.collect]

/-- The word that is open at the left end of a text is its first piece between blanks. -/
theorem foldr_step (text : List Char) {piece : List Char} {pieces : List (List Char)}
    (split : text.splitOnP isBlank = piece :: pieces) :
    text.foldr words.step ([], []) = (piece, pieces.filter (· ≠ [])) := by
  induction text generalizing piece pieces with
  | nil =>
    obtain ⟨rfl, rfl⟩ := List.cons.inj (List.splitOnP_nil.symm.trans split)
    rfl
  | cons c rest inductionHypothesis =>
    obtain ⟨first, others, restSplit⟩ :=
      List.exists_cons_of_ne_nil (List.splitOnP_ne_nil isBlank rest)
    rw [List.splitOnP_cons_eq_if_modifyHead, restSplit] at split
    rw [List.foldr_cons, inductionHypothesis restSplit, words.step]
    split_ifs at split ⊢ with blank
    · obtain ⟨rfl, rfl⟩ := List.cons.inj split
      rw [collect_eq_filter]
    · obtain ⟨rfl, rfl⟩ := List.cons.inj split
      rfl

/-- The words of a text are the pieces between its blanks that hold a character. -/
theorem words_eq_filter (text : List Char) :
    words text = (text.splitOnP isBlank).filter (· ≠ []) := by
  obtain ⟨piece, pieces, split⟩ :=
    List.exists_cons_of_ne_nil (List.splitOnP_ne_nil isBlank text)
  rw [words, foldr_step text split, split]
  exact collect_eq_filter piece pieces

/-- A blank ends the words in front of it. -/
theorem words_append_blank {c : Char} (blank : isBlank c = true) (before behind : List Char) :
    words (before ++ c :: behind) = words before ++ words behind := by
  rw [words_eq_filter, List.splitOnP_append_cons before behind blank, List.filter_append,
    ← words_eq_filter, ← words_eq_filter]

/-- The last piece of a text is the line that is not ended yet. -/
theorem exists_unfinished (text : List Char) :
    ∃ finished unfinished, splitAll '\n' text = finished ++ [unfinished] :=
  ⟨_, _, (List.dropLast_concat_getLast (splitAll_eq_iff.mp rfl).1).symm⟩

/-- The lines of a text whose pieces are known. -/
theorem lineList_of_pieces {finished : List (List Char)} {unfinished : List Char}
    (pieces : splitAll '\n' text = finished ++ [unfinished]) :
    lineList text =
      finished.map dropReturn ++ (if unfinished.isEmpty then [] else [unfinished]) := by
  rw [lineList, pieces, List.dropLast_concat, List.getLast?_concat, Option.getD_some]

/-- A text that ends with a line has its lines in front of those of the text behind it. -/
theorem lineList_append {front : List Char} (ended : ∀ c ∈ front.getLast?, c = '\n')
    (back : List Char) : lineList (front ++ back) = lineList front ++ lineList back := by
  obtain ⟨finished, unfinished, pieces⟩ := exists_unfinished back
  rcases List.eq_nil_or_concat front with rfl | ⟨rest, c, rfl⟩
  · rfl
  · obtain rfl : c = '\n' := ended c (by simp)
    rw [List.concat_eq_append]
    have whole : splitAll '\n' (rest ++ ['\n'] ++ back) =
        splitAll '\n' rest ++ finished ++ [unfinished] := by
      rw [List.append_assoc, List.singleton_append, splitAll_append, pieces, List.append_assoc]
    have first : splitAll '\n' (rest ++ ['\n']) = splitAll '\n' rest ++ [[]] :=
      splitAll_append rest []
    rw [lineList_of_pieces whole, lineList_of_pieces first, lineList_of_pieces pieces]
    simp

/-- A blank at the end of a line does not change what is left of it. -/
theorem trimChars_append_blank {c : Char} (blank : isBlank c = true) (line : List Char) :
    trimChars (line ++ [c]) = trimChars line := by
  obtain ⟨⟨front, back, split, frontBlank, backBlank⟩, first, last⟩ :=
    trimChars_eq_iff.mp (rfl : trimChars line = trimChars line)
  refine trimChars_eq_iff.mpr ⟨⟨front, back ++ [c], ?_, frontBlank, ?_⟩, first, last⟩
  · rw [← List.append_assoc, ← split]
  · exact List.forall_mem_append.mpr ⟨backBlank, by simpa using blank⟩

/-- Neither does a carriage return in front of its line feed. -/
theorem trimChars_dropReturn (line : List Char) : trimChars (dropReturn line) = trimChars line := by
  unfold dropReturn
  split
  · next ends =>
    obtain ⟨rest, rfl⟩ := List.getLast?_eq_some_iff.mp ends
    rw [List.dropLast_concat, trimChars_append_blank (by decide)]
  · rfl

/-- Among the trimmed texts that are not empty it does not matter what the lines ended with. -/
theorem filter_map_trimChars_lineList (text : List Char) (keeps : List Char → Bool)
    (drops : keeps [] = false) :
    ((lineList text).map trimChars).filter keeps =
      ((splitAll '\n' text).map trimChars).filter keeps := by
  obtain ⟨finished, unfinished, pieces⟩ := exists_unfinished text
  have returns : (finished.map dropReturn).map trimChars = finished.map trimChars := by
    rw [List.map_map]
    exact List.map_congr_left fun line _ => trimChars_dropReturn line
  have blank : trimChars [] = [] := rfl
  simp only [lineList_of_pieces pieces, pieces, List.map_append, returns, List.filter_append]
  cases unfinished with
  | nil => simp [blank, drops]
  | cons c rest => rfl

/-- What the lines of a text hold between blanks is what lies between its line feeds does. -/
theorem mem_map_trimChars_lineList {chunk : List Char} (some : chunk ≠ []) :
    chunk ∈ (lineList text).map trimChars ↔ ∃ line ∈ splitAll '\n' text, Trimmed line chunk := by
  have same := filter_map_trimChars_lineList text (· = chunk) (by simpa using some.symm)
  have listed (texts : List (List Char)) : chunk ∈ texts.filter (· = chunk) ↔ chunk ∈ texts := by
    simp
  rw [← listed, same, listed, List.mem_map]
  simp only [trimChars_eq_iff]

end MediaNode.Text
