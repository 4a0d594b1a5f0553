import Mathlib.Algebra.BigOperators.Group.List.Basic
import Mathlib.Algebra.GroupWithZero.Nat
import MediaNode.Proofs.Text.Lines
import MediaNode.Statistics

/-!
# What the counters of the machine come to

A line of the table of interfaces either counts, with its first and its ninth number, or is silent:
a header has no colon, the loopback is named before it, and a short line has too few numbers behind
it. The counters of a text are the sums over its lines. So they add up over texts that are put
together where a line ends, and neither the order of the lines nor a silent one has a part in them.

The ticks of the processors are those of the first line for all of them. Idle and waiting ticks are
among the ones of the total, so that taking them away leaves the busy ones and loses nothing.

Sums are exact as long as they fit 64 bits. The addition that is checked gives them then and only
then, and the one that wraps gives them too.
-/
namespace MediaNode.Statistics

section Sums

variable {α : Type} [AddCommMonoid α]

/-- A run of checked additions gives the sum if that fits, and nothing else. Adding one by one stops
as soon as a part of the sum does not fit, and a part of what fits does. -/
theorem foldlM_eq_some_iff {fits : α → Prop} {add : α → α → Option α}
    (checked : ∀ a b c, add a b = some c ↔ c = a + b ∧ fits c)
    (part : ∀ a b, fits (a + b) → fits a) {start total : α} (startFits : fits start)
    (addends : List α) :
    addends.foldlM add start = some total ↔ total = start + addends.sum ∧ fits total := by
  induction addends generalizing start with
  | nil =>
    rw [List.foldlM_nil, List.sum_nil, add_zero, Option.pure_def, Option.some.injEq]
    constructor
    · rintro rfl
      exact ⟨rfl, startFits⟩
    · exact fun same => same.1.symm
  | cons addend rest inductionHypothesis =>
    rw [List.foldlM_cons, Option.bind_eq_bind, Option.bind_eq_some_iff, List.sum_cons, ← add_assoc]
    constructor
    · rintro ⟨next, added, run⟩
      obtain ⟨rfl, nextFits⟩ := (checked start addend next).mp added
      exact (inductionHypothesis nextFits).mp run
    · rintro ⟨rfl, totalFits⟩
      have nextFits : fits (start + addend) := part _ rest.sum totalFits
      exact ⟨_, (checked start addend _).mpr ⟨rfl, nextFits⟩,
        (inductionHypothesis nextFits).mpr ⟨rfl, totalFits⟩⟩

/-- It does not matter whether every addition wraps or only the sum does. -/
theorem foldl_eq_wrap (wrap : α → α) (absorbed : ∀ a b, wrap (wrap a + b) = wrap (a + b))
    (start : α) (addends : List α) :
    addends.foldl (fun total addend => wrap (total + addend)) (wrap start) =
      wrap (start + addends.sum) := by
  induction addends generalizing start with
  | nil => rw [List.foldl_nil, List.sum_nil, add_zero]
  | cons addend rest inductionHypothesis =>
    rw [List.foldl_cons, absorbed, inductionHypothesis, List.sum_cons, add_assoc]

end Sums

/-- A checked addition gives the sum if that fits. -/
theorem addChecked_eq_some_iff {a b c : Nat} :
    addChecked a b = some c ↔ c = a + b ∧ c < UInt64.size := by
  by_cases fits : a + b < UInt64.size
  · rw [addChecked, if_pos fits, Option.some.injEq]
    constructor
    · rintro rfl
      exact ⟨rfl, fits⟩
    · exact fun sum => sum.1.symm
  · rw [addChecked, if_neg fits]
    constructor
    · rintro ⟨⟩
    · rintro ⟨rfl, small⟩
      exact absurd small fits

namespace NetCounters

instance : Zero NetCounters := ⟨{ received := 0, sent := 0 }⟩

/-- Each counter is added to its own kind. -/
instance : Add NetCounters :=
  ⟨fun a b => { received := a.received + b.received, sent := a.sent + b.sent }⟩

instance : AddCommMonoid NetCounters where
  add_assoc _ _ _ := NetCounters.ext (Nat.add_assoc _ _ _) (Nat.add_assoc _ _ _)
  zero_add _ := NetCounters.ext (Nat.zero_add _) (Nat.zero_add _)
  add_zero _ := rfl
  add_comm _ _ := NetCounters.ext (Nat.add_comm _ _) (Nat.add_comm _ _)
  nsmul := nsmulRec

@[simp]
theorem received_add (a b : NetCounters) : (a + b).received = a.received + b.received := rfl

@[simp]
theorem sent_add (a b : NetCounters) : (a + b).sent = a.sent + b.sent := rfl

/-- That neither counter needs more than 64 bits. -/
def Fits (counters : NetCounters) : Prop :=
  counters.received < UInt64.size ∧ counters.sent < UInt64.size

/-- What is left of counters in 64 bits. -/
def wrap (counters : NetCounters) : NetCounters :=
  { received := counters.received % UInt64.size, sent := counters.sent % UInt64.size }

/-- Counters that fit are left as they are. -/
theorem Fits.wrap_eq {counters : NetCounters} (fits : counters.Fits) : counters.wrap = counters :=
  NetCounters.ext (Nat.mod_eq_of_lt fits.1) (Nat.mod_eq_of_lt fits.2)

/-- A part of counters that fit does. -/
theorem Fits.of_add {a b : NetCounters} (fits : (a + b).Fits) : a.Fits := by
  obtain ⟨received, sent⟩ := fits
  rw [received_add] at received
  rw [sent_add] at sent
  exact ⟨by omega, by omega⟩

end NetCounters

/-- Interfaces are added as their counters are. -/
theorem addInterface_eq_some_iff {a b c : NetCounters} :
    addInterface addChecked a b = some c ↔ c = a + b ∧ c.Fits := by
  simp only [addInterface, Option.pure_def, Option.bind_eq_bind, Option.bind_eq_some_iff,
    addChecked_eq_some_iff, Option.some.injEq]
  constructor
  · rintro ⟨received, ⟨rfl, receivedFits⟩, sent, ⟨rfl, sentFits⟩, rfl⟩
    exact ⟨rfl, receivedFits, sentFits⟩
  · rintro ⟨rfl, receivedFits, sentFits⟩
    exact ⟨_, ⟨rfl, receivedFits⟩, _, ⟨rfl, sentFits⟩, rfl⟩

/-- The numbers of a text: of what lies between its blanks, whatever is a number of 64 bits. -/
def columns (text : List Char) : List Nat :=
  ((text.splitOnP Text.isBlank).filter (· ≠ [])).filterMap (Text.unsigned? 64)

/-- The numbers are read off the words. -/
theorem numbers_eq (text : List Char) : numbers text = columns text := by
  rw [numbers, columns, Text.words_eq_filter]

/-- That a line counts, and what it adds: a name other than that of the loopback stands before its
first colon, and at least nine numbers behind it, of which the first and the ninth are added. -/
def Counts (line : List Char) (counters : NetCounters) : Prop :=
  ∃ name data, line = name ++ ':' :: data ∧ ':' ∉ name ∧ ¬ Text.Trimmed name "lo".toList ∧
    ∃ _long : 9 ≤ (columns data).length,
      counters.received = (columns data)[0] ∧ counters.sent = (columns data)[8]

/-- That a line does not count: it is a header, belongs to the loopback or is too short. -/
inductive Silent : List Char → Prop where
  | header {line} (undivided : ':' ∉ line) : Silent line
  | loopback {name data} (first : ':' ∉ name) (named : Text.Trimmed name "lo".toList) :
      Silent (name ++ ':' :: data)
  | short {name data} (first : ':' ∉ name) (few : (columns data).length < 9) :
      Silent (name ++ ':' :: data)

/-- A line without a colon has no counters. -/
theorem interfaceCounters_of_not_mem {line : List Char} (undivided : ':' ∉ line) :
    interfaceCounters line = none := by
  rw [interfaceCounters, Text.splitFirst_eq_none_iff.mpr undivided]

/-- Nine numbers are enough for the first and the ninth. -/
theorem countersOfFields_eq (fields : List Nat) :
    countersOfFields fields =
      if _long : 9 ≤ fields.length then some { received := fields[0], sent := fields[8] }
      else none := by
  rcases fields with
    _ | ⟨_, _ | ⟨_, _ | ⟨_, _ | ⟨_, _ | ⟨_, _ | ⟨_, _ | ⟨_, _ | ⟨_, _ | ⟨_, _⟩⟩⟩⟩⟩⟩⟩⟩⟩ <;>
    simp [countersOfFields]

/-- The counters of a line with a colon depend on the name and on the numbers behind it. -/
theorem interfaceCounters_append {name data : List Char} (first : ':' ∉ name) :
    interfaceCounters (name ++ ':' :: data) =
      if Text.trimChars name = "lo".toList then none else countersOfFields (columns data) := by
  rw [interfaceCounters, Text.splitFirst_eq_some_iff.mpr ⟨rfl, first⟩, ← numbers_eq]

/-- The counters of a line are what it adds if it counts. -/
theorem interfaceCounters_eq_some_iff {line : List Char} {counters : NetCounters} :
    interfaceCounters line = some counters ↔ Counts line counters := by
  constructor
  · intro read
    by_cases divided : ':' ∈ line
    · obtain ⟨name, data, rfl, first⟩ := List.eq_append_cons_of_mem divided
      rw [interfaceCounters_append first, countersOfFields_eq] at read
      split_ifs at read with loopback long
      cases read
      exact ⟨name, data, rfl, first, fun named => loopback (Text.trimChars_eq_iff.mpr named), long,
        rfl, rfl⟩
    · rw [interfaceCounters_of_not_mem divided] at read
      cases read
  · rintro ⟨name, data, rfl, first, other, long, received, sent⟩
    rw [interfaceCounters_append first,
      if_neg fun named => other (Text.trimChars_eq_iff.mp named), countersOfFields_eq, dif_pos long,
      ← received, ← sent]

/-- A line has no counters exactly when it is silent. -/
theorem interfaceCounters_eq_none_iff {line : List Char} :
    interfaceCounters line = none ↔ Silent line := by
  constructor
  · intro unread
    by_cases divided : ':' ∈ line
    · obtain ⟨name, data, rfl, first⟩ := List.eq_append_cons_of_mem divided
      rw [interfaceCounters_append first, countersOfFields_eq] at unread
      split_ifs at unread with loopback long
      · exact .loopback first (Text.trimChars_eq_iff.mp loopback)
      · exact .short first (Nat.lt_of_not_le long)
    · exact .header divided
  · rintro (undivided | ⟨first, named⟩ | ⟨first, few⟩)
    · exact interfaceCounters_of_not_mem undivided
    · rw [interfaceCounters_append first, if_pos (Text.trimChars_eq_iff.mpr named)]
    · rw [interfaceCounters_append first, countersOfFields_eq, dif_neg (Nat.not_le_of_lt few),
        ite_self]

/-- Every line is silent or counts. -/
theorem silent_or_counts (line : List Char) : Silent line ∨ ∃ counters, Counts line counters := by
  cases read : interfaceCounters line with
  | none => exact .inl (interfaceCounters_eq_none_iff.mp read)
  | some counters => exact .inr ⟨counters, interfaceCounters_eq_some_iff.mp read⟩

/-- That counters are the sums over lines: one that counts adds its own, a silent one nothing. -/
inductive Tallies : List (List Char) → NetCounters → Prop where
  | nil : Tallies [] 0
  | counted {line lines counters total} (counts : Counts line counters)
      (rest : Tallies lines total) : Tallies (line :: lines) (counters + total)
  | passed {line lines total} (silent : Silent line) (rest : Tallies lines total) :
      Tallies (line :: lines) total

/-- The sums over some lines. -/
def lineTotal (lines : List (List Char)) : NetCounters := (lines.filterMap interfaceCounters).sum

/-- A line that counts adds its counters. -/
theorem lineTotal_cons_of_counts {line : List Char} {counters : NetCounters}
    (counts : Counts line counters) (lines : List (List Char)) :
    lineTotal (line :: lines) = counters + lineTotal lines := by
  rw [lineTotal, List.filterMap_cons_some (interfaceCounters_eq_some_iff.mpr counts), List.sum_cons,
    ← lineTotal]

/-- A silent line adds nothing. -/
theorem lineTotal_cons_of_silent {line : List Char} (silent : Silent line)
    (lines : List (List Char)) : lineTotal (line :: lines) = lineTotal lines := by
  rw [lineTotal, List.filterMap_cons_none (interfaceCounters_eq_none_iff.mpr silent), ← lineTotal]

/-- Lines have their sums and no others. -/
theorem tallies_iff {lines : List (List Char)} {total : NetCounters} :
    Tallies lines total ↔ total = lineTotal lines := by
  constructor
  · intro tallied
    induction tallied with
    | nil => rfl
    | counted counts rest inductionHypothesis =>
      rw [lineTotal_cons_of_counts counts, inductionHypothesis]
    | passed silent rest inductionHypothesis =>
      rw [lineTotal_cons_of_silent silent, inductionHypothesis]
  · rintro rfl
    induction lines with
    | nil => exact .nil
    | cons line lines inductionHypothesis =>
      rcases silent_or_counts line with silent | ⟨counters, counts⟩
      · rw [lineTotal_cons_of_silent silent]
        exact .passed silent inductionHypothesis
      · rw [lineTotal_cons_of_counts counts]
        exact .counted counts inductionHypothesis

/-- The sums over more lines are the sums of the sums. -/
theorem lineTotal_append (lines others : List (List Char)) :
    lineTotal (lines ++ others) = lineTotal lines + lineTotal others := by
  rw [lineTotal, List.filterMap_append, List.sum_append, ← lineTotal, ← lineTotal]

/-- The order of the lines does not matter. -/
theorem lineTotal_perm {lines others : List (List Char)} (reordered : lines.Perm others) :
    lineTotal lines = lineTotal others :=
  (reordered.filterMap interfaceCounters).sum_eq

/-- Neither does a silent line, wherever it stands. -/
theorem lineTotal_insert {line : List Char} (silent : Silent line)
    (before after : List (List Char)) :
    lineTotal (before ++ line :: after) = lineTotal (before ++ after) := by
  rw [lineTotal_append, lineTotal_cons_of_silent silent, lineTotal_append]

/-- The counters of a text are what is left in 64 bits of the sums over its lines. -/
theorem netCounters_eq (content : String) :
    netCounters content = (lineTotal (Text.lineList content.toList)).wrap := by
  have absorbed (a b : NetCounters) : (a.wrap + b).wrap = (a + b).wrap :=
    NetCounters.ext (Nat.mod_add_mod _ _ _) (Nat.mod_add_mod _ _ _)
  have whole := foldl_eq_wrap NetCounters.wrap absorbed 0
    ((Text.lineList content.toList).filterMap interfaceCounters)
  rw [zero_add] at whole
  rw [netCounters, netCountersBy, List.idRun_foldlM]
  -- adding an interface wraps both of its sums, which is what wrapping the counters means
  exact whole

/-- Where no sum may wrap, they are the sums over the lines if those fit. -/
theorem netCounters?_eq_some_iff {content : String} {counters : NetCounters} :
    netCounters? content = some counters ↔
      counters = lineTotal (Text.lineList content.toList) ∧ counters.Fits := by
  have whole : netCounters? content = some counters ↔
      counters = 0 + lineTotal (Text.lineList content.toList) ∧ counters.Fits :=
    foldlM_eq_some_iff (fun _ _ _ => addInterface_eq_some_iff)
      (fun _ _ => NetCounters.Fits.of_add) ⟨by decide, by decide⟩
      ((Text.lineList content.toList).filterMap interfaceCounters)
  rwa [zero_add] at whole

/-- Texts whose lines have the same sums have the same counters. -/
theorem netCounters_congr {one other : String}
    (same : lineTotal (Text.lineList one.toList) = lineTotal (Text.lineList other.toList)) :
    netCounters one = netCounters other ∧ netCounters? one = netCounters? other := by
  refine ⟨?_, Option.ext fun counters => ?_⟩
  · rw [netCounters_eq, netCounters_eq, same]
  · rw [netCounters?_eq_some_iff, netCounters?_eq_some_iff, same]

/-- Texts that are put together where a line ends have the counters of both, if those fit. -/
theorem netCounters_append {front back : String} (ended : ∀ c ∈ front.toList.getLast?, c = '\n')
    (fits : (lineTotal (Text.lineList (front ++ back).toList)).Fits) :
    netCounters (front ++ back) = netCounters front + netCounters back ∧
      ∃ one other, netCounters? front = some one ∧ netCounters? back = some other ∧
        netCounters? (front ++ back) = some (one + other) := by
  -- the exact sums add up whether or not they fit; that they do is needed for the wrapped ones only
  have parts : lineTotal (Text.lineList (front ++ back).toList) =
      lineTotal (Text.lineList front.toList) + lineTotal (Text.lineList back.toList) := by
    rw [String.toList_append, Text.lineList_append ended, lineTotal_append]
  have bothFit := parts ▸ fits
  have frontFits : (lineTotal (Text.lineList front.toList)).Fits := bothFit.of_add
  have backFits : (lineTotal (Text.lineList back.toList)).Fits := by
    rw [add_comm] at bothFit
    exact bothFit.of_add
  constructor
  · rw [netCounters_eq, netCounters_eq, netCounters_eq, fits.wrap_eq, frontFits.wrap_eq,
      backFits.wrap_eq, parts]
  · exact ⟨_, _, netCounters?_eq_some_iff.mpr ⟨rfl, frontFits⟩,
      netCounters?_eq_some_iff.mpr ⟨rfl, backFits⟩,
      netCounters?_eq_some_iff.mpr ⟨parts.symm, bothFit⟩⟩

/-- That a line of a text is the one for all processors: the first that begins as it does. -/
def IsSummary (content : String) (line : List Char) : Prop :=
  ∃ before after, Text.lineList content.toList = before ++ line :: after ∧
    "cpu ".toList <+: line ∧ ∀ other ∈ before, ¬ "cpu ".toList <+: other

/-- That times are those of a row of numbers. The total is the sum of the first eight. The fourth
is idle and the fifth, if there is one, waits for input and output; both are part of the total, and
the rest of it is busy. -/
structure Accounts (fields : List Nat) (times : CpuTimes) : Prop where
  total : times.total = (fields.take 8).sum
  idle : ∃ idle, fields[3]? = some idle ∧ idle + fields.getD 4 0 ≤ times.total ∧
    times.busy + idle + fields.getD 4 0 = times.total
  busy : times.busy ≤ times.total

/-- The name at the beginning of the line is not among its numbers. -/
theorem columns_of_begins {line : List Char} (begins : "cpu ".toList <+: line) :
    ((Text.words line).drop 1).filterMap (Text.unsigned? 64) = columns line := by
  obtain ⟨rest, rfl⟩ := begins
  have named : Text.words ("cpu ".toList ++ rest) = "cpu".toList :: Text.words rest :=
    Text.words_append_blank (by decide) "cpu".toList rest
  have noNumber : Text.unsigned? 64 "cpu".toList = none := by decide
  rw [← numbers_eq, numbers, named, List.drop_one, List.tail_cons,
    List.filterMap_cons_none noNumber]

/-- The numbers that are read are those of the line for all processors. -/
theorem cpuFields_eq_some_iff {content : String} {fields : List Nat} :
    cpuFields content = some fields ↔ ∃ line, IsSummary content line ∧ fields = columns line := by
  have found (line : List Char) :
      (Text.lineList content.toList).find? ("cpu ".toList.isPrefixOf ·) = some line ↔
        IsSummary content line := by
    simp only [List.find?_eq_some_iff_append, IsSummary, List.isPrefixOf_iff_prefix,
      Bool.not_eq_eq_eq_not, Bool.not_true, ← Bool.not_eq_true]
    tauto
  rw [cpuFields, Option.map_eq_some_iff]
  refine exists_congr fun line => ?_
  rw [found, and_congr_right_iff]
  intro summary
  obtain ⟨before, after, -, begins, -⟩ := summary
  rw [columns_of_begins begins]
  exact eq_comm

section Ticks

variable {m : Type → Type} [Monad m] {add : Nat → Nat → m Nat} {content : String}

/-- The ticks are those of the line for all processors, whatever the other lines are. -/
theorem cpuTimesBy_of_summary {line : List Char} (summary : IsSummary content line) :
    cpuTimesBy add content = cpuOfFields add (columns line) := by
  rw [cpuTimesBy, cpuFields_eq_some_iff.mpr ⟨line, summary, rfl⟩]

/-- There are none without that line. -/
theorem cpuTimesBy_of_not_summary (missing : ∀ line, ¬ IsSummary content line) :
    cpuTimesBy add content = pure none := by
  have unread : cpuFields content = none := by
    rw [Option.eq_none_iff_forall_ne_some]
    intro fields read
    obtain ⟨line, summary, -⟩ := cpuFields_eq_some_iff.mp read
    exact missing line summary
  rw [cpuTimesBy, unread]

/-- A row with a fourth number has a total, less idle and waiting ticks. -/
theorem cpuOfFields_eq {fields : List Nat} (enough : 3 < fields.length) :
    cpuOfFields add fields = do
      let total ← (fields.take 8).foldlM add 0
      let waiting ← add fields[3] (fields.getD 4 0)
      return some { busy := total - waiting, total } := by
  rcases fields with _ | ⟨first, _ | ⟨second, _ | ⟨third, _ | ⟨idle, rest⟩⟩⟩⟩
  case cons.cons.cons.cons => cases rest <;> rfl
  all_goals simp at enough

/-- A shorter row has none. -/
theorem cpuOfFields_of_short {fields : List Nat} (few : fields.length ≤ 3) :
    cpuOfFields add fields = pure none := by
  rcases fields with _ | ⟨first, _ | ⟨second, _ | ⟨third, _ | ⟨idle, rest⟩⟩⟩⟩
  case cons.cons.cons.cons =>
    simp only [List.length_cons] at few
    omega
  all_goals rfl

end Ticks

section Rows

variable {fields : List Nat} {times : CpuTimes}

/-- Idle and waiting ticks are among the first eight numbers. -/
theorem idle_le_sum (enough : 3 < fields.length) :
    fields[3] + fields.getD 4 0 ≤ (fields.take 8).sum := by
  rcases fields with _ | ⟨first, _ | ⟨second, _ | ⟨third, _ | ⟨idle, rest⟩⟩⟩⟩
  case cons.cons.cons.cons => cases rest <;> simp <;> omega
  all_goals simp at enough

/-- A row that accounts for times has a fourth number. -/
theorem Accounts.enough (accounts : Accounts fields times) : 3 < fields.length := by
  obtain ⟨idle, fourth, -⟩ := accounts.idle
  obtain ⟨inside, -⟩ := List.getElem?_eq_some_iff.mp fourth
  exact inside

/-- Such a row accounts for what is left of the total when idle and waiting ticks are taken away,
and for no other times. -/
theorem accounts_iff (enough : 3 < fields.length) :
    Accounts fields times ↔
      times =
        { busy := (fields.take 8).sum - (fields[3] + fields.getD 4 0)
          total := (fields.take 8).sum } := by
  have part := idle_le_sum enough
  constructor
  · rintro ⟨total, ⟨idle, fourth, -, balance⟩, -⟩
    obtain ⟨inside, rfl⟩ := List.getElem?_eq_some_iff.mp fourth
    obtain ⟨busy, whole⟩ := times
    dsimp only at total balance
    rw [CpuTimes.mk.injEq]
    omega
  · rintro rfl
    refine ⟨rfl, ⟨fields[3], List.getElem?_eq_getElem enough, part, ?_⟩, Nat.sub_le _ _⟩
    dsimp only
    omega

/-- Where no sum may wrap, a row has times exactly when it accounts for them and the total fits. -/
theorem cpuOfFields_checked_iff :
    cpuOfFields addChecked fields = some (some times) ↔
      Accounts fields times ∧ times.total < UInt64.size := by
  rcases Nat.lt_or_ge 3 fields.length with enough | few
  · have summed (total : Nat) :
        (fields.take 8).foldlM addChecked 0 = some total ↔
          total = 0 + (fields.take 8).sum ∧ total < UInt64.size :=
      foldlM_eq_some_iff (fun _ _ _ => addChecked_eq_some_iff)
        (fun a b fits => Nat.lt_of_le_of_lt (Nat.le_add_right a b) fits) (by decide) _
    simp only [cpuOfFields_eq enough, Option.bind_eq_bind, Option.bind_eq_some_iff, summed,
      addChecked_eq_some_iff, Option.pure_def, Option.some.injEq, accounts_iff enough, zero_add]
    constructor
    · rintro ⟨total, ⟨rfl, fits⟩, waiting, ⟨rfl, -⟩, rfl⟩
      exact ⟨rfl, fits⟩
    · rintro ⟨rfl, fits⟩
      exact ⟨_, ⟨rfl, fits⟩, _, ⟨rfl, Nat.lt_of_le_of_lt (idle_le_sum enough) fits⟩, rfl⟩
  · rw [cpuOfFields_of_short few]
    constructor
    · rintro ⟨⟩
    · rintro ⟨accounts, -⟩
      exact absurd accounts.enough (Nat.not_lt_of_le few)

/-- Where sums wrap, a row with a fourth number always has times. -/
theorem cpuOfFields_wrapping (enough : 3 < fields.length) :
    (cpuOfFields addWrapping fields).run =
      some
        { busy := (fields.take 8).sum % UInt64.size -
            (fields[3] + fields.getD 4 0) % UInt64.size
          total := (fields.take 8).sum % UInt64.size } := by
  have whole := foldl_eq_wrap (· % UInt64.size) (Nat.mod_add_mod · UInt64.size ·) 0 (fields.take 8)
  rw [zero_add] at whole
  have summed : ((fields.take 8).foldlM addWrapping 0).run =
      (fields.take 8).sum % UInt64.size := by
    rw [List.idRun_foldlM]
    exact whole
  rw [cpuOfFields_eq enough, Id.run_bind, summed]
  rfl

end Rows

/-- What the ticks of a text are, by the line for all processors. -/
theorem cpuTimes_of_summary {content : String} {line : List Char}
    (summary : IsSummary content line) :
    cpuTimes content = (cpuOfFields addWrapping (columns line)).run := by
  rw [cpuTimes, cpuTimesBy_of_summary summary]

/-- A text has ticks if that line has four numbers. -/
theorem exists_cpuTimes_iff {content : String} :
    (∃ times, cpuTimes content = some times) ↔
      ∃ line, IsSummary content line ∧ 4 ≤ (columns line).length := by
  constructor
  · rintro ⟨times, read⟩
    by_cases present : ∃ line, IsSummary content line
    · obtain ⟨line, summary⟩ := present
      refine ⟨line, summary, Nat.lt_of_not_le fun few => ?_⟩
      rw [cpuTimes_of_summary summary, cpuOfFields_of_short few] at read
      cases read
    · rw [cpuTimes, cpuTimesBy_of_not_summary fun line summary => present ⟨line, summary⟩] at read
      cases read
  · rintro ⟨line, summary, enough⟩
    rw [cpuTimes_of_summary summary, cpuOfFields_wrapping enough]
    exact ⟨_, rfl⟩

/-- They account for all ticks of the line if the total fits. -/
theorem accounts_of_cpuTimes {content : String} {line : List Char} {times : CpuTimes}
    (summary : IsSummary content line) (fits : ((columns line).take 8).sum < UInt64.size)
    (read : cpuTimes content = some times) : Accounts (columns line) times := by
  rw [cpuTimes_of_summary summary] at read
  rcases Nat.lt_or_ge 3 (columns line).length with enough | few
  · have part := idle_le_sum enough
    rw [cpuOfFields_wrapping enough, Nat.mod_eq_of_lt fits,
      Nat.mod_eq_of_lt (Nat.lt_of_le_of_lt part fits)] at read
    exact (accounts_iff enough).mpr (Option.some.inj read).symm
  · rw [cpuOfFields_of_short few] at read
    cases read

/-- Where no sum may wrap, a text has ticks exactly when they account for those of that line and the
total fits. -/
theorem cpuTimes?_eq_some_iff {content : String} {times : CpuTimes} :
    cpuTimes? content = some (some times) ↔
      ∃ line, IsSummary content line ∧ Accounts (columns line) times ∧
        times.total < UInt64.size := by
  constructor
  · intro read
    by_cases present : ∃ line, IsSummary content line
    · obtain ⟨line, summary⟩ := present
      rw [cpuTimes?, cpuTimesBy_of_summary summary] at read
      exact ⟨line, summary, cpuOfFields_checked_iff.mp read⟩
    · rw [cpuTimes?, cpuTimesBy_of_not_summary fun line summary => present ⟨line, summary⟩] at read
      cases read
  · rintro ⟨line, summary, accounted⟩
    rw [cpuTimes?, cpuTimesBy_of_summary summary]
    exact cpuOfFields_checked_iff.mpr accounted

/-- What the counters of a text are, for the interfaces and for the processors. -/
structure Counting : Prop where
  /-- The counters of the interfaces are the sums over the lines that count, whenever these fit. -/
  sums : ∀ content, ∃ total,
    (∀ counters, Tallies (Text.lineList content.toList) counters ↔ counters = total) ∧
    (total.Fits → netCounters content = total) ∧
    ∀ counters, netCounters? content = some counters ↔ counters = total ∧ total.Fits
  /-- They add up where texts are put together at the end of a line. -/
  joined : ∀ front back, (∀ c ∈ front.toList.getLast?, c = '\n') →
    ∀ total, Tallies (Text.lineList (front ++ back).toList) total → total.Fits →
      netCounters (front ++ back) = netCounters front + netCounters back ∧
      ∃ one other, netCounters? front = some one ∧ netCounters? back = some other ∧
        netCounters? (front ++ back) = some (one + other)
  /-- The order of the lines does not change them, -/
  reordered : ∀ one other, (Text.lineList one.toList).Perm (Text.lineList other.toList) →
    netCounters one = netCounters other ∧ netCounters? one = netCounters? other
  /-- and neither does a silent line. -/
  silenced : ∀ one other before line after, Silent line →
    Text.lineList one.toList = before ++ line :: after →
    Text.lineList other.toList = before ++ after →
      netCounters one = netCounters other ∧ netCounters? one = netCounters? other
  /-- There are ticks if the first line for all processors has as many numbers as it takes. -/
  present : ∀ content, (∃ times, cpuTimes content = some times) ↔
    ∃ line, IsSummary content line ∧ 4 ≤ (columns line).length
  /-- Idle, waiting and busy ticks make up the total whenever it fits, -/
  accounted : ∀ content line times, IsSummary content line →
    ((columns line).take 8).sum < UInt64.size →
    cpuTimes content = some times → Accounts (columns line) times
  /-- which is whenever there are ticks, if no sum may wrap. -/
  checked : ∀ content times, cpuTimes? content = some (some times) ↔
    ∃ line, IsSummary content line ∧ Accounts (columns line) times ∧ times.total < UInt64.size
  /-- No other line has a part in them. -/
  alone : ∀ one other line, IsSummary one line → IsSummary other line →
    cpuTimes one = cpuTimes other ∧ cpuTimes? one = cpuTimes? other

/-- The counters of a text are exact, the sums over the interfaces and the ticks of the processors
alike. -/
theorem counters_exact : Counting where
  sums content := by
    refine ⟨lineTotal (Text.lineList content.toList), fun counters => tallies_iff, fun fits => ?_,
      fun counters => ?_⟩
    · rw [netCounters_eq, fits.wrap_eq]
    · rw [netCounters?_eq_some_iff]
      exact and_congr_right fun total => total ▸ Iff.rfl
  joined front back ended total tallied fits :=
    netCounters_append ended (tallies_iff.mp tallied ▸ fits)
  reordered one other reordered := netCounters_congr (lineTotal_perm reordered)
  silenced one other before line after silent longer shorter := by
    refine netCounters_congr ?_
    rw [longer, shorter, lineTotal_insert silent]
  present content := exists_cpuTimes_iff
  accounted content line times := accounts_of_cpuTimes
  checked content times := cpuTimes?_eq_some_iff
  alone one other line summary otherSummary := by
    rw [cpuTimes_of_summary summary, cpuTimes_of_summary otherSummary, cpuTimes?, cpuTimes?,
      cpuTimesBy_of_summary summary, cpuTimesBy_of_summary otherSummary]
    exact ⟨rfl, rfl⟩

/-- A table with a header, the loopback, a word that is no number and a line that is too short. -/
def mixedTable : String :=
  "Inter-| Receive\n lo: 9 0 0 0 0 0 0 0 9\r\n eth0: 1000 x 1 2 3 4 5 6 7 +2000 8\n" ++
    "wlan0: 1 2\neth1:500 5 0 0 0 0 0 0 250"

/-- A line for all processors behind another one, with more numbers than the total has. -/
def mixedTicks : String := "intr 1\ncpu  100 0 50 800 50 0 0 0 7 7\ncpu 1"

/-- Two lines of the table count, and the ninth number of the ticks and those behind it do not. -/
theorem counters_exact_mixed :
    Tallies (Text.lineList mixedTable.toList) { received := 1500, sent := 2250 } ∧
      netCounters mixedTable = { received := 1500, sent := 2250 } ∧
      cpuTimes mixedTicks = some { busy := 150, total := 1000 } ∧
      Accounts [100, 0, 50, 800, 50, 0, 0, 0, 7, 7] { busy := 150, total := 1000 } := by
  obtain ⟨total, tallied, fitting, checked⟩ := counters_exact.sums mixedTable
  have counters : netCounters? mixedTable = some { received := 1500, sent := 2250 } := by
    decide +kernel
  obtain ⟨rfl, fits⟩ := (checked _).mp counters
  have ticks : cpuTimes mixedTicks = some { busy := 150, total := 1000 } := by decide +kernel
  have summary : IsSummary mixedTicks "cpu  100 0 50 800 50 0 0 0 7 7".toList :=
    ⟨["intr 1".toList], ["cpu 1".toList], by decide +kernel, by decide, by decide⟩
  exact ⟨(tallied _).mpr rfl, fitting fits, ticks,
    counters_exact.accounted _ _ _ summary (by decide +kernel) ticks⟩

end MediaNode.Statistics
