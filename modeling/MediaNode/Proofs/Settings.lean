import Mathlib.Data.List.Induction
import MediaNode.Proofs.Node.History
import MediaNode.Proofs.Text.Lines
import MediaNode.Proofs.Worker.Renewal

/-!
# What a text of settings settles

Every line that says something has a key and a value. A line is usable when its key is known and
its value is good for that key. A field has the value of the last usable line with its key, and
the default where there is none; no other line has a part in it. A line that is not usable is
warned of once, in its turn.

So the settings of every text are sound whatever the text says: addresses are addresses, times are
positive, there is a program for the workers, and a license key is a key.
-/
namespace MediaNode

/-- The spelling of a key. -/
def Key.spelling : Key → String
  | .logPath => "log_path"
  | .logLevel => "log_level"
  | .host => "host"
  | .httpHost => "http_host"
  | .vodsHost => "vods_host"
  | .codsHost => "cods_host"
  | .codsTtl => "cods_ttl"
  | .filesTtl => "files_ttl"
  | .streamlinkPath => "streamlink_path"
  | .workerPath => "worker_path"
  | .licenseKey => "license_key"

/-- A key is known by its spelling. -/
theorem Key.lookup_spellings_iff {text : String} {key : Key} :
    spellings.lookup text = some key ↔ text = key.spelling := by
  constructor
  · intro found
    obtain ⟨before, later, split, -⟩ := List.lookup_eq_some_iff.mp found
    have listed : (text, key) ∈ spellings := by
      rw [split]
      exact List.mem_append_right before List.mem_cons_self
    simp only [spellings, List.mem_cons, Prod.mk.injEq, List.not_mem_nil, or_false] at listed
    rcases listed with ⟨rfl, rfl⟩ | ⟨rfl, rfl⟩ | ⟨rfl, rfl⟩ | ⟨rfl, rfl⟩ | ⟨rfl, rfl⟩ | ⟨rfl, rfl⟩ |
      ⟨rfl, rfl⟩ | ⟨rfl, rfl⟩ | ⟨rfl, rfl⟩ | ⟨rfl, rfl⟩ | ⟨rfl, rfl⟩ <;> rfl
  · rintro rfl
    cases key <;> rfl

/-- Two keys have different spellings. -/
theorem Key.spelling_inj {one other : Key} : one.spelling = other.spelling ↔ one = other := by
  rw [← Key.lookup_spellings_iff, Key.lookup_spellings_iff.mpr rfl, Option.some.injEq]

namespace Settings

/-- The key and the value of a line that says something. -/
abbrev Line := String × String

/-- That a text that says something has this key and this value: the first equals sign lies between
them, and a text without one is a key. -/
def Splits (text : List Char) (line : Line) : Prop :=
  (∃ front back, text = front ++ '=' :: back ∧ '=' ∉ front ∧
      Text.Trimmed front line.fst.toList ∧ Text.Trimmed back line.snd.toList) ∨
    ('=' ∉ text ∧ Text.Trimmed text line.fst.toList ∧ line.snd = "")

/-- That a text of settings has these lines that say something: in order, what lies between its line
feeds, without the blanks at either end, unless nothing is left or a comment. -/
def Reads (content : String) (lines : List Line) : Prop :=
  ∃ texts, List.Forall₂ Text.Trimmed (Text.splitAll '\n' content.toList) texts ∧
    List.Forall₂ Splits (texts.filter fun text => text ≠ [] ∧ text.head? ≠ some '#') lines

/-- A text is split into its key and its value. -/
theorem splits_splitLine (text : List Char) : Splits text (splitLine text) := by
  have trimmed (piece : List Char) :
      Text.Trimmed piece (String.ofList (Text.trimChars piece)).toList := by
    rw [String.toList_ofList]
    exact Text.trimChars_eq_iff.mp rfl
  unfold splitLine
  cases split : Text.splitFirst '=' text with
  | none => exact .inr ⟨Text.splitFirst_eq_none_iff.mp split, trimmed text, rfl⟩
  | some pieces =>
    obtain ⟨whole, absent⟩ := Text.splitFirst_eq_some_iff.mp split
    exact .inl ⟨pieces.fst, pieces.snd, whole, absent, trimmed pieces.fst, trimmed pieces.snd⟩

/-- The lines are read off the text. -/
theorem reads_statements (content : String) : Reads content (statements content) := by
  refine ⟨(Text.splitAll '\n' content.toList).map Text.trimChars, ?_, ?_⟩
  · rw [List.forall₂_map_right_iff, List.forall₂_same]
    exact fun line _ => Text.trimChars_eq_iff.mp rfl
  · have same := Text.filter_map_trimChars_lineList content.toList
      (fun line => !line.isEmpty && line.head? ≠ some '#') rfl
    rw [statements, same, List.forall₂_map_right_iff]
    have condition : (fun line : List Char => !line.isEmpty && line.head? ≠ some '#') =
        fun line => decide (line ≠ [] ∧ line.head? ≠ some '#') := by
      funext line
      cases line <;> simp
    rw [← condition, List.forall₂_same]
    exact fun text _ => splits_splitLine text

/-- What a line says has no blanks at its ends, so it has a word if it is not empty. -/
theorem words_ne_nil_of_mem_statements {content key value : String}
    (listed : (key, value) ∈ statements content) (some : value ≠ "") :
    Text.words value.toList ≠ [] := by
  obtain ⟨text, -, split⟩ := List.mem_map.mp listed
  have splits := splits_splitLine text
  rw [split] at splits
  obtain ⟨front, back, -, -, -, trimmed⟩ | ⟨-, -, empty⟩ := splits
  · cases characters : value.toList with
    | nil => exact absurd (String.toList_eq_nil_iff.mp characters) some
    | cons first rest =>
      rw [characters] at trimmed
      exact Text.words_ne_nil List.mem_cons_self (trimmed.front first rfl)
  · exact absurd empty some

/-- A host that is not empty, and a port number behind the last colon. -/
def IsAddress (value : String) : Prop :=
  ∃ host port number, value.toList = host ++ ':' :: port ∧ host ≠ [] ∧ ':' ∉ port ∧
    Text.unsigned? 16 port = some number

/-- Addresses are recognised. -/
theorem isHostAndPort_iff {value : String} : isHostAndPort value = true ↔ IsAddress value := by
  unfold isHostAndPort
  constructor
  · intro checked
    split at checked
    · next host port split =>
      obtain ⟨text, last⟩ := Text.splitLast_eq_some_iff.mp split
      obtain ⟨named, numbered⟩ := Bool.and_eq_true_iff.mp checked
      obtain ⟨number, read⟩ := Option.isSome_iff_exists.mp numbered
      exact ⟨host, port, number, text, by simpa using named, last, read⟩
    · cases checked
  · rintro ⟨host, port, number, text, named, last, read⟩
    rw [Text.splitLast_eq_some_iff.mpr ⟨text, last⟩]
    simp [named, read]

/-- The severity that a value spells. -/
def level? (value : String) : Option LogLevel :=
  LogLevel.spellings.lookup (Text.asciiUpper (Text.trim value))

/-- That a value can be used for a key. -/
def Suits : Key → String → Prop
  | .logPath, _ | .streamlinkPath, _ => True
  | .logLevel, value => ∃ level, level? value = some level
  | .host, value | .httpHost, value | .vodsHost, value | .codsHost, value => IsAddress value
  | .codsTtl, value | .filesTtl, value => ∃ n, Text.unsigned? 64 value.toList = some n ∧ 0 < n
  | .workerPath, value => value ≠ ""
  | .licenseKey, value => ∃ expiry, License.expireTime value = some expiry

/-- That the key of a line is known and its value can be used for it. -/
def Usable (line : Line) : Prop := ∃ key : Key, line.fst = key.spelling ∧ Suits key line.snd

/-- A line with a known key is usable if its value suits that key. -/
theorem usable_iff {key : Key} {value : String} :
    Usable (key.spelling, value) ↔ Suits key value := by
  constructor
  · rintro ⟨other, same, suits⟩
    exact Key.spelling_inj.mp same ▸ suits
  · exact fun suits => ⟨key, rfl, suits⟩

/-- Positive numbers of seconds are recognised. -/
theorem seconds?_eq_some_iff {value : String} {n : Nat} :
    seconds? value = some n ↔ Text.unsigned? 64 value.toList = some n ∧ 0 < n := by
  simp [seconds?, Option.filter_eq_some_iff]

/-- Whether a value suits a key can be computed. -/
instance decidableSuits : (key : Key) → (value : String) → Decidable (Suits key value)
  | .logPath, _ | .streamlinkPath, _ => .isTrue trivial
  | .logLevel, _ => decidable_of_iff _ Option.isSome_iff_exists
  | .host, _ | .httpHost, _ | .vodsHost, _ | .codsHost, _ => decidable_of_iff _ isHostAndPort_iff
  | .codsTtl, _ | .filesTtl, _ => decidable_of_iff _
      (Option.isSome_iff_exists.trans (exists_congr fun _ => seconds?_eq_some_iff))
  | .workerPath, value => inferInstanceAs (Decidable (value ≠ ""))
  | .licenseKey, _ => decidable_of_iff _ Option.isSome_iff_exists

/-- So can whether a line is usable. -/
instance decidableUsable (line : Line) : Decidable (Usable line) :=
  decidable_of_iff (∃ key ∈ Key.spellings.lookup line.fst, Suits key line.snd)
    (by simp only [Option.mem_def, Key.lookup_spellings_iff, Usable])

/-- The value of the last usable line with a key. -/
def lastUsable (key : String) (lines : List Line) : Option String :=
  (lines.reverse.find? fun line => line.fst = key ∧ Usable line).map Prod.snd

/-- One more line has the last word if it is usable and has the key. -/
theorem lastUsable_concat (key : String) (lines : List Line) (line : Line) :
    lastUsable key (lines ++ [line]) =
      if line.fst = key ∧ Usable line then some line.snd else lastUsable key lines := by
  unfold lastUsable
  rw [List.reverse_concat, List.find?_cons]
  split <;> simp_all

/-- The last value is that of a usable line. -/
theorem of_lastUsable {key : Key} {lines : List Line} {value : String}
    (found : lastUsable key.spelling lines = some value) :
    (key.spelling, value) ∈ lines ∧ Suits key value := by
  obtain ⟨⟨name, value⟩, first, rfl⟩ := Option.map_eq_some_iff.mp found
  have both := List.find?_some first
  obtain ⟨rfl, usable⟩ := of_decide_eq_true both
  exact ⟨List.mem_reverse.mp (List.mem_of_find?_eq_some first), usable_iff.mp usable⟩

variable {source : String} {settings : Settings} {lines : List Line}

/-- The settings with a value in the field of a key. -/
def write (settings : Settings) (value : String) : Key → Settings
  | .logPath => { settings with logPath := ⟨value⟩ }
  | .logLevel => { settings with logLevel := (level? value).getD settings.logLevel }
  | .host => { settings with host := value }
  | .httpHost => { settings with httpHost := value }
  | .vodsHost => { settings with vodsHost := value }
  | .codsHost => { settings with codsHost := value }
  | .codsTtl => { settings with codsTtl := (seconds? value).getD settings.codsTtl }
  | .filesTtl => { settings with filesTtl := (seconds? value).getD settings.filesTtl }
  | .streamlinkPath => { settings with streamlinkPath := ⟨value⟩ }
  | .workerPath => { settings with workerPath := value }
  | .licenseKey => { settings with licenseKey := some value }

/-- A value that suits its key is written into the field of that key. -/
theorem apply_of_suits {key : Key} {value : String} (suits : Suits key value) :
    settings.apply source key.spelling value = .ok (settings.write value key) := by
  have known := Key.lookup_spellings_iff.mpr (rfl : key.spelling = key.spelling)
  cases key <;> simp only [apply, known, setHost, setSeconds, write]
  case logLevel =>
    obtain ⟨level, spelled⟩ := suits
    rw [level?] at spelled
    simp only [LogLevel.parse, level?, spelled, Option.getD_some]
  case host | httpHost | vodsHost | codsHost => rw [if_pos (isHostAndPort_iff.mpr suits)]
  case codsTtl | filesTtl =>
    obtain ⟨n, read⟩ := suits
    simp only [seconds?_eq_some_iff.mpr read, Option.getD_some]
  case workerPath => rw [if_neg suits]
  case licenseKey => rw [if_pos (Option.isSome_iff_exists.mpr suits)]

/-- A line that is not usable is refused with a warning. -/
theorem exists_apply_eq_error (source : String) (settings : Settings) {line : Line}
    (unusable : ¬ Usable line) :
    ∃ warning, settings.apply source line.fst line.snd = .error warning := by
  obtain ⟨name, value⟩ := line
  unfold apply
  cases found : Key.spellings.lookup name with
  | none => exact ⟨_, rfl⟩
  | some key =>
    obtain rfl := Key.lookup_spellings_iff.mp found
    rw [usable_iff] at unusable
    cases key <;> simp only [setHost, setSeconds]
    case logPath | streamlinkPath => exact absurd trivial unusable
    case logLevel =>
      have unknown : LogLevel.spellings.lookup (Text.asciiUpper (Text.trim value)) = none :=
        Option.eq_none_iff_forall_ne_some.mpr fun level spelled => unusable ⟨level, spelled⟩
      exact ⟨_, by simp only [LogLevel.parse, unknown]; rfl⟩
    case host | httpHost | vodsHost | codsHost =>
      exact ⟨_, if_neg fun address => unusable (isHostAndPort_iff.mp address)⟩
    case codsTtl | filesTtl =>
      have unread : seconds? value = none :=
        Option.eq_none_iff_forall_ne_some.mpr fun n read =>
          unusable ⟨n, seconds?_eq_some_iff.mp read⟩
      exact ⟨_, by rw [unread]⟩
    case workerPath => exact ⟨_, if_pos (not_not.mp unusable)⟩
    case licenseKey =>
      exact ⟨_, if_neg fun decodes => unusable (Option.isSome_iff_exists.mp decodes)⟩

/-- The settings after a line: changed by a usable one, the same after any other. -/
def next (source : String) (settings : Settings) (line : Line) : Settings :=
  match settings.apply source line.fst line.snd with
  | .ok changed => changed
  | .error _ => settings

/-- The settings after some lines. -/
def after (source : String) (lines : List Line) : Settings := lines.foldl (next source) {}

/-- One line follows the others. -/
theorem after_concat (source : String) (lines : List Line) (line : Line) :
    after source (lines ++ [line]) = next source (after source lines) line := List.foldl_concat ..

/-- The warning that a line gets behind others, if it gets one. -/
def objection? (source : String) (before : List Line) (line : Line) : Option String :=
  match (after source before).apply source line.fst line.snd with
  | .ok _ => none
  | .error warning => some warning

/-- A line gets a warning if it is not usable, whatever lines there are before it. -/
theorem isSome_objection?_iff (source : String) (before : List Line) (line : Line) :
    (objection? source before line).isSome ↔ ¬ Usable line := by
  unfold objection?
  by_cases usable : Usable line
  · obtain ⟨name, value⟩ := line
    obtain ⟨key, rfl, suits⟩ := id usable
    rw [apply_of_suits suits]
    simpa using usable
  · obtain ⟨warning, refused⟩ := exists_apply_eq_error source (after source before) usable
    rw [refused]
    simpa using usable

/-- The warnings that lines get, in the order of the lines. -/
def objections (source : String) (lines : List Line) : List String :=
  lines.zipIdx.filterMap fun (line, place) => objection? source (lines.take place) line

/-- One more line gets its warning at the end. -/
theorem objections_concat (source : String) (lines : List Line) (line : Line) :
    objections source (lines ++ [line]) =
      objections source lines ++ (objection? source lines line).toList := by
  unfold objections
  rw [List.zipIdx_append, List.filterMap_append]
  congr 1
  · refine List.filterMap_congr fun ⟨other, place⟩ listed => ?_
    have early := (List.mem_zipIdx listed).2.1
    simp only [List.take_append_of_le_length (show place ≤ lines.length by omega)]
  · cases warned : objection? source lines line <;> simp [warned]

/-- Lines are applied part by part. -/
theorem applyAll_append (source : String) (settings : Settings) (before later : List Line) :
    applyAll source settings (before ++ later) =
      ((applyAll source (applyAll source settings before).fst later).fst,
        (applyAll source settings before).snd ++
          (applyAll source (applyAll source settings before).fst later).snd) := by
  induction before generalizing settings with
  | nil => rfl
  | cons line rest inductionHypothesis =>
    simp only [List.cons_append, applyAll]
    cases settings.apply source line.fst line.snd with
    | ok changed => exact inductionHypothesis changed
    | error warning => simp only [inductionHypothesis settings, List.cons_append]

/-- Applying lines to the defaults gives the settings after them, and their warnings. -/
theorem applyAll_eq (source : String) (lines : List Line) :
    applyAll source {} lines = (after source lines, objections source lines) := by
  induction lines using List.reverseRecOn with
  | nil => rfl
  | append_singleton lines line inductionHypothesis =>
    rw [applyAll_append, inductionHypothesis, after_concat, objections_concat, next, objection?]
    simp only [applyAll]
    cases (after source lines).apply source line.fst line.snd with
    | ok changed => rfl
    | error warning => rfl

/-- That what can be read off a value is written into a field for a certain key, and the field left
alone for every other key. -/
def Writes {α : Type} (key : Key) (field : Settings → α) (read : String → Option α) : Prop :=
  ∀ (settings : Settings) (other : Key) (value : String), Suits other value →
    some (field (settings.write value other)) =
      if other = key then read value else some (field settings)

/-- A field has the last value that was written into it, and the default before. -/
theorem Writes.after {α : Type} {key : Key} {field : Settings → α} {read : String → Option α}
    (writes : Writes key field read) (source : String) (lines : List Line) :
    field (after source lines) = ((lastUsable key.spelling lines).bind read).getD (field {}) := by
  induction lines using List.reverseRecOn with
  | nil => rfl
  | append_singleton lines line inductionHypothesis =>
    rw [after_concat, lastUsable_concat]
    by_cases usable : Usable line
    · obtain ⟨name, value⟩ := line
      obtain ⟨other, rfl, suits⟩ := id usable
      have written := writes (Settings.after source lines) other value suits
      rw [next, apply_of_suits suits]
      by_cases same : other = key
      · subst same
        rw [if_pos rfl] at written
        rw [if_pos ⟨rfl, usable⟩, Option.bind_some, ← written, Option.getD_some]
      · rw [if_neg same] at written
        rw [if_neg fun both => same (Key.spelling_inj.mp both.1), ← inductionHypothesis]
        exact Option.some.inj written
    · obtain ⟨warning, refused⟩ := exists_apply_eq_error source
        (Settings.after source lines) usable
      rw [if_neg fun both => usable both.2, ← inductionHypothesis, next, refused]

/-- What lines make of settings, field by field: the value of the last usable line with its key, or
the default. -/
structure Settled (lines : List Line) (settings : Settings) : Prop where
  logPath : settings.logPath = ((lastUsable "log_path" lines).map Path.mk).getD ⟨"/dev/null"⟩
  logLevel : settings.logLevel = ((lastUsable "log_level" lines).bind level?).getD .info
  host : settings.host = (lastUsable "host" lines).getD "127.0.0.1:6317"
  httpHost : settings.httpHost = (lastUsable "http_host" lines).getD "127.0.0.1:8000"
  vodsHost : settings.vodsHost = (lastUsable "vods_host" lines).getD "127.0.0.1:7000"
  codsHost : settings.codsHost = (lastUsable "cods_host" lines).getD "127.0.0.1:6001"
  codsTtl : settings.codsTtl = ((lastUsable "cods_ttl" lines).bind seconds?).getD 600
  filesTtl : settings.filesTtl = ((lastUsable "files_ttl" lines).bind seconds?).getD 3600
  streamlinkPath : settings.streamlinkPath =
    ((lastUsable "streamlink_path" lines).map Path.mk).getD ⟨"/usr/local/bin/streamlink"⟩
  workerPath : settings.workerPath = (lastUsable "worker_path" lines).getD "streamd-worker"
  licenseKey : settings.licenseKey = lastUsable "license_key" lines

/-- Lines settle all fields like this. -/
theorem settled_after (source : String) (lines : List Line) :
    Settled lines (after source lines) := by
  have logPath : Writes .logPath Settings.logPath (some ∘ Path.mk) := fun _ other _ _ => by
    cases other <;> simp [write]
  have logLevel : Writes .logLevel Settings.logLevel level? := fun _ other value suits => by
    cases other
    case logLevel =>
      obtain ⟨level, spelled⟩ := suits
      simp [write, spelled]
    all_goals simp [write]
  have host : Writes .host Settings.host some := fun _ other _ _ => by cases other <;> simp [write]
  have httpHost : Writes .httpHost Settings.httpHost some := fun _ other _ _ => by
    cases other <;> simp [write]
  have vodsHost : Writes .vodsHost Settings.vodsHost some := fun _ other _ _ => by
    cases other <;> simp [write]
  have codsHost : Writes .codsHost Settings.codsHost some := fun _ other _ _ => by
    cases other <;> simp [write]
  have codsTtl : Writes .codsTtl Settings.codsTtl seconds? := fun _ other value suits => by
    cases other
    case codsTtl =>
      obtain ⟨n, read⟩ := suits
      simp [write, seconds?_eq_some_iff.mpr read]
    all_goals simp [write]
  have filesTtl : Writes .filesTtl Settings.filesTtl seconds? := fun _ other value suits => by
    cases other
    case filesTtl =>
      obtain ⟨n, read⟩ := suits
      simp [write, seconds?_eq_some_iff.mpr read]
    all_goals simp [write]
  have streamlinkPath : Writes .streamlinkPath Settings.streamlinkPath (some ∘ Path.mk) :=
    fun _ other _ _ => by cases other <;> simp [write]
  have workerPath : Writes .workerPath Settings.workerPath some := fun _ other _ _ => by
    cases other <;> simp [write]
  have licenseKey : Writes .licenseKey Settings.licenseKey (some ∘ some) := fun _ other _ _ => by
    cases other <;> simp [write]
  exact {
    logPath := by rw [logPath.after source lines, ← Option.map_eq_bind]; rfl
    logLevel := logLevel.after source lines
    host := by rw [host.after source lines, Option.bind_fun_some]; rfl
    httpHost := by rw [httpHost.after source lines, Option.bind_fun_some]; rfl
    vodsHost := by rw [vodsHost.after source lines, Option.bind_fun_some]; rfl
    codsHost := by rw [codsHost.after source lines, Option.bind_fun_some]; rfl
    codsTtl := codsTtl.after source lines
    filesTtl := filesTtl.after source lines
    streamlinkPath := by rw [streamlinkPath.after source lines, ← Option.map_eq_bind]; rfl
    workerPath := by rw [workerPath.after source lines, Option.bind_fun_some]; rfl
    licenseKey := by
      rw [licenseKey.after source lines, ← Option.map_eq_bind]
      change ((lastUsable "license_key" lines).map some).getD none = _
      cases lastUsable "license_key" lines <;> rfl }

/-- That every field can be used for what it stands for. -/
structure Sound (settings : Settings) : Prop where
  host : IsAddress settings.host
  httpHost : IsAddress settings.httpHost
  vodsHost : IsAddress settings.vodsHost
  codsHost : IsAddress settings.codsHost
  codsTtl : 0 < settings.codsTtl
  filesTtl : 0 < settings.filesTtl
  /-- The command of the workers has a word, its program. -/
  workerPath : Text.words settings.workerPath.toList ≠ []
  licenseKey : ∀ key, settings.licenseKey = some key →
    ∃ expiry, License.expireTime key = some expiry

/-- A field has a property if its default has it, and every value that suits its key. -/
theorem getD_lastUsable (key : Key) (Fits : String → Prop) {default : String}
    (initial : Fits default)
    (suited : ∀ value, (key.spelling, value) ∈ lines → Suits key value → Fits value) :
    Fits ((lastUsable key.spelling lines).getD default) := by
  cases found : lastUsable key.spelling lines with
  | none => exact initial
  | some value => exact suited value (of_lastUsable found).1 (of_lastUsable found).2

/-- A time is positive if its default is. -/
theorem getD_bind_lastUsable_pos (key : Key) {default : Nat} (initial : 0 < default) :
    0 < ((lastUsable key.spelling lines).bind seconds?).getD default := by
  cases read : (lastUsable key.spelling lines).bind seconds? with
  | none => exact initial
  | some n =>
    obtain ⟨value, -, positive⟩ := Option.bind_eq_some_iff.mp read
    exact (seconds?_eq_some_iff.mp positive).2

/-- The settings that the lines of a text make are sound. -/
theorem Settled.sound {content : String} (settled : Settled (statements content) settings) :
    settings.Sound := by
  have address (key : Key) {default : String} (initial : isHostAndPort default = true)
      (suits : ∀ value, Suits key value → IsAddress value) :
      IsAddress ((lastUsable key.spelling (statements content)).getD default) :=
    getD_lastUsable key IsAddress (isHostAndPort_iff.mp initial) fun value _ => suits value
  exact {
    host := settled.host ▸ address .host (by decide) fun _ => id
    httpHost := settled.httpHost ▸ address .httpHost (by decide) fun _ => id
    vodsHost := settled.vodsHost ▸ address .vodsHost (by decide) fun _ => id
    codsHost := settled.codsHost ▸ address .codsHost (by decide) fun _ => id
    codsTtl := settled.codsTtl ▸ getD_bind_lastUsable_pos .codsTtl (by decide)
    filesTtl := settled.filesTtl ▸ getD_bind_lastUsable_pos .filesTtl (by decide)
    workerPath := settled.workerPath ▸ getD_lastUsable .workerPath
      (fun path => Text.words path.toList ≠ []) (by decide)
      fun value listed some => words_ne_nil_of_mem_statements listed some
    licenseKey := fun key configured => by
      rw [settled.licenseKey] at configured
      have found : lastUsable Key.licenseKey.spelling (statements content) = some key := configured
      exact (of_lastUsable found).2 }

end Settings

/-- The command of a worker is the same after every run of its supervisor. -/
theorem Worker.Lifecycle.commandOf_run {supervisor : Supervisor} {trace : List Effect}
    (life : Lifecycle supervisor trace) (operations : List Operation) :
    (supervisor.run operations).fst.commandOf = supervisor.commandOf := by
  induction operations generalizing supervisor trace with
  | nil => rfl
  | cons operation later inductionHypothesis =>
    have outcome := Supervisor.step_outcome life.distinct operation
    rw [Supervisor.run_cons, inductionHypothesis (life.step outcome),
      Supervisor.commandOf_step life.distinct]

/-- So it is the one of the settings, after every history of a node. -/
theorem Node.after_commandOf (settings : Settings) (history : List Moment) :
    ((ofSettings settings).after history).supervisor.commandOf =
      (Worker.Supervisor.ofSettings settings).commandOf := by
  rw [after_supervisor]
  exact (Worker.Lifecycle.initial settings).commandOf_run _

namespace Settings

variable {source : String} {settings : Settings}

/-- With sound settings a worker fails to be launched only where the machine does not launch it, and
never for want of a program. -/
theorem Sound.spawn_eq_error (sound : settings.Sound) (history : List Moment)
    {around : Surroundings} {files : FileTree} {identity : Stream.Identity} {spec : Stream.Spec}
    {config : Stream.Config} {fault : Fault}
    (failed : (((Node.ofSettings settings).after history).supervisor.spawn around files identity
      spec config).result = .error fault) :
    ∃ command reason, fault = .spawn reason ∧ around.launch files command = .error reason := by
  unfold Worker.Supervisor.spawn at failed
  rw [Node.after_commandOf] at failed
  cases words : Text.words settings.workerPath.toList with
  | nil => exact absurd words sound.workerPath
  | cons program arguments =>
    simp only [Worker.Supervisor.commandOf, Worker.Supervisor.ofSettings, words, List.map_cons]
      at failed
    split at failed
    · next reason refused =>
      cases failed
      exact ⟨_, reason, rfl, refused⟩
    · cases failed

/-- Reading a text gives the warnings of its lines, and the settings after them if one of them has
the key of the license. -/
theorem parse_eq (content source : String) :
    parse content source =
      (objections source (statements content),
        if (statements content).any fun (key, _) => key = "license_key" then
          .ok (after source (statements content))
        else .error (.config "license_key field in config required")) := by
  simp only [parse, applyAll_eq]
  split <;> rfl

/-- A text of settings is refused exactly if none of its lines has the key of the license. Of any
other text, every field is what the last usable line with its key says, or the default; the lines
that are not usable are warned of, once each and in order. All that is left is sound, so that no
worker ever fails for want of a program. -/
theorem parse_settles (content source : String) :
    Reads content (statements content) ∧
    (parse content source).fst = objections source (statements content) ∧
    (∀ before line, (objection? source before line).isSome ↔ ¬ Usable line) ∧
    (∀ cause, (parse content source).snd = .error cause ↔
      cause = .config "license_key field in config required" ∧
        ¬ ∃ value, ("license_key", value) ∈ statements content) ∧
    ∀ settings, (parse content source).snd = .ok settings →
      Settled (statements content) settings ∧ settings.Sound ∧
        ∀ history around files identity spec config fault,
          (((Node.ofSettings settings).after history).supervisor.spawn around files identity spec
              config).result = .error fault →
            ∃ command reason, fault = .spawn reason ∧
              around.launch files command = .error reason := by
  have keyed : ((statements content).any fun (key, _) => key = "license_key") = true ↔
      ∃ value, ("license_key", value) ∈ statements content := by
    simp
  rw [parse_eq, ← keyed]
  refine ⟨reads_statements content, rfl, isSome_objection?_iff source, fun cause => ?_,
    fun settings parsed => ?_⟩
  · split
    · next listed => simp [listed]
    · next unlisted =>
      rw [Except.error.injEq, and_iff_left unlisted]
      exact eq_comm
  · have same : after source (statements content) = settings := by
      split at parsed
      · exact Except.ok.inj parsed
      · cases parsed
    have settled := settled_after source (statements content)
    rw [same] at settled
    exact ⟨settled, settled.sound, fun history around files identity spec config fault =>
      settled.sound.spawn_eq_error history⟩

/-- A text with a comment, an address between two values that are none, an unknown key and a time
with a blank in front of it. -/
def mixedText : String :=
  "# a node\r\nhost = :1\n host=[::1]:8080 \nhost = x:70000\nfrob\n\ncods_ttl= 30\n" ++
    "license_key=00000000000013888bdeae83a31fd33508df9c4b10dc0ed5"

/-- The address and the time are those of the text, and three lines are warned of. -/
theorem parse_settles_mixedText :
    ∃ settings, parse mixedText "conf" =
      (["conf: invalid host ':1', keeping 127.0.0.1:6317",
          "conf: invalid host 'x:70000', keeping [::1]:8080",
          "Unknown config field in conf: frob"], .ok settings) ∧
      settings.host = "[::1]:8080" ∧ settings.codsTtl = 30 ∧ settings.Sound := by
  obtain ⟨-, -, -, -, settles⟩ := parse_settles mixedText "conf"
  have parsed : parse mixedText "conf" =
      (["conf: invalid host ':1', keeping 127.0.0.1:6317",
          "conf: invalid host 'x:70000', keeping [::1]:8080",
          "Unknown config field in conf: frob"],
        .ok {
          host := "[::1]:8080"
          codsTtl := 30
          licenseKey := some "00000000000013888bdeae83a31fd33508df9c4b10dc0ed5" }) := by
    decide +kernel
  exact ⟨_, parsed, rfl, rfl, (settles _ (congrArg Prod.snd parsed)).2.1⟩

end Settings
end MediaNode
