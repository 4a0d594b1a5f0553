import MediaNode.Node.State
import MediaNode.Text.Similarity

/-!
# Arguments

The arguments are options only. They are read from left to right, and the first
one that is wrong ends the reading, as does a question for help or the version. A
value that stands apart from its option is taken up when the next known option is
met or at the end.
-/
namespace MediaNode.CommandLine

/-- The name of the program. -/
def programName : String := "streamd"

/-- The options. -/
inductive Flag where
  | config
  | stop
  | help
  | version
deriving DecidableEq, Repr, Inhabited

namespace Flag

/-- All options in the order of the help. -/
def all : List Flag := [.config, .stop, .help, .version]

/-- The name behind two dashes. -/
def long : Flag → String
  | .config => "config"
  | .stop => "stop"
  | .help => "help"
  | .version => "version"

/-- The letter behind one dash. -/
def short? : Flag → Option Char
  | .help => some 'h'
  | .version => some 'V'
  | _ => none

/-- An option with its value as messages show it. -/
def shown (flag : Flag) : String :=
  "--" ++ flag.long ++ if flag = .config then " <PATH>" else ""

/-- The option with a name. -/
def ofLong? (name : String) : Option Flag := all.find? (·.long = name)

/-- The option with a letter. -/
def ofShort? (letter : Char) : Option Flag := all.find? (·.short? = some letter)

/-- The option whose name is most like another; of two equally alike the later
one. Names that are not much alike do not count. -/
def similar? (name : String) : Option Flag :=
  let bound : Text.Similarity := ⟨7, 10⟩
  let close := (all.map fun flag => (flag, Text.similarity name flag.long)).filter
    fun (_, found) => bound.le found
  (close.foldl (fun best next => match best with
    | some (flag, found) => if Text.Similarity.le found next.snd then some next else some (flag, found)
    | none => some next) none).map Prod.fst

end Flag

/-- What the arguments ask for. -/
inductive Invocation where
  | help
  | version
  /-- Run a node, or stop the one that runs. -/
  | run (config : Option Path) (stop : Bool)
deriving DecidableEq, Repr, Inhabited

/-- What is wrong with the arguments. -/
inductive UsageError where
  /-- There is no such option, but perhaps a similar one. -/
  | unexpected (argument : String) (similar : Option Flag) (used : List Flag)
  | unexpectedValue (value : String) (flag : Flag) (used : List Flag)
  | repeated (flag : Flag)
  | missingValue
deriving DecidableEq, Repr, Inhabited

namespace UsageError

/-- The line that says what is wrong. -/
def message : UsageError → String
  | .unexpected argument _ _ => "unexpected argument '" ++ argument ++ "' found"
  | .unexpectedValue value flag _ =>
    "unexpected value '" ++ value ++ "' for '" ++ flag.shown ++ "' found; no more were expected"
  | .repeated flag => "the argument '" ++ flag.shown ++ "' cannot be used multiple times"
  | .missingValue =>
    "a value is required for '" ++ Flag.config.shown ++ "' but none was supplied"

/-- How the program is used, with the options that were meant. -/
def usageLine (used : List Flag) : String :=
  let options := if used.isEmpty then "[OPTIONS]" else " ".intercalate (used.map Flag.shown)
  "Usage: " ++ programName ++ " " ++ options

/-- The lines in the middle: a hint and the usage. -/
def details : UsageError → List String
  | .unexpected _ (some flag) used =>
    ["  tip: a similar argument exists: '--" ++ flag.long ++ "'", "", usageLine used, ""]
  | .unexpected _ none used | .unexpectedValue _ _ used => [usageLine used, ""]
  | .repeated _ => [usageLine [], ""]
  | .missingValue => []

/-- All lines of the report. -/
def lines (error : UsageError) : List String :=
  ["error: " ++ error.message, ""] ++ error.details ++ ["For more information, try '--help'."]

end UsageError

/-- The help. -/
def helpText : String := "\n".intercalate
  ["Control-plane daemon of a streamd media node", "",
   UsageError.usageLine [], "",
   "Options:",
   "      --config <PATH>  Node config file (defaults to `<config_dir>/streamd.conf`)",
   "      --stop           Ask the running daemon to stop and exit",
   "  -h, --help           Print help",
   "  -V, --version        Print version", ""]

/-- The name and version. -/
def versionText : String := programName ++ " " ++ MediaNode.version ++ "\n"

/-- What was read so far. -/
structure Progress where
  /-- The options that count as used. -/
  used : List Flag := []
  config : Option String := none
  stop : Bool := false
  /-- An option `--config` that is not taken up yet, with its value if there is
  one. -/
  awaiting : Option (Option String) := none
deriving DecidableEq, Repr, Inhabited

namespace Progress

/-- Note that an option is used. An option that was used already is no longer
counted, which is an error. -/
def use (progress : Progress) (flag : Flag) : Progress × Option UsageError :=
  if progress.used.contains flag then
    ({ progress with used := progress.used.filter (· ≠ flag) }, some (.repeated flag))
  else ({ progress with used := progress.used ++ [flag] }, none)

/-- Take the path of the settings. -/
def takeConfig (progress : Progress) (value : String) : Progress × Option UsageError :=
  match progress.use .config with
  | (progress, some error) => (progress, some error)
  | (progress, none) =>
    if value = "" then (progress, some .missingValue)
    else ({ progress with config := some value }, none)

/-- Take up the option that waits. -/
def settle (progress : Progress) : Progress × Option UsageError :=
  let settled := { progress with awaiting := none }
  match progress.awaiting with
  | none => (progress, none)
  | some none => (settled, some .missingValue)
  | some (some value) => settled.takeConfig value

end Progress

/-- How the reading goes on. -/
inductive Reading where
  | more (progress : Progress)
  | done (outcome : Except UsageError Invocation)
deriving Inhabited

namespace Reading

/-- Go on unless there is an error. -/
def ofProgress : Progress × Option UsageError → Reading
  | (progress, none) => .more progress
  | (_, some error) => .done (.error error)

/-- Take up what waits, and go on with that. -/
def settling (progress : Progress) (next : Progress → Reading) : Reading :=
  match progress.settle with
  | (_, some error) => .done (.error error)
  | (progress, none) => next progress

end Reading

/-- Read a known option, with the value behind its equals sign if there is one. -/
def readFlag (progress : Progress) (flag : Flag) (attached : Option String) : Reading :=
  match flag, attached with
  | .config, some value => .settling progress fun progress => .ofProgress (progress.takeConfig value)
  | .config, none => .settling progress fun progress => .more { progress with awaiting := some none }
  | flag, some value =>
    let used := if progress.used.contains flag then progress.used else progress.used ++ [flag]
    .done (.error (.unexpectedValue value flag used))
  | .stop, none => .settling progress fun progress =>
    match progress.use .stop with
    | (progress, none) => .more { progress with stop := true }
    | (_, some error) => .done (.error error)
  | .help, none => .settling progress fun _ => .done (.ok .help)
  | .version, none => .settling progress fun _ => .done (.ok .version)

/-- An option that is not known, with the most similar one. An error about what
waits gives way to this one. -/
def unknownLong (progress : Progress) (name : String) : Reading :=
  let used := progress.settle.fst.used
  let similar := Flag.similar? name
  let used := match similar with
    | some flag => if used.contains flag then used else used ++ [flag]
    | none => used
  .done (.error (.unexpected ("--" ++ name) similar used))

/-- Split an option at its first equals sign. -/
def splitValue (text : List Char) : String × Option String :=
  match Text.splitFirst '=' text with
  | some (name, value) => (String.ofList name, some (String.ofList value))
  | none => (String.ofList text, none)

/-- Read one argument that is not behind a lone `--`. -/
def readArgument (progress : Progress) (argument : String) : Reading :=
  match argument.toList with
  | '-' :: '-' :: long =>
    let (name, attached) := splitValue long
    match Flag.ofLong? name with
    | some flag => readFlag progress flag attached
    | none => unknownLong progress name
  | '-' :: letter :: _ =>
    match Flag.ofShort? letter with
    | some flag => readFlag progress flag none
    | none => .done (.error (.unexpected ("-" ++ String.ofList [letter]) none []))
  | _ =>
    match progress.awaiting with
    | some none => .more { progress with awaiting := some (some argument) }
    | _ => .done (.error (.unexpected argument none []))

/-- Read the arguments from what was read so far. -/
def readFrom (progress : Progress) : List String → Except UsageError Invocation
  | [] =>
    match progress.settle with
    | (_, some error) => .error error
    | (progress, none) => .ok (.run (progress.config.map Path.mk) progress.stop)
  | "--" :: argument :: _ => .error (.unexpected argument none [])
  | "--" :: [] => readFrom progress []
  | argument :: rest =>
    match readArgument progress argument with
    | .more progress => readFrom progress rest
    | .done outcome => outcome

/-- What the arguments ask for, or what is wrong with them. -/
def Invocation.ofArguments (arguments : List String) : Except UsageError Invocation :=
  readFrom {} arguments

end MediaNode.CommandLine
