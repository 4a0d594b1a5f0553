import MediaNode.License
import MediaNode.FileTree

/-!
# Settings of the node

Settings are read once from lines of `key=value`. Blank lines and comments are
passed over, and the last usable value of a key counts. An unknown key or an
unusable value is logged and changes nothing. The only failure is a text without
any line for the license key.
-/
namespace MediaNode

/-- How severe a log line has to be. -/
inductive LogLevel where
  | emerg
  | alert
  | crit
  | error
  | warning
  | notice
  | info
  | debug
deriving DecidableEq, Repr, Inhabited

namespace LogLevel

/-- The name that settings show. -/
def name : LogLevel → String
  | .emerg => "Emerg"
  | .alert => "Alert"
  | .crit => "Crit"
  | .error => "Error"
  | .warning => "Warning"
  | .notice => "Notice"
  | .info => "Info"
  | .debug => "Debug"

/-- The level of the log filter that stands for a severity. -/
def filter : LogLevel → String
  | .emerg | .alert | .crit | .error => "error"
  | .warning => "warn"
  | .notice | .info => "info"
  | .debug => "debug"

/-- The spellings of the severities. -/
def spellings : List (String × LogLevel) :=
  [("EMERG", .emerg), ("EMERGENCY", .emerg), ("ALERT", .alert), ("CRIT", .crit),
   ("CRITICAL", .crit), ("ERR", .error), ("ERROR", .error), ("WARNING", .warning),
   ("WARN", .warning), ("NOTICE", .notice), ("INFO", .info), ("DEBUG", .debug)]

/-- Read a severity in any case; an unknown one is given back in upper case. -/
def parse (text : String) : Except String LogLevel :=
  let word := Text.asciiUpper (Text.trim text)
  match spellings.lookup word with
  | some level => .ok level
  | none => .error word

end LogLevel

/-- Why there are no settings. -/
inductive SettingsError where
  /-- The settings are not usable, for this reason. -/
  | config (reason : String)
  /-- The file cannot be read. -/
  | io (cause : FileError)
deriving DecidableEq, Repr, Inhabited

/-- The wording of each cause. -/
def SettingsError.message : SettingsError → String
  | .config reason => "Config error: " ++ reason
  | .io cause => "IO error: " ++ cause.message

/-- The reason given for an unknown severity. -/
def unknownLevelText (word : String) : String := "Unknown log level: " ++ word

/-- The settings of a node. -/
structure Settings where
  logPath : Path := ⟨"/dev/null"⟩
  logLevel : LogLevel := .info
  /-- Where control connections are accepted. -/
  host : String := "127.0.0.1:6317"
  httpHost : String := "127.0.0.1:8000"
  vodsHost : String := "127.0.0.1:7000"
  codsHost : String := "127.0.0.1:6001"
  /-- Seconds that an unused channel keeps running. -/
  codsTtl : Nat := 600
  /-- Seconds that chunks are kept. -/
  filesTtl : Nat := 3600
  streamlinkPath : Path := ⟨"/usr/local/bin/streamlink"⟩
  /-- The program of a worker and its arguments. -/
  workerPath : String := "streamd-worker"
  /-- The key of the node, if the configured one is a key. -/
  licenseKey : Option String := none
deriving DecidableEq, Repr, Inhabited

/-- The keys that settings know. -/
inductive Key where
  | logPath
  | logLevel
  | host
  | httpHost
  | vodsHost
  | codsHost
  | codsTtl
  | filesTtl
  | streamlinkPath
  | workerPath
  | licenseKey
deriving DecidableEq, Repr, Inhabited

/-- The spelling of each key. -/
def Key.spellings : List (String × Key) :=
  [("log_path", .logPath), ("log_level", .logLevel), ("host", .host),
   ("http_host", .httpHost), ("vods_host", .vodsHost), ("cods_host", .codsHost),
   ("cods_ttl", .codsTtl), ("files_ttl", .filesTtl), ("streamlink_path", .streamlinkPath),
   ("worker_path", .workerPath), ("license_key", .licenseKey)]

namespace Settings

/-- The path that stands for no log file. -/
def nowhere : Path := ⟨"/dev/null"⟩

/-- The file that is also logged to, if there is one. -/
def logFile (settings : Settings) : Option Path :=
  if settings.logPath.text = "" ∨ settings.logPath.same nowhere then none
  else some settings.logPath

/-- A host that is not empty, a colon, and a port number. -/
def isHostAndPort (value : String) : Bool :=
  match Text.splitLast ':' value.toList with
  | some (host, port) => !host.isEmpty && (Text.unsigned? 16 port).isSome
  | none => false

/-- A positive number of seconds. -/
def seconds? (value : String) : Option Nat := (Text.unsigned? 64 value.toList).filter (0 < ·)

/-- The key and the value of a line. -/
def splitLine (line : List Char) : String × String :=
  match Text.splitFirst '=' line with
  | some (key, value) =>
    (String.ofList (Text.trimChars key), String.ofList (Text.trimChars value))
  | none => (String.ofList (Text.trimChars line), "")

/-- The lines that say something. -/
def statements (content : String) : List (String × String) :=
  (((Text.lineList content.toList).map Text.trimChars).filter
    fun line => !line.isEmpty && line.head? ≠ some '#').map splitLine

/-- What is logged about a value that is kept out. -/
def keepingText (source key value kept : String) : String :=
  source ++ ": invalid " ++ key ++ " '" ++ value ++ "', keeping " ++ kept

/-- A new value, or the warning for an unusable one. -/
abbrev Change := Except String Settings

/-- Set an address. -/
def setHost (source key value old : String) (set : String → Settings) : Change :=
  if isHostAndPort value then .ok (set value)
  else .error (keepingText source key value old)

/-- Set a time. -/
def setSeconds (source key value : String) (old : Nat) (set : Nat → Settings) : Change :=
  match seconds? value with
  | some n => .ok (set n)
  | none => .error (keepingText source key value (Text.decimal old ++ "s"))

/-- Apply one statement. -/
def apply (source : String) (settings : Settings) (key value : String) : Change :=
  match Key.spellings.lookup key with
  | none => .error ("Unknown config field in " ++ source ++ ": " ++ key)
  | some .logPath => .ok { settings with logPath := ⟨value⟩ }
  | some .logLevel =>
    match LogLevel.parse value with
    | .ok level => .ok { settings with logLevel := level }
    | .error word =>
      .error (source ++ ": " ++ (SettingsError.config (unknownLevelText word)).message ++
        ", keeping " ++ settings.logLevel.name)
  | some .host => setHost source key value settings.host fun v => { settings with host := v }
  | some .httpHost =>
    setHost source key value settings.httpHost fun v => { settings with httpHost := v }
  | some .vodsHost =>
    setHost source key value settings.vodsHost fun v => { settings with vodsHost := v }
  | some .codsHost =>
    setHost source key value settings.codsHost fun v => { settings with codsHost := v }
  | some .codsTtl =>
    setSeconds source key value settings.codsTtl fun n => { settings with codsTtl := n }
  | some .filesTtl =>
    setSeconds source key value settings.filesTtl fun n => { settings with filesTtl := n }
  | some .streamlinkPath => .ok { settings with streamlinkPath := ⟨value⟩ }
  | some .workerPath =>
    if value = "" then .error (source ++ ": ignoring empty " ++ key)
    else .ok { settings with workerPath := value }
  | some .licenseKey =>
    if (License.expireTime value).isSome then .ok { settings with licenseKey := some value }
    else .error (source ++ ": license_key does not decode")

/-- Apply statements in order, collecting the warnings. -/
def applyAll (source : String) : Settings → List (String × String) → Settings × List String
  | settings, [] => (settings, [])
  | settings, (key, value) :: rest =>
    match settings.apply source key value with
    | .ok changed => applyAll source changed rest
    | .error warning =>
      let (result, warnings) := applyAll source settings rest
      (result, warning :: warnings)

/-- Read settings: the warnings, and the settings unless there is no line for the
license key. -/
def parse (content source : String) : List String × Except SettingsError Settings :=
  let lines := statements content
  let (settings, warnings) := applyAll source {} lines
  if lines.any fun (key, _) => key = "license_key" then (warnings, .ok settings)
  else (warnings, .error (.config "license_key field in config required"))

/-- Read settings from a file. -/
def load (tree : FileTree) (path : Path) : List String × Except SettingsError Settings :=
  match tree.readText path with
  | .ok content => parse content path.text
  | .error cause => ([], .error (.io cause))

/-- The name of the settings file. -/
def fileName : String := "streamd.conf"

/-- Where settings are looked for: in the user's directory for configurations,
which is the one named if it is absolute. -/
def defaultPath (home : String) (configHome : Option String) : Path :=
  let base : Path := match configHome with
    | some named => if Path.isAbsolute ⟨named⟩ then ⟨named⟩ else Path.join ⟨home⟩ ".config"
    | none => Path.join ⟨home⟩ ".config"
  (base.join "streamd").join fileName

end Settings
end MediaNode
