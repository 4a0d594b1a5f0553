import MediaNode.CommandLine.Arguments
import MediaNode.CommandLine.Report
import MediaNode.Log

/-!
# The program

The program reads its arguments and its settings, and opens its log. Then it
either runs a node or asks the node that runs to stop. What it prints goes to two
outputs: help and version to the first, everything else to the second.
-/
namespace MediaNode.CommandLine

/-- What the program takes from its environment. -/
structure Environment where
  home : String
  /-- The directory for configurations, if another than the usual one is named. -/
  configHome : Option String := none
  /-- The filter of the log, if another than the usual one is given. -/
  logFilter : Option String := none
deriving DecidableEq, Repr, Inhabited

/-- How log lines are written. -/
structure LogFormat where
  console : Log.Line → String
  file : Log.Line → String

/-- What the program has printed, and its exit code when it has ended. -/
structure Printed where
  output : String := ""
  errors : List String := []
  code : Option Nat := none
deriving DecidableEq, Repr, Inhabited

namespace Printed

/-- End with an exit code. -/
def exit (printed : Printed) (code : Nat) : Printed := { printed with code := some code }

/-- Report a failure, which ends the program. -/
def fail (printed : Printed) (report : Report) : Printed :=
  { printed with errors := printed.errors ++ [report.text] }.exit 1

/-- The lines of the second output. -/
def errorLines (printed : Printed) : List String :=
  printed.errors.flatMap fun text => (Text.splitAll '\n' text.toList).map String.ofList

end Printed

/-- Exit code of a failure to understand the arguments. -/
def usageExit : Nat := 2

/-- What the program is about to do. -/
structure Task where
  settings : Settings
  /-- Where the settings were read. -/
  source : Path
  stop : Bool
  filter : Log.Filter
deriving DecidableEq, Repr, Inhabited

/-- The part of the program that the command line is. -/
def target : String := programName

/-- Lets lines of every part of the program through, except the finest ones. -/
def usualFilter : Log.Filter := [{ target := programName, rank := Log.Level.debug.rank }]

/-- The filter that the environment asks for. -/
def Environment.filter (environment : Environment) : Log.Filter :=
  (environment.logFilter.bind Log.filter?).getD usualFilter

/-- The name of a log file that is given without one. -/
def logFileName : String := "streamd.log"

/-- The file that is logged to, in the directory of the path given. -/
def logFile? (settings : Settings) : Option Path :=
  settings.logFile.map fun path =>
    let here : Path := ⟨"."⟩
    let directory := match path.parent with
      | some up => if up.text = "" then here else up
      | none => here
    directory.join (path.fileName.getD logFileName)

/-- Make a file with its directory unless it is there. -/
def openLog (files : FileTree) (now : Int) (path : Path) : FileTree :=
  match files.read path with
  | .ok _ => files
  | .error _ =>
    let files := match path.parent with
      | some directory => (files.makeDirectories directory).fst
      | none => files
    (files.write path [] now).toOption.getD files

/-- Write a line to the log, if the filter lets it through. -/
def Task.log (task : Task) (format : LogFormat) (files : FileTree) (now : Int)
    (printed : Printed) (line : Log.Line) : FileTree × Printed :=
  if task.filter.passes line then
    let files := match logFile? task.settings with
      | none => files
      | some path =>
        let earlier := (files.read path).toOption.getD []
        (files.write path (earlier ++ Text.bytes (format.file line)) now).toOption.getD files
    (files, { printed with errors := printed.errors ++ [format.console line] })
  else (files, printed)

/-- A line of the command line. -/
def note (text : String) : Log.Line := { level := .info, target, text }

/-- The line that a node is started with. -/
def Task.startingLine (task : Task) : Log.Line :=
  note ("Starting " ++ programName ++ " " ++ MediaNode.version ++ " with " ++ task.source.text)

/-- The line that tells of success at stopping a node. -/
def Task.stoppingLine (task : Task) : Log.Line :=
  note ("Daemon at " ++ task.settings.host ++ " is stopping")

/-- The line that a node ends with. -/
def stoppedLine : Log.Line := note "streamd stopped"

/-- The method that asks a node to stop. -/
def stopMethod : String := "stop_service"

/-- The report that the running node cannot be reached. -/
def Task.unreachable (task : Task) (error : Rpc.CallError) : Report :=
  { message := "Failed to connect to daemon at " ++ task.settings.host, causes := error.chain }

/-- The report that the running node does not stop. -/
def unstopped (error : Rpc.CallError) : Report :=
  { message := stopMethod ++ " failed", causes := error.chain }

/-- The line about a frame that was dropped. -/
def droppedLine (size : Nat) (cause : String) : Log.Line :=
  { level := .warn, target := "streamd_rpc::transport"
    text := "Dropping malformed frame (" ++ Text.decimal size ++ " bytes): " ++ cause }

/-- Start the program: the files, what it printed, and what it goes on to do unless
it has ended. -/
def start (environment : Environment) (files : FileTree) (now : Int) (arguments : List String) :
    FileTree × Printed × Option Task :=
  match Invocation.ofArguments arguments with
  | .error error => (files, { errors := error.lines, code := some usageExit }, none)
  | .ok .help => (files, { output := helpText, code := some 0 }, none)
  | .ok .version => (files, { output := versionText, code := some 0 }, none)
  | .ok (.run config stop) =>
    let source := config.getD (Settings.defaultPath environment.home environment.configHome)
    match (Settings.load files source).snd with
    | .error error =>
      (files, ({} : Printed).fail
        { message := "Failed to load config " ++ source.text, causes := error.chain }, none)
    | .ok settings =>
      let files := match logFile? settings with
        | some path => openLog files now path
        | none => files
      (files, {}, some { settings, source, stop, filter := environment.filter })

end MediaNode.CommandLine
