import MediaNode.Simulation.Hands
import Std.Time.DateTime.Timestamp

/-!
# The command line

The program is run with the arguments, the environment and the clock of this
process, on a network of its own: nobody else listens there, and nobody connects.
A node that is started keeps its chores and its license on that network until it
ends; a node that is to be stopped is never found.

Only reading the settings, writing what is printed and logged, and waiting are done
here. What they say is decided by the program.
-/
namespace MediaNode.CommandLine

open Simulation

/-- The name under which the program runs on its network. -/
def ownName : String := "program"

/-- Milliseconds between two looks at the program. -/
def lookInterval : Nat := 1000

/-- How lines are written to this process and to the log file. -/
def plainFormat : LogFormat :=
  let line (l : Log.Line) := l.level.name ++ " " ++ l.target ++ ": " ++ l.text
  { console := line, file := fun l => line l ++ "\n" }

/-- Milliseconds since the epoch. -/
def wallClock : IO Int := do
  let stamp ← Std.Time.Timestamp.now
  return stamp.toMillisecondsSinceUnixEpoch.val

/-- What the program takes from the environment of this process. -/
def environment : IO Environment := do
  let home := (← IO.getEnv "HOME").getD "/"
  return { home, configHome := ← IO.getEnv "XDG_CONFIG_HOME", logFilter := ← IO.getEnv "RUST_LOG" }

/-- A tree that holds one file, with what this process finds there. -/
def treeWith (path : Path) (now : Int) : IO FileTree := do
  try
    let content ← IO.FS.readBinFile path.text
    let tree := match path.parent with
      | some directory => (FileTree.empty.makeDirectories directory).fst
      | none => FileTree.empty
    return (tree.write path content.toList now).toOption.getD FileTree.empty
  catch _ => return FileTree.empty

/-- What the program has printed and logged that was not passed on. -/
structure Shown where
  errors : Nat := 0
  logged : Nat := 0

/-- Pass on what the program printed and logged since the last look. -/
def passOn (network : Network) (log : Option Path) (shown : Shown) : IO Shown := do
  let printed := (network.printed? ownName).getD {}
  for text in printed.errors.drop shown.errors do
    IO.eprintln text
  let mut logged := shown.logged
  if let some path := log then
    let content := (network.machine.files.read path).toOption.getD []
    if logged < content.length then
      let handle ← IO.FS.Handle.mk path.text .append
      handle.write ⟨(content.drop logged).toArray⟩
    logged := content.length
  return { errors := printed.errors.length, logged }

/-- Look at the program from time to time until it has ended. -/
partial def watch (network : Network) (log : Option Path) (shown : Shown) : IO UInt32 := do
  let shown ← passOn network log shown
  match (network.printed? ownName).bind Printed.code with
  | some code => return UInt32.ofNat code
  | none =>
    IO.sleep (UInt32.ofNat lookInterval)
    let clock := Int.ofNat (← IO.monoMsNow)
    let machine := { network.machine with now := ← wallClock, clock }
    let network := { network with machine }
    watch (network.advance lookInterval) log shown

/-- Run the program. -/
def run (arguments : List String) : IO UInt32 := do
  let now ← wallClock
  let environment ← environment
  let files ← match Invocation.ofArguments arguments with
    | .ok (.run config _) =>
      treeWith (config.getD (Settings.defaultPath environment.home environment.configHome)) now
    | _ => pure FileTree.empty
  let clock := Int.ofNat (← IO.monoMsNow)
  let machine : Machine := { node := Node.ofSettings {}, files, clock, now, attached := true }
  let network : Network := { machine, format := plainFormat }
  let network := (network.runProgram ownName default environment arguments).rest
  IO.print ((network.printed? ownName).getD {}).output
  let log := (network.programs.lookup ownName).bind fun program =>
    program.task.bind fun task => logFile? task.settings
  watch network log {}

end MediaNode.CommandLine

/-- The exit code is that of the program. -/
def main (arguments : List String) : IO UInt32 := MediaNode.CommandLine.run arguments
