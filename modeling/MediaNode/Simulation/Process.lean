import MediaNode.FileTree
import MediaNode.Simulation.Script

/-!
# Processes

A process stands for a worker's program where there is no operating system to run
it: the shell with its scripts, or one of a few small tools. It has a pipe to
read from and a pipe to write to. A process runs until it has ended or waits: for
input, or for time to pass.
-/
namespace MediaNode.Simulation

/-- What a process reads. -/
inductive Source where
  | pipe
  /-- The rest of a file. -/
  | content (data : List UInt8)
deriving DecidableEq, Repr, Inhabited

/-- Where a process writes. -/
inductive Sink where
  | pipe
  | nowhere
  | file (path : Path)
deriving DecidableEq, Repr, Inhabited

/-- The three streams of a command. -/
structure Streams where
  input : Source := .pipe
  output : Sink := .pipe
  errors : Sink := .nowhere
deriving DecidableEq, Repr, Inhabited

/-- How a process ended: with an exit code or by a signal. -/
inductive Ending where
  | code (value : Nat)
  | signal (number : Nat)
deriving DecidableEq, Repr, Inhabited

/-- What a process waits for. -/
inductive Waiting where
  /-- Input to pass on, up to this many bytes or to its end. -/
  | input (left : Option Nat)
  | time
deriving DecidableEq, Repr, Inhabited

/-- What is left to do. -/
inductive Work where
  | run (statement : Statement)
  | ifSucceeded (statement : Statement)
  | ifFailed (statement : Statement)
  | negate
  | forEach (name : String) (values : List String) (body : List Statement)
  | whenTested (while_ : Bool) (condition body : List Statement)
  | choose (yes no : List Statement)
  | restore (streams : Streams)
deriving Repr, Inhabited

/-- A process. -/
structure Process where
  id : String
  serial : Nat
  /-- The name and the arguments of the script. -/
  parameters : List String := []
  assigned : List (String × String) := []
  work : List Work := []
  status : Nat := 0
  streams : Streams := {}
  /-- What to do about signals. -/
  traps : List (Nat × String) := []
  /-- Bytes that were sent and not yet read, and whether more can come. -/
  received : List UInt8 := []
  inputOpen : Bool := true
  /-- Bytes written to the pipe. -/
  written : List UInt8 := []
  waiting : Option Waiting := none
  ending : Option Ending := none
deriving Repr, Inhabited

namespace Process

/-- The number that a process calls itself by. -/
def number (process : Process) : String := Text.decimal (10000 + process.serial)

/-- The value of a parameter that has one. -/
def valueOf (process : Process) (name : String) : String :=
  match Text.digits? name.toList with
  | some n => (process.parameters[n]?).getD ""
  | none =>
    if name = "?" then Text.decimal process.status
    else if name = "$" then process.number
    else if name = "#" then Text.decimal (process.parameters.length - 1)
    else if name = "@" ∨ name = "*" then " ".intercalate (process.parameters.drop 1)
    else (process.assigned.lookup name).getD ""

/-- Put a text behind the last of some words. -/
def appendLast (text : String) : List String → List String
  | [] => [text]
  | [last] => [last ++ text]
  | word :: rest => word :: appendLast text rest

/-- Put texts behind some words: the first joins the last word. -/
def appendAll (words : List String) : List String → List String
  | [] => words
  | first :: more => appendLast first words ++ more

/-- The words that a word stands for. A word without quotes and without text
stands for none. -/
def expand (process : Process) (word : Word) : List String :=
  word.foldl (fun words piece => match piece with
    | .literal text => appendLast text words
    | .parameter "@" true => appendAll words (process.parameters.drop 1)
    | .parameter name true => appendLast (process.valueOf name) words
    | .parameter name false =>
      appendAll words ((Text.words (process.valueOf name).toList).map String.ofList)) []

/-- The one text that a word stands for. -/
def expandText (process : Process) (word : Word) : String := " ".intercalate (process.expand word)

/-- Write bytes into a sink. -/
def writeTo (files : FileTree) (now : Int) (process : Process) (sink : Sink)
    (data : List UInt8) : FileTree × Process :=
  match sink with
  | .pipe => (files, { process with written := process.written ++ data })
  | .nowhere => (files, process)
  | .file path =>
    let before := (files.read path).toOption.getD []
    ((files.write path (before ++ data) now).toOption.getD files, process)

/-- Write bytes to the output of the current command. -/
def write (files : FileTree) (now : Int) (process : Process) (data : List UInt8) :
    FileTree × Process :=
  writeTo files now process process.streams.output data

/-- The sink of a file to write to, emptied unless to append. -/
def openSink (files : FileTree) (now : Int) (path : String) (append : Bool) :
    Except FileError (FileTree × Sink) :=
  if path = "/dev/null" then .ok (files, .nowhere)
  else
    match append, files.read ⟨path⟩ with
    | true, .ok _ => .ok (files, .file ⟨path⟩)
    | _, _ => (files.write ⟨path⟩ [] now).map (·, .file ⟨path⟩)

/-- The streams under a redirection. -/
def redirect (now : Int) (process : Process) (files : FileTree) (redirect : Redirect) :
    Except FileError (FileTree × Process) :=
  let target := process.expandText redirect.target
  let streams := process.streams
  let toSink (files : FileTree) (sink : Sink) : FileTree × Process :=
    if redirect.descriptor = 2 then
      (files, { process with streams := { streams with errors := sink } })
    else (files, { process with streams := { streams with output := sink } })
  match redirect.direction with
  | .read =>
    if target = "/dev/null" then
      .ok (files, { process with streams := { streams with input := .content [] } })
    else
      (files.read ⟨target⟩).map fun data =>
        (files, { process with streams := { streams with input := .content data } })
  | .write => (openSink files now target false).map fun (files, sink) => toSink files sink
  | .append => (openSink files now target true).map fun (files, sink) => toSink files sink
  | .copy => .ok (toSink files (if target = "2" then streams.errors else streams.output))

/-- End a command with a status. -/
def finish (process : Process) (status : Nat) : Process := { process with status }

/-- End the process. -/
def exit (process : Process) (status : Nat) : Process :=
  { process with status, work := [], ending := some (.code (status % 256)) }

/-- The escapes of texts that are written: a character, and what follows. -/
def escape (zeroed : Bool) : List Char → Option (List UInt8 × List Char)
  | 'n' :: rest => some ([10], rest)
  | 't' :: rest => some ([9], rest)
  | 'r' :: rest => some ([13], rest)
  | 'a' :: rest => some ([7], rest)
  | 'b' :: rest => some ([8], rest)
  | 'f' :: rest => some ([12], rest)
  | 'v' :: rest => some ([11], rest)
  | '\\' :: rest => some ([92], rest)
  | c :: rest =>
    let digits := fun (limit : Nat) (text : List Char) =>
      (text.take limit).takeWhile fun d => '0' ≤ d && d ≤ '7'
    let octal := fun (text : List Char) =>
      UInt8.ofNat (text.foldl (fun n d => 8 * n + (d.toNat - '0'.toNat)) 0)
    if zeroed then
      if c = '0' then
        let run := digits 3 rest
        some ([octal run], rest.drop run.length)
      else none
    else
      let run := digits 3 (c :: rest)
      if run.isEmpty then none else some ([octal run], (c :: rest).drop run.length)
  | [] => none

/-- The bytes of a text with its escapes read. -/
def unescaped (zeroed : Bool) : Nat → List Char → List UInt8
  | 0, _ => []
  | _, [] => []
  | fuel + 1, '\\' :: rest =>
    match escape zeroed rest with
    | some (data, behind) => data ++ unescaped zeroed fuel behind
    | none => 92 :: unescaped zeroed fuel rest
  | fuel + 1, c :: rest => Text.bytes c.toString ++ unescaped zeroed fuel rest

/-- One pass over a format: the bytes, and the arguments that are left. -/
def formatOnce : Nat → List Char → List String → List UInt8 × List String
  | 0, _, arguments => ([], arguments)
  | _, [], arguments => ([], arguments)
  | fuel + 1, '%' :: '%' :: rest, arguments =>
    let (data, left) := formatOnce fuel rest arguments
    (37 :: data, left)
  | fuel + 1, '%' :: c :: rest, arguments =>
    let argument := arguments.headD ""
    let shown := match c with
      | 'd' => Text.bytes (if argument = "" then "0" else argument)
      | 'b' => unescaped true (argument.length + 1) argument.toList
      | _ => Text.bytes argument
    let (data, left) := formatOnce fuel rest (arguments.drop 1)
    (shown ++ data, left)
  | fuel + 1, '\\' :: rest, arguments =>
    match escape false rest with
    | some (shown, behind) =>
      let (data, left) := formatOnce fuel behind arguments
      (shown ++ data, left)
    | none =>
      let (data, left) := formatOnce fuel rest arguments
      (92 :: data, left)
  | fuel + 1, c :: rest, arguments =>
    let (data, left) := formatOnce fuel rest arguments
    (Text.bytes c.toString ++ data, left)

/-- Use a format again and again until no arguments are left. -/
def format (form : List Char) : Nat → List String → List UInt8
  | 0, _ => []
  | fuel + 1, arguments =>
    let (data, left) := formatOnce (form.length + 1) form arguments
    if left.isEmpty ∨ left.length = arguments.length then data else data ++ format form fuel left

/-- The number of a signal by its name or number. -/
def signalNumber (name : String) : Option Nat :=
  let name := (if name.startsWith "SIG" then (name.drop 3).toString else name)
  match Text.digits? name.toList with
  | some n => some n
  | none => [("HUP", 1), ("INT", 2), ("QUIT", 3), ("KILL", 9), ("USR1", 10), ("SEGV", 11),
      ("USR2", 12), ("PIPE", 13), ("ALRM", 14), ("TERM", 15), ("ABRT", 6)].lookup name

/-- The number of the signal that cannot be caught. -/
def killSignal : Nat := 9

/-- The number of the signal that asks for an end. -/
def terminateSignal : Nat := 15

/-- Send a signal. A process without a trap for it ends. -/
def signal (process : Process) (number : Nat) : Process :=
  if process.ending.isSome || number = 0 then process
  else
    match process.traps.lookup number with
    | some handler =>
      if number = killSignal then { process with work := [], ending := some (.signal number) }
      else
        { process with
          work := ((Script.parse handler).getD []).map Work.run ++ process.work }
    | none => { process with work := [], waiting := none, ending := some (.signal number) }

/-- The signal and the targets of a command that sends signals. -/
def killArguments : List String → Option Nat × List String
  | "-s" :: name :: targets => (signalNumber name, targets)
  | first :: targets =>
    match first.toList with
    | '-' :: name => (signalNumber (String.ofList name), targets)
    | _ => (some terminateSignal, first :: targets)
  | [] => (none, [])

/-- Milliseconds that a text of seconds stands for. -/
def milliseconds (text : String) : Nat :=
  match Text.splitFirst '.' text.toList with
  | some (whole, fraction) =>
    (Text.digits? whole).getD 0 * 1000 +
      (Text.digits? ((fraction ++ ['0', '0', '0']).take 3)).getD 0
  | none => (Text.digits? text.toList).getD 0 * 1000

/-- Sleeping no longer than this is not noticed by anybody. -/
def shortSleep : Nat := 2000

/-- How many bytes to pass on at most, by the arguments of `head`. -/
def byteLimit : List String → Option Nat
  | "-c" :: n :: _ => Text.digits? n.toList
  | [option] => Text.digits? (option.toList.drop 2)
  | _ => none

/-- Pass on the contents of files. -/
def passOn (now : Int) : List String → FileTree × Process → FileTree × Process
  | [], state => state
  | path :: rest, (files, process) =>
    match files.read ⟨path⟩ with
    | .ok data => passOn now rest (write files now process data)
    | .error _ => passOn now rest (files, process.finish 1)

/-- Compare two numbers written in digits. -/
def compared (holds : Nat → Nat → Bool) (left right : String) : Option Bool :=
  match Text.digits? left.toList, Text.digits? right.toList with
  | some m, some n => some (holds m n)
  | _, _ => none

/-- What a test says about files, texts and numbers, if it can be read. -/
def tested (files : FileTree) : List String → Option Bool
  | [] => some false
  | "!" :: condition => (tested files condition).map not
  | [text] => some (!text.isEmpty)
  | ["-n", text] => some (!text.isEmpty)
  | ["-z", text] => some text.isEmpty
  | ["-e", path] => some (files.lookup ⟨path⟩).toOption.isSome
  | ["-f", path] => some (files.read ⟨path⟩).toOption.isSome
  | ["-s", path] => some (!((files.read ⟨path⟩).toOption.getD []).isEmpty)
  | ["-d", path] =>
    some ((files.lookup ⟨path⟩).toOption.isSome && !(files.read ⟨path⟩).toOption.isSome)
  | [left, "=", right] => some (left == right)
  | [left, "!=", right] => some (left != right)
  | [left, "-eq", right] => compared (· == ·) left right
  | [left, "-ne", right] => compared (· != ·) left right
  | [left, "-lt", right] => compared (fun m n => decide (m < n)) left right
  | [left, "-le", right] => compared (fun m n => decide (m ≤ n)) left right
  | [left, "-gt", right] => compared (fun m n => decide (n < m)) left right
  | [left, "-ge", right] => compared (fun m n => decide (n ≤ m)) left right
  | _ => none

/-- The status that a test ends with. -/
def testStatus (files : FileTree) (condition : List String) : Nat :=
  match tested files condition with
  | some true => 0
  | some false => 1
  | none => 2

/-- Run one command with its arguments. -/
def command (now : Int) (files : FileTree) (process : Process) (name : String)
    (arguments : List String) : FileTree × Process :=
  let done := process.finish 0
  match name with
  | "true" | ":" => (files, done)
  | "false" => (files, process.finish 1)
  | "exit" =>
    match arguments with
    | [] => (files, process.exit process.status)
    | value :: _ => (files, process.exit ((Text.digits? value.toList).getD 2))
  | "test" => (files, process.finish (testStatus files arguments))
  | "[" =>
    (files, process.finish
      (if arguments.getLast? = some "]" then testStatus files arguments.dropLast else 2))
  | "shift" =>
    let count := match arguments with
      | [] => 1
      | n :: _ => (Text.digits? n.toList).getD 0
    if count < process.parameters.length then
      (files, { done with parameters :=
        process.parameters.take 1 ++ process.parameters.drop (1 + count) })
    else (files, process.exit 2)
  | "exec" =>
    match arguments with
    | [] => (files, done)
    | _ =>
      let words := arguments.map fun argument => [Piece.literal argument]
      (files, { done with
        traps := process.traps.filter fun (_, handler) => handler.isEmpty
        work := [.run (.simple words)] })
  | "echo" =>
    let (arguments, ending) : List String × List UInt8 := match arguments with
      | "-n" :: rest => (rest, [])
      | _ => (arguments, [10])
    let text := " ".intercalate arguments
    write files now done (unescaped true (text.length + 1) text.toList ++ ending)
  | "printf" =>
    match arguments with
    | [] => (files, process.finish 2)
    | form :: rest => write files now done (format form.toList (rest.length + 1) rest)
  | "cat" =>
    if arguments.isEmpty ∨ arguments = ["-"] then
      (files, { done with waiting := some (.input none) })
    else passOn now arguments (files, done)
  | "head" =>
    match byteLimit arguments with
    | some limit => (files, { done with waiting := some (.input (some limit)) })
    | none => (files, process.finish 1)
  | "sleep" =>
    if milliseconds (arguments.headD "") ≤ shortSleep then (files, done)
    else (files, { done with waiting := some .time })
  | "kill" =>
    match killArguments arguments with
    | (some number, targets) =>
      (files, if targets.contains process.number then done.signal number else process.finish 1)
    | _ => (files, process.finish 2)
  | "trap" =>
    match arguments with
    | handler :: names =>
      let numbers := names.filterMap signalNumber
      let others := process.traps.filter fun (n, _) => !numbers.contains n
      (files, { done with
        traps := if handler = "-" then others else numbers.map (·, handler) ++ others })
    | [] => (files, done)
  | "mkdir" =>
    let made := (arguments.filter (· ≠ "-p")).foldl
      (fun (files : FileTree) path => (files.makeDirectories ⟨path⟩).fst) files
    (made, done)
  | "rm" =>
    let left := (arguments.filter fun path => !path.startsWith "-").foldl
      (fun (files : FileTree) path => (files.remove ⟨path⟩).toOption.getD files) files
    (left, done)
  | "touch" =>
    let touched := arguments.foldl (fun (files : FileTree) path =>
      let content := (files.read ⟨path⟩).toOption.getD []
      (files.write ⟨path⟩ content now).toOption.getD files) files
    (touched, done)
  | _ => (files, process.finish 127)

/-- The variable that a word sets, at the front of a command. -/
def assignment (word : String) : Option (String × String) :=
  match Text.splitFirst '=' word.toList with
  | some (name, value) =>
    if !name.isEmpty && name.all Script.isNameChar && !(name.headD '0').isDigit then
      some (String.ofList name, String.ofList value)
    else none
  | none => none

/-- Run a simple command. -/
def simple (now : Int) (files : FileTree) (process : Process) (words : List Word) :
    FileTree × Process :=
  match words.flatMap process.expand with
  | [] => (files, process.finish 0)
  | first :: rest =>
    match assignment first with
    | some (name, value) =>
      (files, { process.finish 0 with assigned := (name, value) :: process.assigned })
    | none => command now files process first rest

/-- Open redirections in order. -/
def redirectAll (now : Int) : List Redirect → FileTree × Process → Except FileError (FileTree × Process)
  | [], state => .ok state
  | r :: rest, (files, process) =>
    match redirect now process files r with
    | .ok state => redirectAll now rest state
    | .error cause => .error cause

/-- Put statements in front of what is left to do. -/
def push (process : Process) (statements : List Statement) (behind : List Work) : Process :=
  { process with work := statements.map Work.run ++ behind }

/-- Begin a statement. -/
def start (now : Int) (files : FileTree) (process : Process) (rest : List Work) :
    Statement → FileTree × Process
  | .simple words => simple now files { process with work := rest } words
  | .redirected body redirects =>
    match redirectAll now redirects (files, process) with
    | .error _ => (files, { process.finish 2 with work := rest })
    | .ok (files, inner) =>
      (files, { inner with work := .run body :: .restore process.streams :: rest })
  | .both first second => (files, process.push [first] (.ifSucceeded second :: rest))
  | .either first second => (files, process.push [first] (.ifFailed second :: rest))
  | .negated body => (files, process.push [body] (.negate :: rest))
  | .group body => (files, process.push body rest)
  | .each name values body =>
    (files, { process.finish 0 with
      work := .forEach name (values.flatMap process.expand) body :: rest })
  | .repeated while_ condition body =>
    (files, process.push condition (.whenTested while_ condition body :: rest))
  | .choice condition yes no => (files, process.push condition (.choose yes no :: rest))

/-- Do the next piece of work. -/
def step (now : Int) (files : FileTree) (process : Process) : FileTree × Process :=
  match process.work with
  | [] => (files, process.exit process.status)
  | .run statement :: rest => start now files process rest statement
  | .ifSucceeded statement :: rest =>
    (files, if process.status = 0 then process.push [statement] rest else { process with work := rest })
  | .ifFailed statement :: rest =>
    (files, if process.status = 0 then { process with work := rest } else process.push [statement] rest)
  | .negate :: rest =>
    (files, { process with work := rest, status := if process.status = 0 then 1 else 0 })
  | .forEach _ [] _ :: rest => (files, { process with work := rest })
  | .forEach name (value :: values) body :: rest =>
    (files, { process with assigned := (name, value) :: process.assigned }.push body
      (.forEach name values body :: rest))
  | .whenTested while_ condition body :: rest =>
    if decide (process.status = 0) = while_ then
      (files, process.push (body ++ condition) (.whenTested while_ condition body :: rest))
    else (files, { process.finish 0 with work := rest })
  | .choose yes no :: rest =>
    (files, process.push (if process.status = 0 then yes else no) rest)
  | .restore streams :: rest => (files, { process with streams, work := rest })

/-- Pass on input that is waited for. The wait is over with the last byte wanted or
at the end of the input. -/
def drain (now : Int) (files : FileTree) (process : Process) (left : Option Nat) :
    FileTree × Process :=
  let (available, ended) := match process.streams.input with
    | .pipe => (process.received, !process.inputOpen)
    | .content data => (data, true)
  let count := match left with
    | some n => min n available.length
    | none => available.length
  let behind := available.drop count
  let reading := match process.streams.input with
    | .pipe => { process with received := behind }
    | .content _ => { process with streams := { process.streams with input := .content behind } }
  let (files, reading) := write files now reading (available.take count)
  match left with
  | some n =>
    if count = n ∨ ended then (files, { reading with waiting := none })
    else (files, { reading with waiting := some (.input (some (n - count))) })
  | none => (files, if ended then { reading with waiting := none } else reading)

/-- Run until the process has ended or waits. One that does neither for long is
taken to wait for ever. -/
def run (now : Int) : Nat → FileTree → Process → FileTree × Process
  | 0, files, process => (files, { process with waiting := some .time })
  | fuel + 1, files, process =>
    if process.ending.isSome then (files, process)
    else
      match process.waiting with
      | some .time => (files, process)
      | some (.input left) =>
        let (files, process) := drain now files process left
        if process.waiting.isSome then (files, process) else run now fuel files process
      | none =>
        let (files, process) := step now files process
        run now fuel files process

/-- How many steps a process may take at once. -/
def runFuel : Nat := 100000

/-- Go on as far as possible. -/
def resume (now : Int) (files : FileTree) (process : Process) : FileTree × Process :=
  run now runFuel files process

/-- Send bytes to the input. -/
def feed (process : Process) (data : List UInt8) : Process :=
  if process.inputOpen then { process with received := process.received ++ data } else process

/-- Close the input. -/
def closeInput (process : Process) : Process := { process with inputOpen := false }

/-- Let time pass until the process ends or waits for input. -/
def awake (now : Int) : Nat → FileTree → Process → FileTree × Process
  | 0, files, process => (files, process)
  | fuel + 1, files, process =>
    if process.waiting = some .time ∧ process.ending.isNone then
      let (files, process) := resume now files { process with waiting := none }
      awake now fuel files process
    else (files, process)

/-- The programs that can be run by their names alone. -/
def tools : List String :=
  ["sh", "cat", "head", "sleep", "true", "false", "echo", "printf", "kill", "mkdir", "rm", "touch"]

/-- The directories in which tools lie. -/
def toolDirectories : List String := ["/bin/", "/usr/bin/"]

/-- The tool that a program is. -/
def toolOf (program : String) : Option String :=
  if tools.contains program then some program
  else
    (toolDirectories.flatMap fun directory => tools.map fun tool => (directory ++ tool, tool)).lookup
      program

/-- The longest argument, in bytes. -/
def maxArgument : Nat := 131071

/-- Whether a program can be run, or why not. Files of the tree are no programs. -/
def launchable (files : FileTree) (words : List String) : Except String Unit :=
  let program := words.headD ""
  if words.any fun word => word.toList.contains '\x00' then
    .error "nul byte found in provided data"
  else if words.any fun word => maxArgument < word.utf8ByteSize then
    .error "Argument list too long (os error 7)"
  else if (toolOf program).isSome then .ok ()
  else if program.toList.contains '/' then
    match files.lookup ⟨program⟩ with
    | .ok _ => .error FileError.denied.message
    | .error cause => .error cause.message
  else .error FileError.missing.message

/-- What a shell is to run, by its arguments. -/
def shellScript (files : FileTree) : List String → Option (String × List String)
  | "-c" :: script :: rest => some (script, if rest.isEmpty then ["sh"] else rest)
  | path :: rest =>
    match files.read ⟨path⟩ with
    | .ok data => some (Text.ofBytesLossy data, path :: rest)
    | .error _ => none
  | [] => none

/-- A process that was just launched, run as far as possible. -/
def launch (now : Int) (files : FileTree) (id : String) (serial : Nat) (words : List String) :
    FileTree × Process :=
  let fresh : Process := { id, serial }
  let arguments := words.drop 1
  match toolOf (words.headD "") with
  | some "sh" =>
    match shellScript files arguments with
    | some (script, parameters) =>
      match Script.parse script with
      | some body => resume now files ({ fresh with parameters }.push body [])
      | none => (files, fresh.exit 2)
    | none => (files, fresh.exit 2)
  | some "echo" =>
    let (files, process) := command now files fresh "echo" arguments
    (files, process.exit process.status)
  | some "true" => (files, fresh.exit 0)
  | _ => (files, fresh.exit 1)

end Process
end MediaNode.Simulation
