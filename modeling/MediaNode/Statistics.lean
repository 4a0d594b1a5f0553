import MediaNode.Double.Basic
import MediaNode.Json.Basic
import MediaNode.Text.Blank
import MediaNode.Text.Number

/-!
# Statistics of the machine

The kernel reports its counters as text. The readers here take them apart and
pass over every line and word that does not fit; what cannot be read counts as
zero.

Counters have 64 bits. A node built for service lets a sum that needs more start
again from zero; one built with checks gives up there. What adds counters is
written once, for any addition.
-/
namespace MediaNode.Statistics

/-- Ticks of all processors since the start. -/
structure CpuTimes where
  busy : Nat
  total : Nat
deriving DecidableEq, Repr, Inhabited

/-- Bytes received and sent since the start. -/
@[ext]
structure NetCounters where
  received : Nat
  sent : Nat
deriving DecidableEq, Repr, Inhabited

/-- Add two counters. A sum that needs more than 64 bits starts again from zero. -/
def addWrapping (a b : Nat) : Id Nat := pure ((a + b) % UInt64.size)

/-- Add two counters; `none` if the sum needs more than 64 bits. -/
def addChecked (a b : Nat) : Option Nat := if a + b < UInt64.size then some (a + b) else none

/-- The words of a text that are 64-bit numbers. -/
def numbers (text : List Char) : List Nat := (Text.words text).filterMap (Text.unsigned? 64)

/-- The numbers behind the first word of the line for all processors. -/
def cpuFields (content : String) : Option (List Nat) :=
  ((Text.lineList content.toList).find? ("cpu ".toList.isPrefixOf ·)).map fun line =>
    ((Text.words line).drop 1).filterMap (Text.unsigned? 64)

section Ticks

variable {m : Type → Type} [Monad m] (add : Nat → Nat → m Nat)

/-- The ticks of a line of counters: the total counts the first eight fields, idle
time is the fourth and, if it is there, the fifth. -/
def cpuOfFields (fields : List Nat) : m (Option CpuTimes) :=
  match fields with
  | _ :: _ :: _ :: idle :: rest => do
    let total ← (fields.take 8).foldlM add 0
    let waiting ← add idle (rest.headD 0)
    return some { busy := total - waiting, total }
  | _ => return none

/-- The ticks of all processors, with a given addition. -/
def cpuTimesBy (content : String) : m (Option CpuTimes) :=
  match cpuFields content with
  | some fields => cpuOfFields add fields
  | none => return none

end Ticks

/-- The ticks of all processors. -/
def cpuTimes (content : String) : Option CpuTimes := (cpuTimesBy addWrapping content).run

/-- The ticks of all processors where no sum may wrap; `none` if one would have to. -/
def cpuTimes? (content : String) : Option (Option CpuTimes) := cpuTimesBy addChecked content

/-- How busy the processors were between two samples, in percent. -/
def cpuPercent (before now : CpuTimes) : Double :=
  let total := now.total - before.total
  if total = 0 then Double.ofNat 0
  else
    let busy := now.busy - before.busy
    ((Double.ofNat busy).mul (Double.ofNat 100)).div (Double.ofNat total)

/-- The three load averages. -/
def loadAverage (content : String) : String :=
  " ".intercalate (((Text.words content.toList).take 3).map String.ofList)

/-- A text behind its beginning. -/
def dropBeginning : List Char → List Char → Option (List Char)
  | [], text => some text
  | _ :: _, [] => none
  | c :: beginning, d :: text => if c = d then dropBeginning beginning text else none

/-- The bytes in the first line for a name, which gives them in units of 1024. Bytes that
need more than 64 bits start again from zero. -/
def memoryField (content name : String) : Option Nat :=
  (((Text.lineList content.toList).findSome? (dropBeginning name.toList)).bind
    fun rest => (Text.words rest).head?).bind fun word =>
      (Text.unsigned? 64 word).map (· * 1024 % UInt64.size)

/-- Total and available bytes of memory. -/
def memory (content : String) : Nat × Nat :=
  ((memoryField content "MemTotal:").getD 0,
   ((memoryField content "MemAvailable:").or (memoryField content "MemFree:")).getD 0)

/-- Whole seconds since the start. -/
def uptime (content : String) : Nat :=
  ((Text.words content.toList).head?.bind fun word =>
    Text.unsigned? 64 (word.takeWhile (· ≠ '.'))).getD 0

/-- The received and sent bytes among the numbers of a line: the first and the ninth. -/
def countersOfFields : List Nat → Option NetCounters
  | received :: _ :: _ :: _ :: _ :: _ :: _ :: _ :: sent :: _ => some { received, sent }
  | _ => none

/-- The received and sent bytes of a line, from the numbers behind the name of an
interface other than the loopback. -/
def interfaceCounters (line : List Char) : Option NetCounters :=
  match Text.splitFirst ':' line with
  | none => none
  | some (name, data) =>
    if Text.trimChars name = "lo".toList then none else countersOfFields (numbers data)

section Totals

variable {m : Type → Type} [Monad m] (add : Nat → Nat → m Nat)

/-- Add the counters of one more interface. -/
def addInterface (total counters : NetCounters) : m NetCounters := do
  let received ← add total.received counters.received
  let sent ← add total.sent counters.sent
  return { received, sent }

/-- The sums over all interfaces except the loopback, with a given addition. -/
def netCountersBy (content : String) : m NetCounters :=
  ((Text.lineList content.toList).filterMap interfaceCounters).foldlM (addInterface add)
    { received := 0, sent := 0 }

end Totals

/-- The sums over all interfaces except the loopback. -/
def netCounters (content : String) : NetCounters := (netCountersBy addWrapping content).run

/-- The sums over all interfaces except the loopback where none may wrap; `none` if one
would have to. -/
def netCounters? (content : String) : Option NetCounters := netCountersBy addChecked content

/-- Who is connected. -/
structure OnlineUsers where
  daemon : Nat
  http : Nat
  vods : Nat
  cods : Nat
deriving DecidableEq, Repr, Inhabited

/-- The users as a value. -/
def OnlineUsers.toJson (users : OnlineUsers) : Json :=
  .ofMembers [("daemon", .int users.daemon), ("http", .int users.http),
    ("vods", .int users.vods), ("cods", .int users.cods)]

/-- What one look at the machine shows. -/
structure Sample where
  cpu : Double := Double.ofNat 0
  gpu : Double := Double.ofNat 0
  loadAverage : String := ""
  memoryTotal : Nat := 0
  memoryFree : Nat := 0
  diskTotal : Nat := 0
  diskFree : Nat := 0
  bandwidthIn : Nat := 0
  bandwidthOut : Nat := 0
  uptime : Nat := 0
  bytesIn : Nat := 0
  bytesOut : Nat := 0
deriving DecidableEq, Repr, Inhabited

/-- The members of a report of the machine. -/
def Sample.members (sample : Sample) (timestamp : Int) (users : OnlineUsers) :
    List (String × Json) :=
  [("cpu", .float sample.cpu), ("gpu", .float sample.gpu),
   ("load_average", .str sample.loadAverage), ("memory_total", .int sample.memoryTotal),
   ("memory_free", .int sample.memoryFree), ("hdd_total", .int sample.diskTotal),
   ("hdd_free", .int sample.diskFree), ("bandwidth_in", .int sample.bandwidthIn),
   ("bandwidth_out", .int sample.bandwidthOut), ("uptime", .int sample.uptime),
   ("timestamp", .int timestamp), ("online_users", users.toJson),
   ("total_bytes_in", .int sample.bytesIn), ("total_bytes_out", .int sample.bytesOut)]

/-- The texts in which the kernel reports its counters. -/
structure Report where
  stat : String := ""
  loadAverage : String := ""
  memory : String := ""
  uptime : String := ""
  network : String := ""
deriving DecidableEq, Repr, Inhabited

/-- The counters of the sample before, which turn totals into rates. -/
structure Meter where
  cpu : Option CpuTimes := none
  /-- The counters, and the time in milliseconds at which they were read. -/
  net : Option (NetCounters × Nat) := none
deriving DecidableEq, Repr, Inhabited

/-- Bytes per second. -/
def perSecond (delta milliseconds : Nat) : Nat :=
  min (delta * 1000 / max milliseconds 1) (UInt64.size - 1)

/-- Take a sample: rates cover the time since the one before. -/
def Meter.sample (meter : Meter) (report : Report) (disk : Nat × Nat) (clock : Nat) :
    Sample × Meter :=
  let cpuNow := (cpuTimes report.stat).getD { busy := 0, total := 0 }
  let netNow := netCounters report.network
  let (memoryTotal, memoryFree) := memory report.memory
  let rates := match meter.net with
    | some (before, time) =>
      (perSecond (netNow.received - before.received) (clock - time),
       perSecond (netNow.sent - before.sent) (clock - time))
    | none => (0, 0)
  ({ cpu := match meter.cpu with
      | some before => cpuPercent before cpuNow
      | none => Double.ofNat 0
     loadAverage := loadAverage report.loadAverage
     memoryTotal, memoryFree
     diskTotal := disk.fst
     diskFree := disk.snd
     bandwidthIn := rates.fst
     bandwidthOut := rates.snd
     uptime := uptime report.uptime
     bytesIn := netNow.received
     bytesOut := netNow.sent },
   { cpu := some cpuNow, net := some (netNow, clock) })

end MediaNode.Statistics
