import MediaNode.Simulation.Traffic

/-!
# Waiting

Time passes in a network only when somebody waits or when the clock is put
forward. While time passes, timers go off, chores are done, and callers and
uploads give up, each when it is due.
-/
namespace MediaNode.Simulation.Network

/-- When the next thing is due. -/
def nextDue (network : Network) : Option Nat :=
  (network.machine.timers.map Prod.fst ++ network.chores.map Prod.fst ++
    network.held.map Exchange.deadline ++
    network.clients.filterMap fun (_, _, client) => client.nextDeadline).min?

/-- Do the chores that are due. The next time of a chore is counted from now. -/
def doChores (network : Network) (due : Nat) : Network :=
  let settings := network.machine.node.settings
  let now := network.machine.time
  let chores := network.chores.map fun (time, chore) =>
    if time ≤ due then (now + max 1 (chore.interval settings), chore) else (time, chore)
  (network.chores.filter (·.fst ≤ due)).foldl (fun network (_, chore) => network.doChore chore)
    { network with chores }

/-- Give up the uploads that are due. -/
def giveUpUploads (network : Network) (due : Nat) : Network :=
  let (late, held) := network.held.partition (·.deadline ≤ due)
  late.foldl (fun network held =>
    network.answerUpload held.job (.error (Upload.unsent held.request.url))) { network with held }

/-- Let the callers that are due give up. -/
def giveUpCalls (network : Network) (due : Nat) : Network :=
  { network with
    clients := network.clients.map fun (holder, key, client) => (holder, key, client.expire due) }

/-- Do what is due, and what follows from it. -/
def fire (network : Network) (due : Nat) : Network :=
  let network := { network with machine := (network.machine.ringDue due).fst }
  (((network.doChores due).giveUpUploads due).giveUpCalls due).rest

/-- Do everything that is due up to a time, the earliest first. Time stands still
meanwhile. -/
def fireUpTo : Nat → Nat → Network → Network
  | 0, _, network => network
  | fuel + 1, time, network =>
    match network.nextDue.filter (· ≤ time) with
    | some due => fireUpTo fuel time (network.fire due)
    | none => network

/-- How many things may be due at one time. -/
def fireFuel : Nat := 1000

/-- Put the clock forward at once. -/
def advance (network : Network) (milliseconds : Nat) : Network :=
  let time := network.machine.time + milliseconds
  (fireUpTo fireFuel time { network with machine := { network.machine with time } }).rest

/-- Let time pass up to a time, until somebody has what he waits for. -/
def awaitUpTo (ready : Network → Bool) (time : Nat) : Nat → Network → Network
  | 0, network => network
  | fuel + 1, network =>
    if ready network then network
    else
      match network.nextDue.filter (· ≤ time) with
      | some due =>
        awaitUpTo ready time fuel
          ({ network with machine := { network.machine with
              time := max network.machine.time due } }.fire due)
      | none => { network with machine := { network.machine with time } }

/-- Wait for something, at most so many milliseconds. -/
def await (network : Network) (milliseconds : Nat) (ready : Network → Bool) : Network :=
  awaitUpTo ready (network.machine.time + milliseconds) fireFuel network.rest

/-- Milliseconds that a test waits for something. -/
def usualWait : Nat := 2000

end MediaNode.Simulation.Network
