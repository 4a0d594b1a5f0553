import MediaNode.Proofs.Node.Relaunch
import MediaNode.Proofs.Worker.Renewal

/-!
# A restart gives the same stream again

At the end of a worker that is to be launched again, the stream is started from the spec
that the handle kept. The start passes everything that depends on the spec, because the
spec passed it before. It ends with a worker that differs from the old one in its serial
number and its youth alone, or it fails for a reason that lies in the machine.

That the process gets the same command is a statement about two moments of a history, the
one at which the old worker was launched and the exit. The trace of the supervisor connects
them; a node launches what its supervisor launches, and serial numbers are launched once.
-/
namespace MediaNode

open Worker (Operation launchedSerial? launchedSerials launchedSerials_append)

/-- In a list that launches no serial number twice, a launch is given by its number. -/
theorem eq_of_launchedSerials {effects : List Effect} (distinct : (launchedSerials effects).Nodup)
    {one other : Effect} {serial : Nat} (first : one ∈ effects) (second : other ∈ effects)
    (launches : launchedSerial? one = some serial) (same : launchedSerial? other = some serial) :
    one = other := by
  obtain ⟨before, later, rfl⟩ := List.append_of_mem first
  have split : launchedSerials (before ++ one :: later) =
      launchedSerials before ++ serial :: launchedSerials later := by
    rw [launchedSerials_append]
    exact congrArg (launchedSerials before ++ ·) (List.filterMap_cons_some launches)
  rw [split, List.nodup_middle, List.nodup_cons] at distinct
  rcases List.mem_append.mp second with earlier | here
  · exact absurd (List.mem_append_left _ (List.mem_filterMap.mpr ⟨other, earlier, same⟩)) distinct.1
  · rcases List.mem_cons.mp here with rfl | after
    · rfl
    · exact absurd (List.mem_append_right _ (List.mem_filterMap.mpr ⟨other, after, same⟩))
        distinct.1

namespace Node

variable {node after : Node} {calls : List Operation} {effects trace : List Effect} {id : String}
  {serial : Nat} {command : List String}

/-- What the calls of an operation launch, the operation launches, with the same command. -/
theorem Follows.launch_mem (follows : node.Follows calls after effects)
    (life : Worker.Lifecycle node.supervisor trace)
    (launched : .launch id serial command ∈ (node.supervisor.run calls).snd) :
    .launch id serial command ∈ effects := by
  have numbered : serial ∈ launchedSerials effects := by
    rw [follows.launches]
    exact List.mem_filterMap.mpr ⟨_, launched, rfl⟩
  obtain ⟨effect, wanted, launches⟩ := List.mem_filterMap.mp numbered
  have distinct : (launchedSerials (node.supervisor.run calls).snd).Nodup := by
    have all := (life.run calls).launches
    rw [launchedSerials_append] at all
    exact all.of_append_right
  rcases follows.wanted effect wanted with called | aside
  · exact eq_of_launchedSerials distinct launched called rfl launches ▸ wanted
  · have silent : launchedSerials [effect] = [] :=
      launchedSerials_of_aside fun other member => List.mem_singleton.mp member ▸ aside
    simp [launchedSerials, launches] at silent

/-- That a worker was launched by a command at some moment of a history. -/
def LaunchedBy (node : Node) (history : List Moment) (id : String) (serial : Nat)
    (command : List String) : Prop :=
  ∃ before moment later, history = before ++ moment :: later ∧
    .launch id serial command ∈ ((node.after before).step moment).effects

/-- What the calls of a history launch is launched at some moment of it. -/
theorem launchedBy_of_run (life : Worker.Lifecycle node.supervisor trace) (history : List Moment)
    (launched : .launch id serial command ∈ (node.supervisor.run (node.callsOf history)).snd) :
    node.LaunchedBy history id serial command := by
  induction history generalizing node trace with
  | nil => simp [callsOf] at launched
  | cons moment rest inductionHypothesis =>
    have follows := node.step_follows moment
    rw [callsOf, Worker.Supervisor.run_append] at launched
    rcases List.mem_append.mp launched with now | afterwards
    · exact ⟨[], moment, rest, rfl, follows.launch_mem life now⟩
    · have next := life.run (node.calls moment)
      rw [← follows.supervisor] at next afterwards
      obtain ⟨before, later, others, rfl, wanted⟩ := inductionHypothesis next afterwards
      exact ⟨moment :: before, later, others, rfl, wanted⟩

/-- In every history from the start, every worker can be launched again as it was. -/
theorem after_renewable (settings : Settings) (history : List Moment) :
    ((ofSettings settings).after history).supervisor.Renewable
      ((Worker.Supervisor.ofSettings settings).run
        ((ofSettings settings).callsOf history)).snd := by
  rw [after_supervisor]
  exact (Worker.Supervisor.Renewable.initial settings).run _

/-- That a turn put a worker in the place of an older one: it is registered under the same
id, and its process is the only one that was launched, by a given command. -/
structure Renewed (turn : Turn) (handle fresh : Worker.Handle) (command : List String) : Prop where
  renews : handle.Renews fresh
  registered : turn.node.supervisor.registry.getSerial? handle.id fresh.serial = some fresh
  launches : launchedSerials turn.effects = [fresh.serial]
  launched : .launch handle.id fresh.serial command ∈ turn.effects

/-- After every history, the end of a live worker that is to be launched again gives its
stream a new worker of the same spec, configuration and served roots, launched by the very
command that the old one was launched by, which is the one that holds the text of the spec; or
it leaves the stream without a worker because a directory could not be made or the program not
be run. -/
theorem restart_renews (settings : Settings) (history : List Moment) {id : String}
    {serial : Nat} {handle : Worker.Handle}
    (live : ((ofSettings settings).after history).supervisor.registry.getSerial? id serial =
      some handle)
    (again : handle.restart = true) (around : Surroundings) (files : FileTree)
    (code signal : Option Int) :
    let node := (ofSettings settings).after history
    let turn := node.step ⟨around, files, .commanded (.workerExited id serial code signal)⟩
    let start := (node.without id serial).supervisor.create around files handle.spec
    (∃ fresh command, start.snd.result = .ok () ∧ Renewed turn handle fresh command ∧
      node.supervisor.commandOf id handle.spec = some command ∧
      (ofSettings settings).LaunchedBy history id serial command) ∨
    ∃ fault, start.snd.result = .error fault ∧ fault.OfMachine ∧ launchedSerials turn.effects = [] ∧
      id ∉ turn.node.supervisor.registry.ids := by
  intro node turn start
  have renewable := after_renewable settings history
  obtain ⟨found, rfl⟩ := Worker.Registry.getSerial?_eq_some_iff.mp live
  obtain ⟨registered, rfl⟩ := Worker.Registry.mem_of_get? found
  obtain ⟨told, asides, exit⟩ := workerExited_of_getSerial? around files code signal live
  have silent := launchedSerials_of_aside asides
  have shape : turn.node = ((node.without handle.id handle.serial).lazyStart around files
        handle.spec).node ∧
      turn.effects = told ++ ((node.without handle.id handle.serial).lazyStart around files
        handle.spec).effects := by
    simp only [turn, node, step, apply, exit, again, if_true, and_self]
  have outcome := renewable.renewed_or_prevented live again around files
  rcases created : start with ⟨made, trial⟩
  have attempt : (node.without handle.id handle.serial).supervisor.create around files
      handle.spec = (made, trial) := created
  rw [lazyStart, attempt] at shape
  rw [show (node.supervisor.exited handle.id handle.serial).fst.create around files
    handle.spec = (made, trial) from attempt] at outcome
  obtain ⟨after, fresh, command, rfl, renews, present, commanded, launched⟩ |
    ⟨fault, rfl, machine⟩ := outcome
  · refine .inl ⟨fresh, command, rfl, ?_, commanded,
      launchedBy_of_run (Worker.Lifecycle.initial settings) history launched⟩
    exact {
      renews
      registered := by
        rw [shape.1]
        exact present
      launches := by
        rw [shape.2, launchedSerials_append, silent, List.nil_append]
        exact Worker.Lifecycle.launchedSerials_append_launch handle.id fresh.serial command _ []
      launched := shape.2 ▸ List.mem_append_right told List.mem_cons_self }
  · refine .inr ⟨fault, rfl, machine, ?_, ?_⟩
    · rw [shape.2, List.append_nil, silent]
    · rw [shape.1]
      simp [Worker.Supervisor.exited_of_getSerial? live, Worker.Supervisor.withRegistry,
        Worker.Registry.ids]

/-- The relay that is restarted is launched again as it was launched before. -/
theorem restart_renews_relay :
    let exit : Moment := ⟨default, .empty, .commanded (.workerExited "s1" 1 none none)⟩
    ∃ handle fresh command, ((ofSettings relaySettings).after
        relayHistory).supervisor.registry.getSerial? "s1" 1 = some handle ∧
      handle.restart = true ∧
      Renewed (((ofSettings relaySettings).after relayHistory).step exit) handle fresh command ∧
      (ofSettings relaySettings).LaunchedBy relayHistory "s1" 1 command := by
  intro exit
  have restarting : (((ofSettings relaySettings).after relayHistory).supervisor.registry.getSerial?
      "s1" 1).map Worker.Handle.restart = some true := by decide +kernel
  obtain ⟨handle, live, again⟩ := Option.map_eq_some_iff.mp restarting
  have launches : launchedSerials
      (((ofSettings relaySettings).after relayHistory).step exit).effects = [2] := by
    decide +kernel
  obtain ⟨fresh, command, -, renewed, -, before⟩ | ⟨fault, -, -, idle, -⟩ :=
    restart_renews relaySettings relayHistory live again default .empty none none
  · exact ⟨handle, fresh, command, live, again, renewed, before⟩
  · exact absurd (launches.symm.trans idle) (by simp)

end Node
end MediaNode
