import MediaNode.Proofs.Node.Requests
import MediaNode.Node.Chores

/-!
# What events leave alone

Commands and chores reach into few parts of a node. Each statement here gives the node
afterwards as the one before with the parts put in that may have changed, so that every
other part is read off by looking at it.
-/
namespace MediaNode.Node

variable {node : Node}

/-- Starting a stream that was asked for changes the workers. -/
theorem lazyStart_frame (around : Surroundings) (files : FileTree) (spec : Stream.Spec) :
    (node.lazyStart around files spec).node =
      { node with supervisor := (node.lazyStart around files spec).node.supervisor } :=
  rfl

/-- A command changes the workers with the outbox, or what directories are used for. -/
theorem apply_frame (around : Surroundings) (files : FileTree) (command : Command) :
    let after := (node.apply around files command).node
    after = { node with
      outbox := after.outbox, supervisor := after.supervisor
      sites := after.sites, monitored := after.monitored } := by
  cases command with
  | startStream spec =>
    simp only [apply]
    rw [lazyStart_frame]
  | workerMessage id serial message =>
    simp only [apply, workerMessage]
    split <;> rfl
  | workerExited id serial code signal =>
    simp only [apply, workerExited]
    split
    · rfl
    · split
      · simp only
        rw [lazyStart_frame]
      · rfl
  | _ => rfl

/-- Looking for channels that nobody asks for changes the workers with the outbox. -/
theorem reapEach_frame (clock : Int) (ids : List String) :
    (node.reapEach clock ids).fst =
      node.withWorkers (node.reapEach clock ids).fst.outbox
        (node.reapEach clock ids).fst.supervisor := by
  induction ids generalizing node with
  | nil => rfl
  | cons id rest inductionHypothesis =>
    unfold reapEach
    split
    · exact inductionHypothesis
    · split
      · exact inductionHypothesis
      · split
        · exact inductionHypothesis
        next outbox supervisor effects stopped =>
          simp only
          rw [inductionHypothesis]
          rfl

/-- The beginning of a shutdown raises the flag, and changes the workers with the outbox. -/
theorem beginShutdown_frame {delay : Nat} {after : Node} {effects : List Effect}
    (begun : node.beginShutdown delay = .ok (after, effects)) :
    after = { node with
      shutdown := true, outbox := after.outbox, supervisor := after.supervisor } := by
  unfold beginShutdown at begun
  split at begun
  · cases begun
  · split at begun <;> cases begun <;> rfl

/-- A chore changes who is connected and the workers, measures the machine, or begins the
shutdown. -/
theorem doChore_frame (around : Surroundings) (files : FileTree) (chore : Chore) :
    let after := (node.doChore around files chore).node
    after = { node with
      sessions := after.sessions, senders := after.senders, outbox := after.outbox
      supervisor := after.supervisor, meter := after.meter, shutdown := after.shutdown } := by
  cases chore with
  | ping => rfl
  | reap =>
    simp only [doChore, reap]
    rw [reapEach_frame]
    rfl
  | sweep => rfl
  | report => rfl
  | license =>
    simp only [doChore, checkLicense]
    split
    · rfl
    · split
      next begun =>
        simp only
        rw [beginShutdown_frame begun]
      next => rfl

/-- A request changes its session, the links and the workers, measures the machine, or begins the
shutdown. -/
theorem handle_frame (around : Surroundings) (files : FileTree) (name : String)
    (request : Rpc.Request) :
    let after := (node.handle around files name request).fst.node
    after = { node with
      sessions := after.sessions, outbox := after.outbox, supervisor := after.supervisor
      vodLinks := after.vodLinks, codLinks := after.codLinks
      meter := after.meter, shutdown := after.shutdown } := by
  have answered := node.handle_answered around files name request
  generalize (node.handle around files name request).fst = turn,
    (node.handle around files name request).snd = response at answered
  cases answered with
  | unknown unnamed => rfl
  | refused named stopped => rfl
  | failed named passed failed => rfl
  | done named passed performed =>
    cases performed with
    | activated read licensed expires good found left silent =>
      simp only [left]
      rfl
    | closing read begun =>
      simp only
      rw [beginShutdown_frame begun]
    | _ => rfl

end MediaNode.Node
