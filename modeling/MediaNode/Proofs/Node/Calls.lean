import MediaNode.Node.Housekeeping
import MediaNode.Proofs.Worker.Lifecycle

/-!
# Acting on workers by calls

Whatever a node does to its workers, it does by calling its supervisor. What it wants of
the outside besides is aside: messages to verified sessions, responses, jobs and timers.
`Follows` says of one operation of the node that it acted by certain calls and wanted
nothing else than what they want and asides. It is composed along the way in which the
operation is composed, so that a history of a node becomes a history of its supervisor.
-/
namespace MediaNode.Node

open Worker (Operation launchedSerials launchedSerials_append)

variable {node : Node}

/-- What a node wants of the outside besides what its supervisor wants. A message that
nobody asked for goes to a verified session only. -/
inductive Aside (node : Node) : Effect → Prop where
  | told {name : String} {session : Session} (listed : (name, session) ∈ node.sessions)
      (verified : session.verified = true) (message : Rpc.Message) :
      Aside node (.deliver (.session name) message)
  | reply (channel : Channel) (response : Rpc.Response) :
      Aside node (.deliver channel (.response response))
  | removeChunks (directories : List Path) : Aside node (.removeChunks directories)
  | prepare (job : DirectoryJob) : Aside node (.prepare job)
  | upload (job : UploadJob) : Aside node (.upload job)
  | stopWorkersAfter (milliseconds : Nat) : Aside node (.stopWorkersAfter milliseconds)
  | closeAfter (milliseconds : Nat) : Aside node (.closeAfter milliseconds)

/-- An aside of one node is one of every other with the same sessions. -/
theorem Aside.of_sessions {other : Node} (same : other.sessions = node.sessions)
    {effect : Effect} (aside : other.Aside effect) : node.Aside effect := by
  cases aside with
  | told listed verified message => exact .told (same ▸ listed) verified message
  | reply channel response => exact .reply channel response
  | removeChunks directories => exact .removeChunks directories
  | prepare job => exact .prepare job
  | upload job => exact .upload job
  | stopWorkersAfter milliseconds => exact .stopWorkersAfter milliseconds
  | closeAfter milliseconds => exact .closeAfter milliseconds

/-- Asides launch nothing. -/
theorem launchedSerials_of_aside {effects : List Effect}
    (asides : ∀ effect ∈ effects, node.Aside effect) : launchedSerials effects = [] := by
  rw [launchedSerials, List.filterMap_eq_nil_iff]
  intro effect member
  cases asides effect member <;> rfl

/-- Sending into a channel is at most one message into it. -/
theorem eq_of_mem_send {outbox : Outbox} {channel : Channel} {message : Rpc.Message}
    {effect : Effect} (sent : effect ∈ outbox.send channel message) :
    effect = .deliver channel message := by
  unfold Outbox.send at sent
  split at sent
  · exact List.mem_singleton.mp sent
  · cases sent

/-- The channel to a session is its own. -/
theorem eq_of_channelOf {name : String} {channel : Channel}
    (known : node.channelOf name = some channel) : channel = .session name := by
  unfold channelOf at known
  split at known
  · exact (Option.some.inj known).symm
  · cases known

/-- Sending to a session is at most one message to it. -/
theorem eq_of_mem_sendTo {name : String} {message : Rpc.Message} {effect : Effect}
    (sent : effect ∈ node.sendTo name message) : effect = .deliver (.session name) message := by
  unfold sendTo at sent
  split at sent
  next channel known => rw [eq_of_mem_send sent, eq_of_channelOf known]
  next => cases sent

/-- A response to a session is an aside. -/
theorem aside_of_mem_sendTo {sender : Node} {name : String} {response : Rpc.Response}
    {effect : Effect} (sent : effect ∈ sender.sendTo name (.response response)) :
    node.Aside effect := by
  rw [eq_of_mem_sendTo sent]
  exact .reply _ response

/-- A broadcast is at most one notification to each verified session. -/
theorem of_mem_broadcast {method : String} {params : Option Json} {effect : Effect}
    (sent : effect ∈ node.broadcast method params) :
    ∃ name session, (name, session) ∈ node.sessions ∧ session.verified = true ∧
      effect = .deliver (.session name) (.notification (.make method params)) := by
  obtain ⟨⟨name, session⟩, listed, sent⟩ := List.mem_flatMap.mp sent
  by_cases verified : session.verified
  · simp only [verified, if_true] at sent
    exact ⟨name, session, listed, verified, eq_of_mem_sendTo sent⟩
  · simp [verified] at sent

/-- So it goes to verified sessions only. -/
theorem aside_of_mem_broadcast {sender : Node} (same : sender.sessions = node.sessions)
    {method : String} {params : Option Json} {effect : Effect}
    (sent : effect ∈ sender.broadcast method params) : node.Aside effect := by
  refine Aside.of_sessions same ?_
  obtain ⟨name, session, listed, verified, rfl⟩ := of_mem_broadcast sent
  exact .told listed verified _

/-- That an operation of a node acted on its workers by certain calls alone: its supervisor
is the one that the calls lead to, it launched what they launch, and it wanted what they
want and asides. -/
structure Follows (node : Node) (calls : List Operation) (after : Node)
    (effects : List Effect) : Prop where
  settings : after.settings = node.settings
  supervisor : after.supervisor = (node.supervisor.run calls).fst
  launches : launchedSerials effects = launchedSerials (node.supervisor.run calls).snd
  wanted : ∀ effect ∈ effects, effect ∈ (node.supervisor.run calls).snd ∨ node.Aside effect

namespace Follows

variable {after : Node} {effects : List Effect}

/-- What leaves the supervisor alone and wants asides only calls nothing. -/
theorem idle (settings : after.settings = node.settings)
    (supervisor : after.supervisor = node.supervisor)
    (asides : ∀ effect ∈ effects, node.Aside effect) : node.Follows [] after effects :=
  ⟨settings, supervisor, launchedSerials_of_aside asides, fun effect member =>
    .inr (asides effect member)⟩

/-- What wants nothing at all, in particular. -/
theorem still (settings : after.settings = node.settings)
    (supervisor : after.supervisor = node.supervisor) : node.Follows [] after [] :=
  idle settings supervisor (by simp)

/-- Calls that came to nothing are followed by doing nothing. -/
theorem vain {calls : List Operation}
    (nothing : node.supervisor.run calls = (node.supervisor, [])) :
    node.Follows calls node [] :=
  ⟨rfl, by rw [nothing], by rw [nothing], by simp⟩

/-- A single call is followed by taking over what it left. -/
theorem single (settings : after.settings = node.settings) {operation : Operation}
    (left : (after.supervisor, effects) = node.supervisor.step operation) :
    node.Follows [operation] after effects := by
  have whole : node.supervisor.run [operation] = (after.supervisor, effects) := by
    rw [left]
    simp
  exact ⟨settings, by rw [whole], by rw [whole], fun _ member => .inl (whole ▸ member)⟩

/-- Asides may be wanted first. -/
theorem prepend {calls : List Operation} {before : List Effect}
    (follows : node.Follows calls after effects) (asides : ∀ effect ∈ before, node.Aside effect) :
    node.Follows calls after (before ++ effects) where
  settings := follows.settings
  supervisor := follows.supervisor
  launches := by
    rw [launchedSerials_append, launchedSerials_of_aside asides, List.nil_append,
      follows.launches]
  wanted := by
    intro effect member
    rcases List.mem_append.mp member with aside | called
    · exact .inr (asides effect aside)
    · exact follows.wanted effect called

/-- Asides may be wanted last. -/
theorem append {calls : List Operation} {later : List Effect}
    (follows : node.Follows calls after effects) (asides : ∀ effect ∈ later, node.Aside effect) :
    node.Follows calls after (effects ++ later) where
  settings := follows.settings
  supervisor := follows.supervisor
  launches := by
    rw [launchedSerials_append, launchedSerials_of_aside asides, List.append_nil,
      follows.launches]
  wanted := by
    intro effect member
    rcases List.mem_append.mp member with called | aside
    · exact follows.wanted effect called
    · exact .inr (asides effect aside)

/-- Two parts that follow their calls make a whole that follows all of them, provided the
first left the sessions alone. -/
theorem trans {middle : Node} {first second : List Operation} {more : List Effect}
    (before : node.Follows first middle effects) (later : middle.Follows second after more)
    (same : middle.sessions = node.sessions) :
    node.Follows (first ++ second) after (effects ++ more) where
  settings := later.settings.trans before.settings
  supervisor := by rw [later.supervisor, before.supervisor, Worker.Supervisor.run_append]
  launches := by
    rw [Worker.Supervisor.run_append, launchedSerials_append, launchedSerials_append,
      before.launches, later.launches, before.supervisor]
  wanted := by
    intro effect member
    rw [Worker.Supervisor.run_append, List.mem_append]
    rcases List.mem_append.mp member with here | there
    · exact (before.wanted effect here).imp_left .inl
    · rcases later.wanted effect there with called | aside
      · exact .inl (.inr (before.supervisor ▸ called))
      · exact .inr (aside.of_sessions same)

end Follows

/-- What the beginning of a shutdown calls: without a delay the workers are stopped at
once, and a second shutdown does nothing. -/
def shutdownCalls (node : Node) (delay : Nat) : List Operation :=
  if node.shutdown || delay ≠ 0 then [] else [.stopAll node.outbox]

/-- All that the beginning of a shutdown can call for is the end of all workers. -/
theorem eq_stopAll_of_mem_shutdownCalls {delay : Nat} {operation : Operation}
    (called : operation ∈ node.shutdownCalls delay) : operation = .stopAll node.outbox := by
  unfold shutdownCalls at called
  split at called
  · cases called
  · exact List.mem_singleton.mp called

/-- The beginning of a shutdown acts on the workers by its calls and leaves the sessions
alone. -/
theorem beginShutdown_eq_ok {delay : Nat} {after : Node} {effects : List Effect}
    (begun : node.beginShutdown delay = .ok (after, effects)) :
    node.Follows (node.shutdownCalls delay) after effects ∧ after.sessions = node.sessions := by
  unfold beginShutdown at begun
  split at begun
  · cases begun
  next first =>
  split at begun
  next immediate =>
    have called : node.shutdownCalls delay = [.stopAll node.outbox] := by
      simp [shutdownCalls, first, immediate]
    have stopped : node.Follows [.stopAll node.outbox]
        { node with
          shutdown := true
          outbox := (node.supervisor.stopAll node.outbox).fst
          supervisor := (node.supervisor.stopAll node.outbox).snd.fst }
        (node.supervisor.stopAll node.outbox).snd.snd := .single (by rfl) (by rfl)
    have closing : ∀ effect ∈ [Effect.closeAfter (delay + node.cleanupDelay)],
        node.Aside effect := fun effect member => by
      rw [List.mem_singleton.mp member]
      exact .closeAfter _
    cases begun
    rw [called]
    exact ⟨stopped.append closing, rfl⟩
  next later =>
    cases begun
    have called : node.shutdownCalls delay = [] := by simp [shutdownCalls, later]
    rw [called]
    refine ⟨.idle rfl rfl fun effect member => ?_, rfl⟩
    rcases List.mem_cons.mp member with rfl | last
    · exact .stopWorkersAfter delay
    · rw [List.mem_singleton.mp last]
      exact .closeAfter _

/-- A shutdown that cannot begin has begun before, and calls nothing. -/
theorem beginShutdown_eq_error {delay : Nat} {fault : Fault}
    (refused : node.beginShutdown delay = .error fault) : node.shutdownCalls delay = [] := by
  unfold beginShutdown at refused
  split at refused
  next again => simp [shutdownCalls, again]
  next first => split at refused <;> cases refused

end MediaNode.Node
