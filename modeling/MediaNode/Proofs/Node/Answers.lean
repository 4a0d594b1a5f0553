import MediaNode.Proofs.Node.Directories
import MediaNode.Proofs.Node.Table

/-!
# Every request has one answer

A request that a session makes is answered at once, or a single job is left that will answer it;
`Accounted` says which, and `handle_accounted` shows it for every method. Either way the answer
goes under the id of the request to the channel of the session. Nothing else that happens to the
node answers a session or leaves a job, but for the command that ends the work on directories.
-/
namespace MediaNode

deriving instance DecidableEq for DirectoryJob, UploadJob

/-- A job that the node leaves to the outside. -/
inductive Work where
  | directories (job : DirectoryJob)
  | upload (job : UploadJob)
deriving DecidableEq

namespace Work

/-- The id that the job answers under. -/
def id : Work → Rpc.Id
  | directories job => job.id
  | upload job => job.id

/-- The channel that it answers on. -/
def channel : Work → Channel
  | directories job => job.channel
  | upload job => job.channel

/-- What leaves it. -/
def effect : Work → Effect
  | directories job => .prepare job
  | upload job => .upload job

/-- That work on directories names none of them twice. -/
def Distinct : Work → Prop
  | directories job => (job.requested.map Prod.fst).Nodup
  | upload _ => True

end Work

namespace Effect

/-- The job that an effect leaves. -/
def work? : Effect → Option Work
  | .prepare job => some (.directories job)
  | .upload job => some (.upload job)
  | _ => none

/-- The response that a session gets by an effect. -/
def response? : Effect → Option (String × Rpc.Response)
  | .deliver (.session name) (.response response) => some (name, response)
  | _ => none

/-- What is about a worker answers no session and leaves no job. -/
theorem quiet_of_worker {effect : Effect} {serial : Nat} (about : effect.worker? = some serial) :
    effect.response? = none ∧ effect.work? = none := by
  cases effect with
  | deliver channel message =>
    cases channel with
    | session name => cases about
    | worker id serial => exact ⟨rfl, rfl⟩
  | prepare job => cases about
  | upload job => cases about
  | _ => exact ⟨rfl, rfl⟩

end Effect

/-- The jobs that are left by some effects. -/
def workOf (effects : List Effect) : List Work := effects.filterMap Effect.work?

/-- The responses that sessions get by some effects. -/
def responsesOf (effects : List Effect) : List (String × Rpc.Response) :=
  effects.filterMap Effect.response?

/-- Jobs are left part by part. -/
theorem workOf_append (before later : List Effect) :
    workOf (before ++ later) = workOf before ++ workOf later :=
  List.filterMap_append

/-- A job is what its effect leaves. -/
theorem workOf_effect (work : Work) : workOf [work.effect] = [work] := by cases work <;> rfl

/-- Responses come part by part. -/
theorem responsesOf_append (before later : List Effect) :
    responsesOf (before ++ later) = responsesOf before ++ responsesOf later :=
  List.filterMap_append

/-- That some effects answer no session and leave no job. -/
structure Quiet (effects : List Effect) : Prop where
  responses : responsesOf effects = []
  work : workOf effects = []

namespace Quiet

/-- No effects are quiet. -/
theorem nil : Quiet [] := ⟨rfl, rfl⟩

/-- Effects are quiet when each of them is. -/
theorem of_forall {effects : List Effect}
    (quiet : ∀ effect ∈ effects, effect.response? = none ∧ effect.work? = none) : Quiet effects :=
  ⟨List.filterMap_eq_nil_iff.mpr fun effect member => (quiet effect member).1,
    List.filterMap_eq_nil_iff.mpr fun effect member => (quiet effect member).2⟩

/-- Whatever an operation of the supervisor wants is quiet. -/
theorem of_step {supervisor : Worker.Supervisor} {trace : List Effect}
    (life : Worker.Lifecycle supervisor trace) (operation : Worker.Operation) :
    Quiet (supervisor.step operation).snd := by
  refine of_forall fun effect member => ?_
  have outcome := Worker.Supervisor.step_outcome life.distinct operation
  obtain ⟨serial, about⟩ := (life.step_about outcome).1 effect member
  exact Effect.quiet_of_worker about

end Quiet

/-- That a moment brings a request, or the end of work on directories. -/
def Event.Calling : Event → Prop
  | .heard _ (.request request) => request.id.isNone = false
  | .commanded (.preparedDirectories _ _ _) => True
  | _ => False

/-- At any other moment no session is answered and no job is left. -/
theorem Node.Sent.quiet {node : Node} {moment : Moment} {effect : Effect}
    (sent : node.Sent moment effect) (idle : ¬ moment.event.Calling) :
    effect.response? = none ∧ effect.work? = none := by
  cases sent with
  | worker about => exact Effect.quiet_of_worker about
  | noted name notification => exact ⟨rfl, rfl⟩
  | asked name question due => exact ⟨rfl, rfl⟩
  | answered heard identified answer =>
    rw [heard] at idle
    exact absurd identified idle
  | deferred heard identified unanswered job =>
    rw [heard] at idle
    exact absurd identified idle
  | prepared commanded =>
    rw [commanded] at idle
    exact absurd trivial idle
  | removeChunks directories => exact ⟨rfl, rfl⟩
  | stopWorkersAfter milliseconds => exact ⟨rfl, rfl⟩
  | closeAfter milliseconds => exact ⟨rfl, rfl⟩

/-- So what is sent then is quiet. -/
theorem Node.quiet_step {node : Node} {trace : List Effect}
    (life : Worker.Lifecycle node.supervisor trace) {moment : Moment}
    (idle : ¬ moment.event.Calling) : Quiet (node.step moment).effects :=
  .of_forall fun _ wanted => (Node.sent_step life moment wanted).quiet idle

/-- The beginning of a shutdown is quiet. -/
theorem Node.quiet_beginShutdown {node after : Node} {trace effects : List Effect}
    (life : Worker.Lifecycle node.supervisor trace) {delay : Nat}
    (begun : node.beginShutdown delay = .ok (after, effects)) : Quiet effects := by
  refine .of_forall fun effect wanted => ?_
  have sent : node.Sent ⟨default, .empty, .due .license⟩ effect :=
    Node.sent_of_beginShutdown life begun wanted
  exact sent.quiet not_false

/-- How a request is accounted for: by the response that it gets at once, or by the one job that
it leaves. -/
inductive Accounted (node : Node) (name : String) (id : Rpc.Id) :
    List Effect → Option Rpc.Response → Prop where
  | now {effects : List Effect} {response : Rpc.Response} (own : response.id = id)
      (quiet : Quiet effects) : Accounted node name id effects (some response)
  | later {work : Work} (own : work.id = id) (back : work.channel = .session name)
      (known : node.senders.contains name = true) (distinct : work.Distinct) :
      Accounted node name id [work.effect] none

/-- Whether a method leaves its answer to a job. -/
def Method.leavesJob : Method → Bool
  | .prepareService | .getLogService | .getLogStream | .getPipelineStream => true
  | _ => false

/-- Handling a request answers nobody by itself. -/
theorem Accounted.responses {node : Node} {name : String} {id : Rpc.Id} {effects : List Effect}
    {response : Option Rpc.Response} (accounted : Accounted node name id effects response) :
    responsesOf effects = [] := by
  cases accounted with
  | now own quiet => exact quiet.responses
  | @later work own back known distinct => cases work <;> rfl

namespace Request

variable {around : Surroundings} {node : Node} {files : FileTree} {name : String}
  {id : Rpc.Id} {given : Option Json} {handled : Handled} {turn : Turn} {result : Option Json}
  {trace : List Effect}

/-- A job answers on the channel of a session that can be sent to. -/
theorem jobChannel_eq_ok {fault : Fault} {channel : Channel}
    (found : jobChannel node name fault = .ok channel) :
    channel = .session name ∧ node.senders.contains name = true := by
  unfold jobChannel at found
  split at found
  · next known =>
    obtain rfl := Except.ok.inj found
    refine ⟨Node.eq_of_channelOf known, ?_⟩
    unfold Node.channelOf at known
    split at known
    · next listed => exact listed
    · cases known
  · cases found

/-- Sending a file leaves one job that answers the request. -/
theorem accounted_upload {file : Path} {path : String}
    (sent : upload node name id file path = .ok handled) :
    Accounted node name id handled.effects (handled.result.map (.success id)) := by
  simp only [upload, bind_eq_ok_iff] at sent
  obtain ⟨target, -, channel, found, built⟩ := sent
  cases built
  obtain ⟨back, known⟩ := jobChannel_eq_ok found
  exact @Accounted.later node name id (.upload ⟨file, target, channel, id⟩) rfl back known trivial

/-- So does the work on directories. -/
theorem accounted_prepareService (prepared : prepareService node name id given = .ok handled) :
    Accounted node name id handled.effects (handled.result.map (.success id)) := by
  unfold prepareService at prepared
  split at prepared
  · cases prepared
  · next members _ =>
    obtain ⟨channel, found, built⟩ := bind_eq_ok_iff.mp prepared
    cases built
    obtain ⟨back, known⟩ := jobChannel_eq_ok found
    exact @Accounted.later node name id
      (.directories ⟨Directories.requested members, channel, id⟩) rfl back known
      (Directories.requested_distinct members)

/-- A request for the file of a stream sends it. -/
theorem accounted_getStreamFile {fileName : String}
    (sent : getStreamFile node name id given fileName = .ok handled) :
    Accounted node name id handled.effects (handled.result.map (.success id)) := by
  obtain ⟨⟨directory, path⟩, -, rest⟩ := bind_eq_ok_iff.mp sent
  exact accounted_upload rest

/-- A method that leaves no job has its result when it succeeds, and what it does besides is
quiet. -/
theorem quiet_perform (life : Worker.Lifecycle node.supervisor trace) {method : Method}
    (now : method.leavesJob = false)
    (performed : perform around node files name id method given = (turn, .ok result)) :
    Quiet turn.effects ∧ ∃ answer, result = some answer := by
  cases method with
  | activate =>
    obtain ⟨handled, done, rfl, rfl⟩ := conclude_eq_ok performed
    obtain ⟨license, word, expiration, session, -, -, -, -, -, rfl⟩ :=
      activate_eq_ok_iff.mp done
    exact ⟨.nil, _, rfl⟩
  | stopService =>
    obtain ⟨handled, done, rfl, rfl⟩ := conclude_eq_ok performed
    obtain ⟨duration, after, effects, -, begun, rfl⟩ := stopService_eq_ok done
    exact ⟨Node.quiet_beginShutdown life begun, _, rfl⟩
  | pingService =>
    cases performed
    exact ⟨.nil, _, rfl⟩
  | syncService =>
    obtain ⟨handled, done, rfl, rfl⟩ := conclude_eq_ok performed
    obtain ⟨vodLinks, codLinks, rfl⟩ := syncService_eq_ok done
    exact ⟨.nil, _, rfl⟩
  | startStream =>
    obtain ⟨rfl, spec, made, after, effects, -, created, rfl⟩ := startStream_eq_ok performed
    have called := Quiet.of_step life (.create around files spec)
    simp only [Worker.Supervisor.step, created] at called
    exact ⟨called, _, rfl⟩
  | stopStream =>
    obtain ⟨handled, done, rfl, rfl⟩ := conclude_eq_ok performed
    obtain ⟨stream, outbox, supervisor, effects, -, stopped, rfl⟩ := stopStream_eq_ok done
    have called := Quiet.of_step life (.stop node.outbox stream)
    simp only [Worker.Supervisor.step, stopped] at called
    exact ⟨called, _, rfl⟩
  | restartStream =>
    obtain ⟨handled, done, rfl, rfl⟩ := conclude_eq_ok performed
    obtain ⟨stream, outbox, supervisor, effects, -, restarted, rfl⟩ := restartStream_eq_ok done
    have called := Quiet.of_step life (.restart node.outbox stream)
    simp only [Worker.Supervisor.step, restarted] at called
    exact ⟨called, _, rfl⟩
  | prepareService | getLogService | getLogStream | getPipelineStream => cases now

/-- Whatever method succeeds, it has a result, or leaves one job that answers the request. -/
theorem perform_accounted (life : Worker.Lifecycle node.supervisor trace) {method : Method}
    (performed : perform around node files name id method given = (turn, .ok result)) :
    Accounted node name id turn.effects (result.map (.success id)) := by
  cases job : method.leavesJob with
  | false =>
    obtain ⟨quiet, answer, answered⟩ := quiet_perform life job performed
    rw [answered]
    exact .now rfl quiet
  | true =>
    cases method with
    | prepareService =>
      obtain ⟨handled, done, rfl, rfl⟩ := conclude_eq_ok performed
      exact accounted_prepareService done
    | getLogService =>
      obtain ⟨handled, done, rfl, rfl⟩ := conclude_eq_ok performed
      obtain ⟨path, -, rest⟩ := bind_eq_ok_iff.mp done
      split at rest
      · cases rest
      · exact accounted_upload rest
    | getLogStream | getPipelineStream =>
      obtain ⟨handled, done, rfl, rfl⟩ := conclude_eq_ok performed
      exact accounted_getStreamFile done
    | _ => cases job

/-- The work on directories that a request leaves is on those that the request names. -/
theorem prepare_of_perform (life : Worker.Lifecycle node.supervisor trace) {method : Method}
    (performed : perform around node files name id method given = (turn, .ok result))
    {job : DirectoryJob} (left : .prepare job ∈ turn.effects) :
    method = .prepareService ∧ ∃ members, given.bind Json.asObj = some members ∧
      job.requested = Directories.requested members := by
  cases deferred : method.leavesJob with
  | false =>
    obtain ⟨quiet, -⟩ := quiet_perform life deferred performed
    have listed : Work.directories job ∈ workOf turn.effects :=
      List.mem_filterMap.mpr ⟨_, left, rfl⟩
    rw [quiet.work] at listed
    cases listed
  | true =>
    cases method with
    | prepareService =>
      obtain ⟨handled, prepared, rfl, rfl⟩ := conclude_eq_ok performed
      unfold prepareService at prepared
      split at prepared
      · cases prepared
      · next members named =>
        obtain ⟨channel, -, built⟩ := bind_eq_ok_iff.mp prepared
        cases built
        cases List.mem_singleton.mp left
        exact ⟨rfl, members, named, rfl⟩
    | getLogService =>
      obtain ⟨handled, done, rfl, rfl⟩ := conclude_eq_ok performed
      obtain ⟨work, rfl⟩ := getLogService_eq_ok done
      cases List.mem_singleton.mp left
    | getLogStream | getPipelineStream =>
      obtain ⟨handled, done, rfl, rfl⟩ := conclude_eq_ok performed
      obtain ⟨work, rfl⟩ := getStreamFile_eq_ok done
      cases List.mem_singleton.mp left
    | _ => cases deferred

end Request

namespace Node

variable {node : Node} {trace : List Effect}

/-- So every request is accounted for, whether it succeeds or not. -/
theorem handle_accounted (life : Worker.Lifecycle node.supervisor trace) (around : Surroundings)
    (files : FileTree) (name : String) (request : Rpc.Request) :
    Accounted node name (answerId request) (node.handle around files name request).fst.effects
      (node.handle around files name request).snd := by
  unfold handle Request.dispatch
  cases Method.ofName? request.method with
  | none => exact .now rfl .nil
  | some method =>
    simp only
    cases method.guard.check (node.session? name) with
    | error fault => exact .now rfl .nil
    | ok =>
      simp only
      rcases performed : Request.perform around node files name (answerId request) method
        request.params with ⟨turn, outcome⟩
      cases outcome with
      | error fault =>
        obtain ⟨made, rfl⟩ := Request.perform_eq_error performed
        exact .now rfl .nil
      | ok result => exact Request.perform_accounted life performed

/-- Handling a request leaves who can be sent to, and who listens. -/
theorem handle_reaches (node : Node) (around : Surroundings) (files : FileTree) (name : String)
    {request : Rpc.Request} (identified : request.id.isNone = false) (other : String) :
    (node.handle around files name request).fst.node.senders = node.senders ∧
      (node.handle around files name request).fst.node.outbox.isOpen (.session other) =
        node.outbox.isOpen (.session other) := by
  obtain ⟨same, -⟩ := node.receive_request around files name identified
  have advances := node.receive_advances around files name (.request request)
  have senders := node.senders_receive around files name (.request request)
  rw [same] at advances senders
  exact ⟨senders, by simp only [Outbox.isOpen, advances.closed]⟩

/-- What a session gets when a response is sent to it: the response, if somebody listens. -/
def delivered (node : Node) (name : String) (response : Rpc.Response) :
    List (String × Rpc.Response) :=
  if node.outbox.isOpen (.session name) then [(name, response)] else []

/-- A response that is sent into the channel of a session is what the session gets. -/
theorem responsesOf_send (name : String) (response : Rpc.Response) :
    responsesOf (node.outbox.send (.session name) (.response response)) =
      node.delivered name response := by
  unfold Outbox.send delivered
  split <;> rfl

/-- Sending to a session goes into its channel, if it can be sent to. -/
theorem sendTo_eq (name : String) (message : Rpc.Message) :
    node.sendTo name message =
      if node.senders.contains name then node.outbox.send (.session name) message else [] := by
  unfold sendTo channelOf
  split <;> split <;> simp_all

/-- Sending leaves no job. -/
theorem workOf_send (outbox : Outbox) (channel : Channel) (message : Rpc.Message) :
    workOf (outbox.send channel message) = [] := by
  unfold Outbox.send
  split <;> rfl

/-- Neither does sending to a session. -/
theorem workOf_sendTo (name : String) (message : Rpc.Message) :
    workOf (node.sendTo name message) = [] := by
  rw [sendTo_eq]
  split
  · exact workOf_send ..
  · rfl

section request

variable (life : Worker.Lifecycle node.supervisor trace) (around : Surroundings) (files : FileTree)
  (name : String) {request : Rpc.Request} (identified : request.id.isNone = false)
include identified

/-- Taking a request leaves the jobs that handling it leaves. -/
theorem workOf_request :
    workOf (node.receive around files name (.request request)).effects =
      workOf (node.handle around files name request).fst.effects := by
  simp only [receive, identified, Bool.false_eq_true, if_false]
  split
  · rw [workOf_append, workOf_sendTo, List.append_nil]
  · rfl

include life

/-- A session that can be sent to gets the response, if there is one now. -/
theorem responsesOf_request :
    responsesOf (node.receive around files name (.request request)).effects =
      if node.senders.contains name then
        (node.handle around files name request).snd.toList.flatMap (node.delivered name)
      else [] := by
  obtain ⟨senders, listening⟩ := node.handle_reaches around files name identified name
  have silent := (node.handle_accounted life around files name request).responses
  simp only [receive, identified, Bool.false_eq_true, if_false]
  cases (node.handle around files name request).snd with
  | none =>
    rw [silent]
    split <;> rfl
  | some response =>
    have sent : responsesOf ((node.handle around files name request).fst.node.sendTo name
        (.response response)) = if node.senders.contains name then node.delivered name response
          else [] := by
      rw [sendTo_eq, senders, apply_ite responsesOf, responsesOf_send, delivered, listening]
      rfl
    rw [responsesOf_append, silent, sent, List.nil_append, Option.toList_some,
      List.flatMap_singleton]

end request

end Node
end MediaNode
