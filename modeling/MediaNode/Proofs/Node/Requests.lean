import MediaNode.Proofs.Node.Calls
import MediaNode.Proofs.Outcome

/-!
# What requests leave

A request acts on the workers of a node only by calls of its supervisor. `Method.calls`
reads these calls off the parameters, and `Performed` says once what a request that
succeeded left: a verified session, a shutdown begun, links, a job, or the outcome of
its one call. Everything about whole histories is derived from these cases. A request
that failed leaves the node as it was, so that its calls, if it came to any, must have
failed too.
-/
namespace MediaNode

open Worker (Operation)

/-- The delay of a request to stop the service. -/
def Request.delay : Option Json → Except Fault Nat
  | none | some .null => pure 0
  | some value => params stopping (some value)

/-- A method is found under its own name. -/
theorem Method.name_of_ofName? {word : String} {method : Method}
    (named : Method.ofName? word = some method) : method.name = word := by
  simpa using List.find?_some named

/-- What a method calls once its guard has let it pass. -/
def Method.calls (around : Surroundings) (node : Node) (files : FileTree) (given : Option Json) :
    Method → List Operation
  | .stopService => (Request.delay given).toOption.toList.flatMap node.shutdownCalls
  | .startStream => (Request.spec given).toOption.toList.map (.create around files)
  | .stopStream =>
    (Request.params Request.streamId given).toOption.toList.map (.stop node.outbox)
  | .restartStream =>
    (Request.params Request.streamId given).toOption.toList.map (.restart node.outbox)
  | _ => []

/-- What a request of a session that succeeded left. -/
inductive Performed (around : Surroundings) (node : Node) (files : FileTree) (name : String)
    (given : Option Json) : Method → Handled → Prop where
  | activated {license : String} {word : Option String} {expiration : Int} {session : Session}
      (read : Request.params Request.activation given = .ok (license, word))
      (licensed : node.settings.licenseKey = some license)
      (expires : License.expireTime license = some expiration)
      (good : around.now < expiration) (found : node.session? name = some session)
      {handled : Handled}
      (left : handled.node = ((node.setSession name
        (session.activate expiration (.ofRequest word))).introduction around expiration).fst)
      (silent : handled.effects = []) :
      Performed around node files name given .activate handled
  | closing {delay : Nat} {after : Node} {effects : List Effect}
      (read : Request.delay given = .ok delay)
      (begun : node.beginShutdown delay = .ok (after, effects)) :
      Performed around node files name given .stopService { node := after, effects }
  | linked (vodLinks codLinks : LinkIndex) :
      Performed around node files name given .syncService
        { node := { node with vodLinks, codLinks } }
  | told (result : Json) :
      Performed around node files name given .pingService { node, result := some result }
  | deferred {method : Method} {effect : Effect}
      (job : (∃ work, effect = .prepare work) ∨ ∃ work, effect = .upload work)
      (idle : method.calls around node files given = []) :
      Performed around node files name given method
        { node, effects := [effect], result := none }
  | supervised {method : Method} {operation : Operation}
      (called : method.calls around node files given = [operation]) (outbox : Outbox) :
      Performed around node files name given method
        { node := node.withWorkers outbox (node.supervisor.step operation).fst
          effects := (node.supervisor.step operation).snd }

/-- How a request is answered: it is refused before anything is done, it fails, or it is
performed and the answer may be left to a job. -/
inductive Answered (around : Surroundings) (node : Node) (files : FileTree) (name : String)
    (request : Rpc.Request) : Turn → Option Rpc.Response → Prop where
  | unknown (unnamed : Method.ofName? request.method = none) :
      Answered around node files name request { node, files }
        (some (.failure (Node.answerId request)
          (Fault.methodNotFound request.method).toErrorObject))
  | refused {method : Method} {fault : Fault} (named : Method.ofName? request.method = some method)
      (stopped : method.guard.check (node.session? name) = .error fault) :
      Answered around node files name request { node, files }
        (some (.failure (Node.answerId request) fault.toErrorObject))
  | failed {method : Method} {made : FileTree} {fault : Fault}
      (named : Method.ofName? request.method = some method)
      (passed : method.guard.check (node.session? name) = .ok ())
      (failed : Request.perform around node files name (Node.answerId request) method
        request.params = ({ node, files := made }, .error fault)) :
      Answered around node files name request { node, files := made }
        (some (.failure (Node.answerId request) fault.toErrorObject))
  | done {method : Method} {made : FileTree} {handled : Handled}
      (named : Method.ofName? request.method = some method)
      (passed : method.guard.check (node.session? name) = .ok ())
      (performed : Performed around node files name request.params method handled) :
      Answered around node files name request
        { node := handled.node, files := made, effects := handled.effects }
        (handled.result.map (.success (Node.answerId request)))

namespace Request

variable {around : Surroundings} {node : Node} {files : FileTree} {name : String}
  {id : Rpc.Id} {given : Option Json} {handled : Handled} {turn : Turn} {result : Option Json}

/-- A handler that succeeds leaves what it has made. -/
theorem conclude_eq_ok {outcome : Except Fault Handled}
    (concluded : conclude node files outcome = (turn, .ok result)) :
    ∃ handled, outcome = .ok handled ∧ result = handled.result ∧
      turn = { node := handled.node, files, effects := handled.effects } := by
  cases outcome with
  | error fault => cases concluded
  | ok handled =>
    cases concluded
    exact ⟨handled, rfl, rfl, rfl⟩

/-- One that fails leaves everything as it was. -/
theorem conclude_eq_error {outcome : Except Fault Handled} {fault : Fault}
    (concluded : conclude node files outcome = (turn, .error fault)) :
    outcome = .error fault ∧ turn = { node, files } := by
  cases outcome with
  | error other =>
    cases concluded
    exact ⟨rfl, rfl⟩
  | ok handled => cases concluded

/-- Activation succeeds exactly with the license of the node, before it expires, and for a
session that is still there. Then that session is verified. -/
theorem activate_eq_ok_iff :
    activate around node name given = .ok handled ↔
      ∃ license word expiration session, params activation given = .ok (license, word) ∧
        node.settings.licenseKey = some license ∧ License.expireTime license = some expiration ∧
        around.now < expiration ∧ node.session? name = some session ∧
        handled =
          let introduced := (node.setSession name
            (session.activate expiration (.ofRequest word))).introduction around expiration
          { node := introduced.fst, result := some introduced.snd } := by
  unfold activate
  simp only [bind_eq_ok_iff, check_eq_ok_iff, ne_eq, Decidable.not_not]
  constructor
  · rintro ⟨⟨license, word⟩, read, licensed, rest⟩
    cases expires : License.expireTime license with
    | none => simp [expires] at rest
    | some expiration =>
      simp only [expires, check_eq_ok_iff, Int.not_le] at rest
      obtain ⟨good, rest⟩ := rest
      cases found : node.session? name with
      | none => simp [found] at rest
      | some session =>
        simp only [found, pure, Except.pure, Except.ok.injEq] at rest
        exact ⟨license, word, expiration, session, read, licensed, expires, good, rfl, rest.symm⟩
  · rintro ⟨license, word, expiration, session, read, licensed, expires, good, found, rfl⟩
    refine ⟨(license, word), read, licensed, ?_⟩
    simp only [expires, check_eq_ok_iff, Int.not_le]
    exact ⟨good, by simp [found, pure, Except.pure]⟩

/-- Stopping the service reads a delay, and begins a shutdown after it. -/
theorem stopService_eq :
    stopService node given = (do
      let duration ← delay given
      let begun ← node.beginShutdown duration
      return { node := begun.fst, effects := begun.snd }) := by
  unfold stopService delay
  split <;> simp

/-- When it succeeds, the shutdown has begun. -/
theorem stopService_eq_ok (stopped : stopService node given = .ok handled) :
    ∃ duration after effects, delay given = .ok duration ∧
      node.beginShutdown duration = .ok (after, effects) ∧
      handled = { node := after, effects } := by
  rw [stopService_eq] at stopped
  obtain ⟨duration, read, rest⟩ := bind_eq_ok_iff.mp stopped
  obtain ⟨⟨after, effects⟩, begun, built⟩ := bind_eq_ok_iff.mp rest
  cases built
  exact ⟨duration, after, effects, read, begun, rfl⟩

/-- A file is sent in a job; the node stays as it was. -/
theorem upload_eq_ok {file : Path} {path : String}
    (sent : upload node name id file path = .ok handled) :
    ∃ work, handled = { node, effects := [.upload work], result := none } := by
  simp only [upload, bind_eq_ok_iff] at sent
  obtain ⟨target, -, channel, -, built⟩ := sent
  cases built
  exact ⟨_, rfl⟩

/-- Directories are prepared in a job; the node stays as it was. -/
theorem prepareService_eq_ok (prepared : prepareService node name id given = .ok handled) :
    ∃ work, handled = { node, effects := [.prepare work], result := none } := by
  unfold prepareService at prepared
  split at prepared
  · cases prepared
  · obtain ⟨channel, -, built⟩ := bind_eq_ok_iff.mp prepared
    cases built
    exact ⟨_, rfl⟩

/-- The log of the node is sent in a job. -/
theorem getLogService_eq_ok (sent : getLogService node name id given = .ok handled) :
    ∃ work, handled = { node, effects := [.upload work], result := none } := by
  obtain ⟨path, -, rest⟩ := bind_eq_ok_iff.mp sent
  split at rest
  · cases rest
  · exact upload_eq_ok rest

/-- The file of a stream is sent in a job. -/
theorem getStreamFile_eq_ok {fileName : String}
    (sent : getStreamFile node name id given fileName = .ok handled) :
    ∃ work, handled = { node, effects := [.upload work], result := none } := by
  obtain ⟨⟨directory, path⟩, -, rest⟩ := bind_eq_ok_iff.mp sent
  exact upload_eq_ok rest

/-- Synchronisation extends the links of the node. -/
theorem syncService_eq_ok (synced : syncService node given = .ok handled) :
    ∃ vodLinks codLinks, handled = { node := { node with vodLinks, codLinks } } := by
  obtain ⟨values, -, built⟩ := bind_eq_ok_iff.mp synced
  cases built
  exact ⟨_, _, rfl⟩

/-- Starting a stream is one call of the supervisor, which succeeds if the start does. -/
theorem startStream_eq_ok
    (started : startStream around node files given = (turn, .ok result)) :
    result = some (.obj []) ∧ ∃ spec made after effects, Request.spec given = .ok spec ∧
      node.supervisor.create around files spec = (made, ⟨after, effects, .ok ()⟩) ∧
      turn = { node := { node with supervisor := after }, files := made, effects } := by
  unfold startStream at started
  cases read : spec given with
  | error fault => simp [read] at started
  | ok spec =>
    rcases created : node.supervisor.create around files spec with ⟨made, after, effects, outcome⟩
    cases outcome with
    | error fault => simp [read, created, Except.map] at started
    | ok =>
      simp only [read, created, Except.map, Prod.mk.injEq, Except.ok.injEq] at started
      obtain ⟨rfl, rfl⟩ := started
      exact ⟨rfl, spec, made, after, effects, rfl, created, rfl⟩

/-- When it fails, everything is as it was, but for directories that were made. -/
theorem startStream_eq_error {fault : Fault}
    (failed : startStream around node files given = (turn, .error fault)) :
    ∃ made, turn = { node, files := made } := by
  unfold startStream at failed
  cases read : spec given with
  | error cause =>
    simp only [read, Prod.mk.injEq] at failed
    exact ⟨files, failed.1.symm⟩
  | ok spec =>
    rcases created : node.supervisor.create around files spec with ⟨made, after, effects, outcome⟩
    cases outcome with
    | ok => simp [read, created, Except.map] at failed
    | error cause =>
      obtain ⟨rfl, rfl, -⟩ := Worker.Supervisor.create_eq_error created
      simp only [read, created, Prod.mk.injEq] at failed
      exact ⟨made, failed.1.symm⟩

/-- So a request that starts a stream is performed by its call. -/
theorem performed_startStream
    (started : startStream around node files given = (turn, .ok result)) :
    Performed around node files name given .startStream
      { node := turn.node, effects := turn.effects, result } := by
  obtain ⟨rfl, spec, made, after, effects, read, created, rfl⟩ := startStream_eq_ok started
  have called : Method.startStream.calls around node files given =
      [.create around files spec] := by
    simp [Method.calls, read, Except.toOption]
  have performed : Performed around node files name given .startStream _ :=
    .supervised called node.outbox
  simpa [Worker.Supervisor.step, created, Node.withWorkers] using performed

/-- Stopping a stream is one call of the supervisor. -/
theorem stopStream_eq_ok (stopped : stopStream node given = .ok handled) :
    ∃ id outbox supervisor effects, params streamId given = .ok id ∧
      node.supervisor.stop node.outbox id = .ok (outbox, supervisor, effects) ∧
      handled = { node := node.withWorkers outbox supervisor, effects } := by
  obtain ⟨id, read, rest⟩ := bind_eq_ok_iff.mp stopped
  obtain ⟨⟨outbox, supervisor, effects⟩, ended, built⟩ := bind_eq_ok_iff.mp rest
  cases built
  exact ⟨id, outbox, supervisor, effects, read, ended, rfl⟩

/-- Restarting a stream is one as well. -/
theorem restartStream_eq_ok (restarted : restartStream node given = .ok handled) :
    ∃ id outbox supervisor effects, params streamId given = .ok id ∧
      node.supervisor.restart node.outbox id = .ok (outbox, supervisor, effects) ∧
      handled = { node := node.withWorkers outbox supervisor, effects } := by
  obtain ⟨id, read, rest⟩ := bind_eq_ok_iff.mp restarted
  obtain ⟨⟨outbox, supervisor, effects⟩, ended, built⟩ := bind_eq_ok_iff.mp rest
  cases built
  exact ⟨id, outbox, supervisor, effects, read, ended, rfl⟩

/-- So a request that stops a stream is performed by its call, -/
theorem performed_stopStream (stopped : stopStream node given = .ok handled) :
    Performed around node files name given .stopStream handled := by
  obtain ⟨id, outbox, supervisor, effects, read, ended, rfl⟩ := stopStream_eq_ok stopped
  have called : Method.stopStream.calls around node files given = [.stop node.outbox id] := by
    simp [Method.calls, read, Except.toOption]
  have performed : Performed around node files name given .stopStream _ :=
    .supervised called outbox
  simpa [Worker.Supervisor.step, ended] using performed

/-- and one that restarts a stream. -/
theorem performed_restartStream (restarted : restartStream node given = .ok handled) :
    Performed around node files name given .restartStream handled := by
  obtain ⟨id, outbox, supervisor, effects, read, ended, rfl⟩ := restartStream_eq_ok restarted
  have called : Method.restartStream.calls around node files given =
      [.restart node.outbox id] := by
    simp [Method.calls, read, Except.toOption]
  have performed : Performed around node files name given .restartStream _ :=
    .supervised called outbox
  simpa [Worker.Supervisor.step, ended] using performed

/-- Whatever method succeeded, it left what its case says. -/
theorem perform_eq_ok {method : Method}
    (performed : perform around node files name id method given = (turn, .ok result)) :
    Performed around node files name given method
      { node := turn.node, effects := turn.effects, result } := by
  cases method with
  | activate =>
    obtain ⟨handled, done, rfl, rfl⟩ := conclude_eq_ok performed
    obtain ⟨license, word, expiration, session, read, licensed, expires, good, found, rfl⟩ :=
      activate_eq_ok_iff.mp done
    exact .activated read licensed expires good found rfl rfl
  | stopService =>
    obtain ⟨handled, done, rfl, rfl⟩ := conclude_eq_ok performed
    obtain ⟨duration, after, effects, read, begun, rfl⟩ := stopService_eq_ok done
    exact .closing read begun
  | pingService =>
    cases performed
    exact .told _
  | prepareService =>
    obtain ⟨handled, done, rfl, rfl⟩ := conclude_eq_ok performed
    obtain ⟨work, rfl⟩ := prepareService_eq_ok done
    exact .deferred (.inl ⟨work, rfl⟩) rfl
  | syncService =>
    obtain ⟨handled, done, rfl, rfl⟩ := conclude_eq_ok performed
    obtain ⟨vodLinks, codLinks, rfl⟩ := syncService_eq_ok done
    exact .linked vodLinks codLinks
  | getLogService =>
    obtain ⟨handled, done, rfl, rfl⟩ := conclude_eq_ok performed
    obtain ⟨work, rfl⟩ := getLogService_eq_ok done
    exact .deferred (.inr ⟨work, rfl⟩) rfl
  | startStream => exact performed_startStream performed
  | stopStream =>
    obtain ⟨handled, done, rfl, rfl⟩ := conclude_eq_ok performed
    exact performed_stopStream done
  | restartStream =>
    obtain ⟨handled, done, rfl, rfl⟩ := conclude_eq_ok performed
    exact performed_restartStream done
  | getLogStream | getPipelineStream =>
    obtain ⟨handled, done, rfl, rfl⟩ := conclude_eq_ok performed
    obtain ⟨work, rfl⟩ := getStreamFile_eq_ok done
    exact .deferred (.inr ⟨work, rfl⟩) rfl

/-- Whatever method failed, it left everything as it was, but for directories that were made. -/
theorem perform_eq_error {method : Method} {fault : Fault}
    (failed : perform around node files name id method given = (turn, .error fault)) :
    ∃ made, turn = { node, files := made } := by
  cases method with
  | startStream => exact startStream_eq_error failed
  | pingService => cases failed
  | _ => exact ⟨files, (conclude_eq_error failed).2⟩

end Request

/-- Every request is answered in one of these ways. -/
theorem Node.handle_answered (node : Node) (around : Surroundings) (files : FileTree)
    (name : String) (request : Rpc.Request) :
    Answered around node files name request (node.handle around files name request).fst
      (node.handle around files name request).snd := by
  unfold handle Request.dispatch
  cases named : Method.ofName? request.method with
  | none => exact .unknown named
  | some method =>
    simp only
    cases passed : method.guard.check (node.session? name) with
    | error fault => exact .refused named passed
    | ok =>
      simp only
      rcases performed : Request.perform around node files name (answerId request) method
        request.params with ⟨turn, outcome⟩
      cases outcome with
      | error fault =>
        obtain ⟨made, rfl⟩ := Request.perform_eq_error performed
        exact .failed named passed performed
      | ok result => exact .done named passed (Request.perform_eq_ok performed)

/-- A request of a session leaves what handling it leaves, whether it is answered or not. -/
theorem Node.receive_request (node : Node) (around : Surroundings) (files : FileTree)
    (name : String) {request : Rpc.Request} (identified : request.id.isNone = false) :
    (node.receive around files name (.request request)).node =
        (node.handle around files name request).fst.node ∧
      (node.receive around files name (.request request)).files =
        (node.handle around files name request).fst.files := by
  simp only [receive, identified, Bool.false_eq_true, if_false]
  split <;> exact ⟨rfl, rfl⟩

section performed

variable {around : Surroundings} {node : Node} {files : FileTree} {name : String}
  {id : Rpc.Id} {given : Option Json} {method : Method} {handled : Handled} {turn : Turn}

/-- A request that succeeded acted on the workers by its calls. -/
theorem Performed.follows (performed : Performed around node files name given method handled) :
    node.Follows (method.calls around node files given) handled.node handled.effects := by
  cases performed with
  | activated read licensed expires good found left silent =>
    rw [left, silent]
    exact .still rfl rfl
  | closing read begun =>
    simpa [Method.calls, read, Except.toOption] using (Node.beginShutdown_eq_ok begun).1
  | linked vodLinks codLinks => exact .still rfl rfl
  | told result => exact .still rfl rfl
  | deferred job idle =>
    rw [idle]
    refine .idle rfl rfl fun effect member => ?_
    rw [List.mem_singleton.mp member]
    rcases job with ⟨work, rfl⟩ | ⟨work, rfl⟩
    · exact .prepare work
    · exact .upload work
  | supervised called outbox =>
    rw [called]
    exact .single (by rfl) (by rfl)

/-- A call that the supervisor refuses does nothing, and there is none if its parameters could not
be read. -/
theorem run_map_of_refused {α : Type} {supervisor : Worker.Supervisor} {read : Except Fault α}
    {operation : α → Operation}
    (refused : ∀ value, read = .ok value → supervisor.step (operation value) = (supervisor, [])) :
    supervisor.run (read.toOption.toList.map operation) = (supervisor, []) := by
  cases read with
  | error fault => rfl
  | ok value => simp [Except.toOption, refused value rfl]

/-- The calls of a request that failed did nothing: either its parameters could not be
read, and there were none, or the supervisor refused. -/
theorem Request.calls_of_error {fault : Fault}
    (failed : Request.perform around node files name id method given = (turn, .error fault)) :
    node.supervisor.run (method.calls around node files given) = (node.supervisor, []) := by
  cases method with
  | stopService =>
    have stopped := (conclude_eq_error failed).1
    rw [stopService_eq] at stopped
    cases read : Request.delay given with
    | error cause => simp [Method.calls, read, Except.toOption]
    | ok duration =>
      cases begun : node.beginShutdown duration with
      | error cause =>
        simp [Method.calls, read, Except.toOption, Node.beginShutdown_eq_error begun]
      | ok result => simp [read, begun, bind, Except.bind, pure, Except.pure] at stopped
  | startStream =>
    refine run_map_of_refused fun spec read => ?_
    rcases created : node.supervisor.create around files spec with ⟨made, after, effects, outcome⟩
    cases outcome with
    | error cause =>
      obtain ⟨rfl, rfl, -⟩ := Worker.Supervisor.create_eq_error created
      simp [Worker.Supervisor.step, created]
    | ok => simp [Request.perform, Request.startStream, read, created, Except.map] at failed
  | stopStream =>
    have stopped := (conclude_eq_error failed).1
    refine run_map_of_refused fun stream read => ?_
    cases ended : node.supervisor.stop node.outbox stream with
    | error cause => simp [Worker.Supervisor.step, ended]
    | ok result =>
      simp [Request.stopStream, read, ended, bind, Except.bind, pure, Except.pure] at stopped
  | restartStream =>
    have restarted := (conclude_eq_error failed).1
    refine run_map_of_refused fun stream read => ?_
    cases ended : node.supervisor.restart node.outbox stream with
    | error cause => simp [Worker.Supervisor.step, ended]
    | ok result =>
      simp [Request.restartStream, read, ended, bind, Except.bind, pure, Except.pure] at restarted
  | _ => rfl

end performed
end MediaNode
