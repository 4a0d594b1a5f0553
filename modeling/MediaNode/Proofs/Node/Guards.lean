import MediaNode.Proofs.Node.Requests

/-!
# What guards keep out

A request that a guard stops has no effect at all: the node and the files stay as they
were, and the one who asked gets an error and nobody gets anything else. Who is stopped
depends on the session alone, never on the parameters, which no guard reads. A request to
activate is stopped by no guard; when it fails, nothing came of it either.
-/
namespace MediaNode

namespace Guard

/-- Without a verified session only the open guard lets pass, and the one for the service
if the session is from this machine. -/
theorem check_of_unverified {guard : Guard} {session : Option Session}
    (unverified : session.any Session.verified = false) (closed : guard ≠ .anyone)
    (remote : guard = .verifiedOrLocal → session.any (·.peer.isLoopback) = false) :
    guard.check session = .error .notActivated := by
  cases guard with
  | anyone => exact absurd rfl closed
  | verifiedOrLocal =>
    have outside := remote rfl
    cases session <;> simp_all [check]
  | verified => simp [check, unverified]
  | fullAccess => simp [check, unverified]

/-- A session that is limited to questions has no full access. -/
theorem check_of_verifyOnly {session : Session} (verified : session.verified = true)
    (limited : session.access = .verifyOnly) :
    Guard.fullAccess.check (some session) = .error .permissionDenied := by
  simp [check, verified, limited, Session.hasFullAccess]

end Guard

/-- Only activation is open to everybody. -/
theorem Method.eq_activate_of_guard {method : Method} (opened : method.guard = .anyone) :
    method = .activate := by
  cases method <;> first | rfl | cases opened

/-- Only stopping the service is open to this machine. -/
theorem Method.eq_stopService_of_guard {method : Method}
    (opened : method.guard = .verifiedOrLocal) : method = .stopService := by
  cases method <;> first | rfl | cases opened

/-- That a request was refused with an error code: it is answered with an error of that
code to the one who asked, and the node, the files and everybody else know nothing of it.
A request without an id is not even answered. -/
def Refused (node : Node) (around : Surroundings) (files : FileTree) (name : String)
    (request : Rpc.Request) (code : Int) : Prop :=
  ∃ error : Rpc.ErrorObject, error.code = code ∧
    node.handle around files name request =
      ({ node, files }, some (.failure (Node.answerId request) error)) ∧
    (node.receive around files name (.request request)).node = node ∧
    (node.receive around files name (.request request)).files = files ∧
    ∀ effect ∈ (node.receive around files name (.request request)).effects,
      effect = .deliver (.session name) (.response (.failure (Node.answerId request) error))

namespace Refused

variable {node : Node} {around : Surroundings} {files : FileTree} {name : String}
  {request : Rpc.Request}

/-- A request is refused when all that its handling leaves is an error. -/
theorem of_handle {error : Rpc.ErrorObject}
    (answered : node.handle around files name request =
      ({ node, files }, some (.failure (Node.answerId request) error))) :
    Refused node around files name request error.code := by
  refine ⟨error, rfl, answered, ?_⟩
  simp only [Node.receive]
  split
  · exact ⟨rfl, rfl, by simp⟩
  · rw [answered]
    exact ⟨rfl, rfl, fun effect sent => Node.eq_of_mem_sendTo sent⟩

/-- A method that nobody knows is refused. -/
theorem of_unknown (unnamed : Method.ofName? request.method = none) :
    Refused node around files name request Rpc.Code.methodNotFound := by
  have answered : node.handle around files name request = ({ node, files }, some
      (.failure (Node.answerId request) (Fault.methodNotFound request.method).toErrorObject)) := by
    simp only [Node.handle, Request.dispatch, unnamed]
  exact of_handle answered

/-- What a guard stops is refused with the fault that the guard found. -/
theorem of_check {method : Method} {fault : Fault}
    (named : Method.ofName? request.method = some method)
    (stopped : method.guard.check (node.session? name) = .error fault) :
    Refused node around files name request fault.toErrorObject.code :=
  of_handle <| by simp only [Node.handle, Request.dispatch, named, stopped]

/-- An activation that fails is refused. -/
theorem of_activation {error : Rpc.ErrorObject} (asked : request.method = Method.activate.name)
    (failed : (node.handle around files name request).snd.bind Rpc.Response.error = some error) :
    Refused node around files name request error.code := by
  have named : Method.ofName? request.method = some .activate := by rw [asked]; rfl
  cases performed : Request.activate around node name request.params with
  | ok handled =>
    simp only [Node.handle, Request.dispatch, named, Method.guard, Guard.check, Request.perform,
      performed, Request.conclude_ok] at failed
    cases result : handled.result <;> simp [result, Rpc.Response.success] at failed
  | error fault =>
    have answered : node.handle around files name request =
        ({ node, files }, some (.failure (Node.answerId request) fault.toErrorObject)) := by
      simp only [Node.handle, Request.dispatch, named, Method.guard, Guard.check, Request.perform,
        performed, Request.conclude_error]
    rw [answered] at failed
    obtain rfl : fault.toErrorObject = error := Option.some.inj failed
    exact of_handle answered

/-- Without a verified session every request is refused, but for activation and for stopping
the service from this machine. -/
theorem of_unverified (unverified : (node.session? name).any Session.verified = false)
    (other : request.method ≠ Method.activate.name)
    (remote : ¬ (request.method = Method.stopService.name ∧
      (node.session? name).any (·.peer.isLoopback) = true)) :
    Refused node around files name request
      (if (Method.ofName? request.method).isSome then Rpc.Code.notActivated
        else Rpc.Code.methodNotFound) := by
  cases named : Method.ofName? request.method with
  | none => exact of_unknown named
  | some method =>
    have word := Method.name_of_ofName? named
    have closed : method.guard ≠ .anyone := fun opened =>
      other (word ▸ congrArg Method.name (Method.eq_activate_of_guard opened))
    have outside : method.guard = .verifiedOrLocal →
        (node.session? name).any (·.peer.isLoopback) = false := fun opened =>
      Bool.eq_false_iff.mpr fun here =>
        remote ⟨word ▸ congrArg Method.name (Method.eq_stopService_of_guard opened), here⟩
    exact of_check named (Guard.check_of_unverified unverified closed outside)

/-- A session that is limited to questions controls no stream. -/
theorem of_verifyOnly {session : Session} (found : node.session? name = some session)
    (verified : session.verified = true) (limited : session.access = .verifyOnly)
    {method : Method} (word : method.name = request.method) (guarded : method.guard = .fullAccess) :
    Refused node around files name request Rpc.Code.permissionDenied := by
  have named : Method.ofName? request.method = some method := by
    rw [← word]
    cases method <;> rfl
  have stopped : method.guard.check (node.session? name) = .error .permissionDenied := by
    rw [guarded, found, Guard.check_of_verifyOnly verified limited]
  exact of_check named stopped

end Refused

/-- Whatever its parameters, a request is refused if its session is not verified, unless it
activates the session or stops the service from this machine; if its session is limited to
questions and it is about streams; and if it activates in vain. -/
theorem Node.refused_without_effect (node : Node) (around : Surroundings) (files : FileTree)
    (name : String) (request : Rpc.Request) :
    ((node.session? name).any Session.verified = false →
      request.method ≠ Method.activate.name →
      ¬ (request.method = Method.stopService.name ∧
        (node.session? name).any (·.peer.isLoopback) = true) →
      Refused node around files name request
        (if (Method.ofName? request.method).isSome then Rpc.Code.notActivated
          else Rpc.Code.methodNotFound)) ∧
    (∀ session, node.session? name = some session → session.verified = true →
      session.access = .verifyOnly →
      request.method ∈ [Method.startStream, .stopStream, .restartStream, .getLogStream,
        .getPipelineStream].map Method.name →
      Refused node around files name request Rpc.Code.permissionDenied) ∧
    (request.method = Method.activate.name → ∀ error,
      (node.handle around files name request).snd.bind Rpc.Response.error = some error →
      Refused node around files name request error.code) := by
  refine ⟨fun unverified other remote => .of_unverified unverified other remote, ?_,
    fun asked error failed => .of_activation asked failed⟩
  intro session found verified limited asked
  obtain ⟨method, listed, word⟩ := List.mem_map.mp asked
  have guarded : method.guard = .fullAccess := by
    cases method <;> first | rfl | simp at listed
  exact .of_verifyOnly found verified limited word guarded

/-- A session from elsewhere starts no stream before it is activated and restarts none when
it is limited to questions, and a node without a license activates nobody. -/
theorem Node.refused_without_effect_remote :
    let asked (method : Method) : Rpc.Request :=
      .make method.name (some (.obj [("license", .str "")])) (.number 1)
    let peer : Peer := ⟨.ipv4 0x0A000001, 4000⟩
    let fresh : Node := (ofSettings {}).connect "c" peer
    let limited : Node := fresh.setSession "c" { peer, verified := true, access := .verifyOnly }
    Refused fresh default .empty "c" (asked .startStream) Rpc.Code.notActivated ∧
      Refused limited default .empty "c" (asked .restartStream) Rpc.Code.permissionDenied ∧
      Refused fresh default .empty "c" (asked .activate) Rpc.Code.activationFailed := by
  intro asked peer fresh limited
  refine ⟨?_, ?_, ?_⟩
  · exact (refused_without_effect fresh default .empty "c" (asked .startStream)).1
      rfl (by decide) (by decide)
  · exact (refused_without_effect limited default .empty "c" (asked .restartStream)).2.1
      _ rfl rfl rfl (by decide)
  · exact (refused_without_effect fresh default .empty "c" (asked .activate)).2.2
      rfl _ rfl

end MediaNode
