import MediaNode.Proofs.Worker.Relaunch
import MediaNode.Proofs.Worker.Succession

/-!
# A supervisor that is closed

Once all workers were stopped, the supervisor accepts nothing, and every worker that is
still registered was asked to end for good. Both are needed together: a worker that is to
be launched again would bring in a new one, and a new one would not be ending.

Then nothing brings a worker in any more. Every operation leaves the supervisor closed,
launches nothing, and at most takes a worker off.
-/
namespace MediaNode.Worker

/-- Asked once or again, a worker is on its way to its end. -/
theorem Handle.isStopping_ask (outbox : Outbox) (handle : Handle) (reason : StopReason) :
    (handle.ask outbox reason).snd.fst.isStopping = true := by
  cases stopping : handle.isStopping with
  | true =>
    rw [ask_of_stopping outbox reason stopping]
    exact stopping
  | false =>
    obtain ⟨next, pending, asking, -, asked⟩ := ask_of_active outbox reason stopping
    rw [asked]
    rfl

/-- Every handle after reactions is what one before made of itself. -/
theorem Reactions.origin {operation : Operation} {handles afters : List Handle}
    {effects : List Effect} (reactions : Reactions operation handles afters effects) :
    ∀ after ∈ afters, ∃ handle ∈ handles, ∃ own, Reaction operation handle after own := by
  induction reactions with
  | nil => simp
  | @cons handle after rest afters effects more head tail inductionHypothesis =>
    intro one member
    rcases List.mem_cons.mp member with rfl | later
    · exact ⟨handle, List.mem_cons_self, effects, head⟩
    · obtain ⟨other, registered, own, reaction⟩ := inductionHypothesis one later
      exact ⟨other, List.mem_cons_of_mem handle registered, own, reaction⟩

namespace Supervisor

/-- That all workers were stopped: no new one is accepted, and each that is still
registered was asked to end and will not be launched again. -/
structure Closed (supervisor : Supervisor) : Prop where
  refusing : supervisor.accepting = false
  ending : ∀ handle ∈ supervisor.registry.handles,
    handle.isStopping = true ∧ handle.restart = false

/-- What can become of the workers once the supervisor is closed: it stays closed, no
process is launched and no serial number handed out, and workers at most go. -/
structure Dwindles (supervisor after : Supervisor) (effects : List Effect) : Prop where
  closed : after.Closed
  launches : launchedSerials effects = []
  serials : after.nextSerial = supervisor.nextSerial
  workers : after.registry.workers.Sublist supervisor.registry.workers

variable {supervisor middle after : Supervisor} {operation : Operation}
  {trace effects more : List Effect}

/-- A closed supervisor to which nothing happens stays as it is. -/
theorem Dwindles.refl (closed : supervisor.Closed) : supervisor.Dwindles supervisor [] :=
  ⟨closed, rfl, rfl, List.Sublist.refl _⟩

/-- What goes step by step goes altogether. -/
theorem Dwindles.trans (first : supervisor.Dwindles middle effects)
    (second : middle.Dwindles after more) : supervisor.Dwindles after (effects ++ more) where
  closed := second.closed
  launches := by rw [launchedSerials_append, first.launches, second.launches, List.append_nil]
  serials := second.serials.trans first.serials
  workers := second.workers.trans first.workers

namespace Closed

/-- Stopping all workers closes the supervisor. -/
theorem of_stopAll (supervisor : Supervisor) (outbox : Outbox) :
    (supervisor.step (.stopAll outbox)).fst.Closed where
  refusing := rfl
  ending := by
    intro after member
    obtain ⟨handle, -, own, reaction⟩ :=
      (Reactions.of_stopEach outbox outbox supervisor.registry.handles).origin after member
    cases reaction with
    | asked outbox reason asks =>
      obtain rfl : StopReason.stop = reason := Option.some.inj asks
      exact ⟨Handle.isStopping_ask outbox handle .stop, Handle.restart_ask outbox handle .stop⟩
    | spared quiet mild => cases quiet

/-- Every operation leaves a closed supervisor closed, and at most takes a worker off. A
restart passes over workers that were asked to end before, so none is due again. -/
theorem step (closed : supervisor.Closed) (life : Lifecycle supervisor trace)
    (outcome : Outcome supervisor operation after effects) :
    supervisor.Dwindles after effects := by
  cases outcome with
  | launched created accepted => exact absurd accepted (by simp [closed.refusing])
  | removed ended found =>
    exact {
      closed := ⟨closed.refusing, fun handle member =>
        closed.ending handle (List.mem_of_mem_filter member)⟩
      launches := rfl
      serials := rfl
      workers := List.filter_sublist.map _ }
  | @reacted handles effects reactions =>
    have ending : ∀ after ∈ handles, after.isStopping = true ∧ after.restart = false := by
      intro after member
      obtain ⟨handle, registered, own, reaction⟩ := reactions.origin after member
      obtain ⟨stopping, final⟩ := closed.ending handle registered
      refine ⟨reaction.isStopping_of stopping, Bool.eq_false_iff.mpr fun again => ?_⟩
      rcases (reaction.restart_iff (life.sound handle registered)).mp again with
        ⟨stood, -⟩ | ⟨-, active⟩
      · exact absurd (stood.symm.trans final) (by simp)
      · exact absurd (stopping.symm.trans active) (by simp)
    exact {
      closed := ⟨by simp [closed.refusing], ending⟩
      launches := (reactions.about life.sound).2
      serials := rfl
      workers := by rw [reactions.workers] }

/-- Hence every run does. -/
theorem run (closed : supervisor.Closed) (life : Lifecycle supervisor trace)
    (operations : List Operation) :
    supervisor.Dwindles (supervisor.run operations).fst (supervisor.run operations).snd := by
  induction operations generalizing supervisor trace with
  | nil => exact .refl closed
  | cons operation rest inductionHypothesis =>
    have outcome := step_outcome life.distinct operation
    have first := closed.step life outcome
    exact first.trans (inductionHypothesis first.closed (life.step outcome))

end Closed
end Supervisor
end MediaNode.Worker
