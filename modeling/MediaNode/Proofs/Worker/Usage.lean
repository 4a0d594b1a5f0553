import MediaNode.Proofs.Worker.Creation

/-!
# When a worker was last of use

The time in a handle is noted twice: when its worker is launched, and when a file of its stream
is asked for. Nothing else that happens to a worker changes it. So after a run the time of a
worker is one that an operation of the run brought, or the one it had before.
-/
namespace MediaNode.Worker

/-- The time that an operation notes. -/
def Operation.clock? : Operation → Option Int
  | .create around _ _ => some around.clock
  | .touch clock _ => some clock
  | _ => none

/-- That the time in a handle is one of those that were noted, or was in the handle of the same
worker before. -/
def Handle.Dated (handles : List Handle) (times : List Int) (handle : Handle) : Prop :=
  handle.lastUpdate ∈ times ∨ ∃ earlier ∈ handles, earlier.id = handle.id ∧
    earlier.serial = handle.serial ∧ earlier.lastUpdate = handle.lastUpdate

namespace Handle

variable {handle : Handle} {handles : List Handle} {times : List Int}

/-- A handle is as old as itself. -/
theorem Dated.same (member : handle ∈ handles) : handle.Dated handles times :=
  .inr ⟨handle, member, rfl, rfl, rfl⟩

/-- The times of a first part and of a second one are those of both. -/
theorem Dated.trans {between : List Handle} {more : List Int}
    (first : ∀ other ∈ between, other.Dated handles times) (second : handle.Dated between more) :
    handle.Dated handles (times ++ more) := by
  rcases second with noted | ⟨middle, member, id, serial, time⟩
  · exact .inl (List.mem_append_right times noted)
  · rcases first middle member with noted | ⟨earlier, before, named, numbered, still⟩
    · exact .inl (List.mem_append_left more (time ▸ noted))
    · exact .inr ⟨earlier, before, named.trans id, numbered.trans serial, still.trans time⟩

/-- Asking a worker to end is of no use to it. -/
theorem lastUpdate_ask (outbox : Outbox) (handle : Handle) (reason : StopReason) :
    (handle.ask outbox reason).snd.fst.lastUpdate = handle.lastUpdate := by
  cases stopping : handle.isStopping with
  | true => rw [ask_of_stopping outbox reason stopping]
  | false =>
    obtain ⟨next, pending, asking, -, asked⟩ := ask_of_active outbox reason stopping
    rw [asked]

/-- Nor is what it says. -/
theorem lastUpdate_heard (handle : Handle) (message : Rpc.Message) :
    (Supervisor.heard handle message).lastUpdate = handle.lastUpdate := by
  simp only [Supervisor.heard, markRunning_eq]
  cases message <;> rfl

end Handle

/-- Among handles one of which was replaced are the others and the new one. -/
theorem Registry.of_mem_replace {registry : Registry} {next handle : Handle}
    (member : handle ∈ (registry.replace next).handles) :
    handle = next ∨ handle ∈ registry.handles ∧ handle.id ≠ next.id := by
  obtain ⟨other, registered, rfl⟩ := List.mem_map.mp member
  by_cases own : other.id = next.id
  · exact .inl (if_pos own)
  · exact .inr (by rw [if_neg own]; exact ⟨registered, own⟩)

namespace Supervisor

variable {supervisor : Supervisor} {handle : Handle}

/-- When a handle that was found is replaced by one of the same worker and with the same time,
every handle has the time it had. -/
theorem dated_of_replace {id : String} {found next : Handle} {times : List Int}
    (search : supervisor.registry.get? id = some found) (same : found.SameWorker next)
    (still : next.lastUpdate = found.lastUpdate)
    (member : handle ∈ (supervisor.registry.replace next).handles) :
    handle.Dated supervisor.registry.handles times := by
  rcases Registry.of_mem_replace member with rfl | ⟨registered, -⟩
  · exact .inr ⟨found, (Registry.mem_of_get? search).1, same.id.symm, same.serial.symm, still.symm⟩
  · exact .same registered

/-- So is it when a worker is asked to end, -/
theorem dated_of_ask {id : String} {found : Handle} {times : List Int} (outbox : Outbox)
    (reason : StopReason) (search : supervisor.registry.get? id = some found)
    (member : handle ∈ (supervisor.registry.replace (found.ask outbox reason).snd.fst).handles) :
    handle.Dated supervisor.registry.handles times :=
  dated_of_replace search (Handle.sameWorker_ask outbox found reason)
    (Handle.lastUpdate_ask outbox found reason) member

/-- and when all are. -/
theorem dated_of_stopEach {outbox : Outbox} {handles : List Handle} {times : List Int}
    (member : handle ∈ (stopEach outbox handles).snd.fst) : handle.Dated handles times := by
  induction handles generalizing outbox with
  | nil => cases member
  | cons first rest inductionHypothesis =>
    rcases List.mem_cons.mp member with rfl | later
    · have same := Handle.sameWorker_ask outbox first .stop
      exact .inr ⟨first, List.mem_cons_self, same.id.symm, same.serial.symm,
        (Handle.lastUpdate_ask outbox first .stop).symm⟩
    · rcases inductionHypothesis later with noted | ⟨earlier, registered, same⟩
      · exact .inl noted
      · exact .inr ⟨earlier, List.mem_cons_of_mem first registered, same⟩

/-- After one operation. -/
theorem dated_step (operation : Operation)
    (member : handle ∈ (supervisor.step operation).fst.registry.handles) :
    handle.Dated supervisor.registry.handles operation.clock?.toList := by
  cases operation with
  | create around files spec =>
    rcases created : supervisor.create around files spec with ⟨made, after, effects, outcome⟩
    simp only [step, created] at member
    cases outcome with
    | error fault =>
      obtain ⟨rfl, -⟩ := create_eq_error created
      exact .same member
    | ok =>
      obtain ⟨identity, -, enlisted⟩ := ready_of_create created
      obtain ⟨config, command, -, -, -, rfl, -⟩ := enlist_eq_ok enlisted
      rcases List.mem_append.mp member with registered | isNew
      · exact .same registered
      · rw [List.mem_singleton.mp isNew]
        exact .inl (List.mem_singleton_self around.clock)
  | stop outbox id =>
    simp only [step, stop] at member
    split at member
    next stopped =>
      split at stopped
      · cases stopped
      next found search =>
        cases stopped
        exact dated_of_ask outbox .stop search member
    next => exact .same member
  | restart outbox id =>
    simp only [step, restart] at member
    split at member
    next restarted =>
      split at restarted
      · cases restarted
      next found search =>
        split at restarted
        · cases restarted
          exact .same member
        · cases restarted
          exact dated_of_ask outbox .restart search member
    next => exact .same member
  | stopAll outbox => exact dated_of_stopEach member
  | expire outbox id serial =>
    simp only [step, expire] at member
    split at member
    · exact .same member
    next found search =>
      split at member
      · exact .same member
      · exact dated_of_ask outbox .stop (Registry.getSerial?_eq_some_iff.mp search).1 member
  | touch clock id =>
    simp only [step, touch] at member
    split at member
    · exact .same member
    · rcases Registry.of_mem_replace member with rfl | ⟨registered, -⟩
      · exact .inl (List.mem_singleton_self clock)
      · exact .same registered
  | receive outbox id serial message =>
    simp only [step, receive] at member
    split at member
    · exact .same member
    next found search =>
      exact dated_of_replace (Registry.getSerial?_eq_some_iff.mp search).1
        (Spared.heard outbox message).sameWorker (Handle.lastUpdate_heard found message) member
  | linkClosed id serial =>
    simp only [step, linkClosed] at member
    split at member
    · exact .same member
    next found search =>
      exact dated_of_replace (Registry.getSerial?_eq_some_iff.mp search).1
        Spared.unlinked.sameWorker rfl member
  | exited id serial =>
    simp only [step, exited, Registry.remove] at member
    split at member
    · exact .same (List.mem_of_mem_filter member)
    · exact .same member

/-- After a run. -/
theorem dated_run (operations : List Operation)
    (member : handle ∈ (supervisor.run operations).fst.registry.handles) :
    handle.Dated supervisor.registry.handles (operations.filterMap Operation.clock?) := by
  induction operations generalizing supervisor with
  | nil => exact .same member
  | cons operation rest inductionHypothesis =>
    have parts : (operation :: rest).filterMap Operation.clock? =
        operation.clock?.toList ++ rest.filterMap Operation.clock? := by
      cases noted : operation.clock? <;> simp [noted]
    rw [parts]
    exact .trans (fun other => dated_step operation) (inductionHypothesis member)

end Supervisor
end MediaNode.Worker
