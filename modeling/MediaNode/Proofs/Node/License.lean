import MediaNode.Proofs.Node.Shutdown

/-!
# What a license that is over leads to

Looking at a license that is over begins a shutdown without delay, unless one has begun.
So the workers are stopped by then, with one exception: a shutdown that was asked for with
a delay is not hastened. Until its delay is over, workers keep running and new ones are
accepted without a license.
-/
namespace MediaNode.Node

/-- Whether the license of a node is of no use at a time: there is none, it is not a key, or
it has expired. -/
def Unlicensed (settings : Settings) (now : Int) : Prop :=
  ∀ license expiry, settings.licenseKey = some license →
    License.expireTime license = some expiry → expiry ≤ now

/-- Whether the workers are still to be stopped by a shutdown that began with a delay: the
command that comes when the delay is over has not come. -/
def StopPending (settings : Settings) (history : List Moment) : Prop :=
  ∃ before moment later delay, history = before ++ moment :: later ∧ 0 < delay ∧
    ((ofSettings settings).after before).Begins moment delay ∧
    ∀ next ∈ later, next.event ≠ .commanded .stopWorkers

/-- A license of no use is not a good one. -/
theorem isLicensed_of_unlicensed {node : Node} {now : Int}
    (lapsed : Unlicensed node.settings now) : node.isLicensed now = false := by
  cases key : node.settings.licenseKey with
  | none => simp [isLicensed, key]
  | some license =>
    cases decoded : License.expireTime license with
    | none => simp [isLicensed, key, License.isActive, decoded]
    | some expiry =>
      have expired := lapsed license expiry key decoded
      simp only [isLicensed, key, Option.any_some, License.isActive, decoded,
        decide_eq_false_iff_not]
      omega

/-- When a shutdown has begun and none of its delay is left to wait for, all workers were
stopped at some moment of the history. -/
theorem stopsAll_of_not_pending {settings : Settings} {history : List Moment}
    (begun : ((ofSettings settings).after history).shutdown = true)
    (settled : ¬ StopPending settings history) :
    ∃ before moment later, history = before ++ moment :: later ∧
      ((ofSettings settings).after before).StopsAll moment := by
  obtain ⟨before, moment, later, delay, rfl, begins⟩ := begins_of_shutdown history rfl begun
  rcases Nat.eq_zero_or_pos delay with rfl | delayed
  · exact ⟨before, moment, later, rfl, .inr begins⟩
  · -- the delay is over, so the command that stops the workers has come since
    obtain ⟨next, member, commanded⟩ : ∃ next ∈ later, next.event = .commanded .stopWorkers := by
      by_contra waiting
      exact settled ⟨before, moment, later, delay, rfl, delayed, begins, fun next member same =>
        waiting ⟨next, member, same⟩⟩
    obtain ⟨between, rest, rfl⟩ := List.append_of_mem member
    exact ⟨before ++ moment :: between, next, rest, by simp, .inl commanded⟩

/-- Looking at a license that is over leaves the node in a shutdown. Its workers are stopped
for good from then on, unless a shutdown with a delay began before and the delay is not over.
In that case the look changes nothing and tells nobody, and the workers are stopped for good
when the delay is over. -/
theorem license_enforced (settings : Settings) (history : List Moment) (moment : Moment)
    (due : moment.event = .due .license) (lapsed : Unlicensed settings moment.around.now) :
    let node := (ofSettings settings).after history
    (node.step moment).node.shutdown = true ∧
    (¬ StopPending settings history → ∀ later,
      ((ofSettings settings).after (history ++ moment :: later)).supervisor.Closed) ∧
    (StopPending settings history →
      (node.step moment).node = node ∧ (node.step moment).effects = [] ∧
      ∀ between command rest, command.event = .commanded .stopWorkers →
        ((ofSettings settings).after
          (history ++ moment :: between ++ command :: rest)).supervisor.Closed) := by
  intro node
  have asks : node.AsksShutdown moment 0 :=
    .unlicensed due (isLicensed_of_unlicensed (by rwa [after_settings]))
  cases flag : node.shutdown with
  | false =>
    have begins : node.Begins moment 0 := ⟨asks, beginShutdown_of_first flag 0⟩
    refine ⟨shutdown_of_begins begins, fun _ => closed_from (.inr begins), fun pending => ?_⟩
    obtain ⟨before, first, later, delay, rfl, -, begun, -⟩ := pending
    have raised := shutdown_after (shutdown_of_begins begun) later
    rw [← after_cons, ← after_append] at raised
    exact absurd (flag.symm.trans raised) (by simp)
  | true =>
    have refused := refusedAgain_of_asks flag asks
    refine ⟨by rw [refused.unchanged, flag], fun settled later => ?_, fun pending => ?_⟩
    · obtain ⟨before, first, between, rfl, stops⟩ := stopsAll_of_not_pending flag settled
      rw [List.append_assoc, List.cons_append]
      exact closed_from stops _
    · exact ⟨refused.unchanged, (refused.license due).1, fun between command rest commanded =>
        closed_from (.inl commanded) rest⟩

/-- Somebody connects, activates the session, starts a relay, and asks to stop the service
in a minute. -/
def delayedHistory : List Moment :=
  relayHistory.take 3 ++ [⟨default, .empty, .heard "c" (.request
    (.make Method.stopService.name (some (.obj [("delay", .int 60000)])) (.number 4)))⟩]

/-- A look at the license when it has expired. -/
def lapse : Moment := ⟨{ (default : Surroundings) with now := 5000 }, .empty, .due .license⟩

/-- The license of the relay's node is over at the lapse. -/
theorem unlicensed_lapse : Unlicensed relaySettings lapse.around.now := by
  intro license expiry key decoded
  cases key
  have known : License.expireTime "00000000000013888bdeae83a31fd33508df9c4b10dc0ed5" =
      some 5000 := by decide +kernel
  obtain rfl : 5000 = expiry := Option.some.inj (known.symm.trans decoded)
  exact Int.le_refl 5000

/-- Before anybody asks for a delay, the lapse begins a shutdown and closes the supervisor. -/
theorem license_enforced_relay :
    (((ofSettings relaySettings).after relayHistory).step lapse).node.shutdown = true ∧
      ∀ later, ((ofSettings relaySettings).after
        (relayHistory ++ lapse :: later)).supervisor.Closed := by
  have settled : ¬ StopPending relaySettings relayHistory := by
    rintro ⟨before, moment, later, delay, split, -, begins, -⟩
    have raised := shutdown_after (shutdown_of_begins begins) later
    rw [← after_cons, ← after_append, ← split] at raised
    exact absurd raised (by decide +kernel)
  obtain ⟨begun, closed, -⟩ :=
    license_enforced relaySettings relayHistory lapse rfl unlicensed_lapse
  exact ⟨begun, closed settled⟩

/-- During the delay it does not: the relay goes on, and more workers would be accepted. -/
theorem not_closed_during_delay :
    ¬ ∀ settings history (moment : Moment), moment.event = .due .license →
      Unlicensed settings moment.around.now →
      (((ofSettings settings).after history).step moment).node.supervisor.Closed := by
  intro always
  have closed := always relaySettings delayedHistory lapse rfl unlicensed_lapse
  have running : (((ofSettings relaySettings).after delayedHistory).step
      lapse).node.supervisor.accepting = true := by decide +kernel
  rw [closed.refusing] at running
  cases running

end MediaNode.Node
