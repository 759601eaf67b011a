import BusyBeaver.Recurring.Rate

/-!
# Skip and Burst on a fixed rate

Under `Skip` every tick is put on the first point of the grid after the instant that is read
(`fixed_rate_skip_on_grid`); under `Burst` tick `k + 1` is put on point `k`, however late the
ones before it were (`fixed_rate_burst_exact`).
-/

namespace BusyBeaver

open Transition

variable {T E F : Type}

/-- What is computed on the way to the next point of the grid, and that point. -/
structure Representable (maxInstant anchor : Instant) (interval : Duration) (tick : Nat)
    (now : Instant) : Prop where
  elapsed : FitsDuration (interval * tick)
  count : anchor + interval * tick ≤ now →
    skippedPoints interval (anchor + interval * tick) now ≤ Checked.u64Max
  advance : anchor + interval * tick ≤ now →
    FitsDuration (interval * skippedPoints interval (anchor + interval * tick) now)
  point : Grid.next anchor interval now ≤ maxInstant

section Points

variable {maxInstant anchor now : Instant} {interval : Duration} {tick m : Nat}

/-- The nominal point of a number that is not ahead of the grid is the next point, or has
passed. -/
theorem next_of_early (since : anchor + m * interval ≤ now) (behind : tick ≤ m + 1)
    (early : now < anchor + interval * tick) :
    Grid.next anchor interval now = anchor + interval * tick := by
  have beyond : m < tick := by
    by_contra within
    have := Nat.mul_le_mul_right interval (Nat.le_of_not_lt within)
    rw [Nat.mul_comm tick interval] at this
    exact absurd early (Nat.not_lt.2 (Nat.le_trans (Nat.add_le_add_left this anchor) since))
  obtain rfl : tick = m + 1 := Nat.le_antisymm behind beyond
  rw [Nat.mul_comm] at early ⊢
  exact Grid.next_of_lt since early

theorem next_of_late (positive : 0 < interval) (late : anchor + interval * tick ≤ now) :
    Grid.next anchor interval now =
      anchor + interval * tick +
        interval * skippedPoints interval (anchor + interval * tick) now := by
  rw [Nat.mul_comm interval tick] at late ⊢
  rw [Grid.next_of_le positive late, skippedPoints, Nat.mul_comm interval (_ + 1)]

end Points

section Skip

variable [FloatOps F] {spec : RecurringSpec F} {maxInstant anchor clock : Instant} {epoch m : Nat}
  {interval : Duration} {s after : RecurringLoop} {observed : TickObserved T E}
  {ticks before : List (TickObserved T E)}

omit [FloatOps F] in
/-- **Rounding up.**  A tick that is skipped to the grid, if it was missed, is put on the first
point after the instant that is read, or an overflow is reported. -/
theorem RecurringSpec.OnRate.targetAfter_skip (rate : spec.OnRate interval)
    (waits : (decide (observed.resumeEpoch ≠ s.resumeEpoch) &&
      spec.schedule.resumePolicy = .runImmediately) = false)
    (skips : spec.schedule.missedPolicy (observed.resumeEpoch ≠ s.resumeEpoch) = .skip)
    (since : anchor + m * interval ≤ observed.targetNow) (behind : s.tick ≤ m + 1) :
    (Representable maxInstant anchor interval s.tick observed.targetNow ∧
      ∃ missed, spec.targetAfter maxInstant anchor s observed =
        .ok (some (Grid.next anchor interval observed.targetNow, missed))) ∨
    (¬ Representable maxInstant anchor interval s.tick observed.targetNow ∧
      ∃ code, spec.targetAfter maxInstant anchor s observed = .error (.overflow code)) := by
  rw [RecurringSpec.targetAfter]
  have nominal_le : anchor + interval * s.tick ≤ Grid.next anchor interval observed.targetNow := by
    by_cases early : observed.targetNow < anchor + interval * s.tick
    · exact Nat.le_of_eq (next_of_early since behind early).symm
    · rw [next_of_late rate.positive (Nat.le_of_not_lt early)]
      exact Nat.le_add_right _ _
  rcases nextTarget_fixedRate rate.plan rate.positive waits maxInstant anchor s.tick
    with ⟨nominal, target⟩ | ⟨unfit, code, target⟩
  · rw [target, skips]
    by_cases early : observed.targetNow < anchor + interval * s.tick
    · rw [if_pos early, next_of_early since behind early]
      refine Or.inl ⟨⟨nominal.elapsed, ?_, ?_, ?_⟩, 0, rfl⟩
      · exact fun late => absurd early (Nat.not_lt.2 late)
      · exact fun late => absurd early (Nat.not_lt.2 late)
      · rw [next_of_early since behind early]
        exact nominal.target
    · have late := Nat.le_of_not_lt early
      rw [if_neg early, next_of_late rate.positive late]
      rcases missedTarget_skip maxInstant interval observed.finishedAt
        (anchor + interval * s.tick) observed.targetNow with ⟨fits, missed⟩ | ⟨unfit, code, missed⟩
      · refine Or.inl ⟨⟨nominal.elapsed, fun _ => fits.count, fun _ => fits.advance, ?_⟩, _, missed⟩
        rw [next_of_late rate.positive late]
        exact fits.target
      · refine Or.inr ⟨fun fits => unfit ⟨fits.count late, fits.advance late, ?_⟩, code, missed⟩
        rw [← next_of_late rate.positive late]
        exact fits.point
  · exact Or.inr
      ⟨fun fits => unfit ⟨fits.elapsed, Nat.le_trans nominal_le fits.point⟩, code, target⟩

/-- The head of the loop is on the grid, not behind its number, and the clock has reached it. -/
structure OnGrid (anchor : Instant) (interval : Duration) (epoch : Nat) (clock : Instant)
    (s : RecurringLoop) : Prop where
  same : s.resumeEpoch = epoch
  reached : s.scheduledAt ≤ clock
  point : ∃ m, s.tick ≤ m + 1 ∧ s.scheduledAt = anchor + m * interval

/-- No resume notification comes. -/
def TickObserved.Unresumed (epoch : Nat) (observed : TickObserved T E) : Prop :=
  observed.resumeEpoch = epoch ∧ observed.resumed = none

omit [FloatOps F] in
theorem OnGrid.waits (schedule : Schedule F) (grid : OnGrid anchor interval epoch clock s)
    (quiet : observed.Unresumed epoch) (policy : ResumePolicy) :
    (decide (observed.resumeEpoch ≠ s.resumeEpoch) && schedule.resumePolicy = policy) = false := by
  rw [quiet.1, grid.same]
  simp

omit [FloatOps F] in
theorem OnGrid.targetAfter (grid : OnGrid anchor interval epoch clock s)
    (rate : spec.OnRate interval) (skip : spec.schedule.missedTickPolicy = .skip)
    (quiet : observed.Unresumed epoch) (ordered : observed.Ordered clock) (maxInstant : Instant) :
    (Representable maxInstant anchor interval s.tick observed.targetNow ∧
      ∃ missed, spec.targetAfter maxInstant anchor s observed =
        .ok (some (Grid.next anchor interval observed.targetNow, missed))) ∨
    (¬ Representable maxInstant anchor interval s.tick observed.targetNow ∧
      ∃ code, spec.targetAfter maxInstant anchor s observed = .error (.overflow code)) := by
  obtain ⟨m, behind, at_⟩ := grid.point
  have since : anchor + m * interval ≤ observed.targetNow :=
    at_ ▸ Nat.le_trans grid.reached ordered.le_targetNow
  refine rate.targetAfter_skip (grid.waits _ quiet _) ?_ since behind
  rw [Schedule.missedPolicy, grid.waits _ quiet]
  exact skip

/-- **Step lemma.** -/
theorem OnGrid.of_step (grid : OnGrid anchor interval epoch clock s) (rate : spec.OnRate interval)
    (skip : spec.schedule.missedTickPolicy = .skip) (quiet : observed.Unresumed epoch)
    (ordered : observed.Ordered clock)
    (step : (recurringLoop spec maxInstant anchor epoch).step s observed = some after) :
    OnGrid anchor interval epoch (observed.wakes s after) after ∧ s.LeadsTo after ∧
      (after.tick ≠ s.tick →
        after.scheduledAt = Grid.next anchor interval observed.targetNow ∧
          after.scheduledAt ≤ maxInstant) := by
  rcases rate.returns (fun _ => quiet.2) step with ⟨restarts, rfl⟩ | ⟨-, target, tick, same⟩
  · refine ⟨⟨grid.same, ?_, grid.point⟩, Or.inl ⟨rfl, rfl⟩, fun other => absurd rfl other⟩
    exact Nat.le_trans grid.reached ordered.le_wakes
  · have further : after.tick ≠ s.tick := tick ▸ Nat.succ_ne_self _
    rcases grid.targetAfter rate skip quiet ordered maxInstant with
      ⟨fits, missed, next⟩ | ⟨-, code, failed⟩
    · have at_ := (Prod.mk.inj (Option.some.inj (Except.ok.inj (next.symm.trans target)))).1
      have later : s.scheduledAt < after.scheduledAt := by
        rw [← at_]
        exact Nat.lt_of_le_of_lt (Nat.le_trans grid.reached ordered.le_targetNow)
          (Grid.isLeast_next rate.positive _ _).1.1
      refine ⟨⟨same.trans quiet.1, TickObserved.scheduledAt_le_wakes further, ?_⟩,
        Or.inr ⟨tick ▸ Nat.lt_succ_self _, later⟩, fun _ => ⟨at_.symm, at_ ▸ fits.point⟩⟩
      -- the index grows with the number, as the point is a later one
      obtain ⟨m, behind, old⟩ := grid.point
      obtain ⟨-, m', new⟩ := (Grid.isLeast_next rate.positive anchor observed.targetNow).1
      rw [at_] at new
      refine ⟨m', ?_, new⟩
      rw [old, new] at later
      have beyond : m < m' := Nat.lt_of_mul_lt_mul_right (Nat.lt_of_add_lt_add_left later)
      rw [tick]
      exact Nat.succ_le_succ (Nat.le_trans behind beyond)
    · cases failed.symm.trans target

/-- The head that a timely run comes to is on the grid. -/
theorem RecurringSpec.Timely.onGrid (timely : spec.Timely maxInstant anchor epoch ticks)
    (rate : spec.OnRate interval) (skip : spec.schedule.missedTickPolicy = .skip)
    (quiet : ∀ observed ∈ ticks, observed.Unresumed epoch)
    (comes : ComesTo spec maxInstant anchor epoch ticks before observed s) :
    ∃ clock, OnGrid anchor interval epoch clock s ∧ observed.Ordered clock := by
  refine timely.invariant (I := OnGrid anchor interval epoch) ?_ ?_ comes
  · exact ⟨rfl, Nat.le_refl _, 0, Nat.le_refl _, by simp [RecurringLoop.first]⟩
  · intro clock s after observed member grid ordered step
    exact (grid.of_step rate skip (quiet observed member) ordered step).1

end Skip

section Burst

variable [FloatOps F] {spec : RecurringSpec F} {maxInstant anchor : Instant} {epoch : Nat}
  {interval : Duration} {s after : RecurringLoop} {observed : TickObserved T E}
  {ticks before : List (TickObserved T E)}

omit [FloatOps F] in
/-- A missed tick of a burst keeps its nominal point. -/
theorem RecurringSpec.OnRate.targetAfter_burst (rate : spec.OnRate interval)
    (waits : (decide (observed.resumeEpoch ≠ s.resumeEpoch) &&
      spec.schedule.resumePolicy = .runImmediately) = false)
    (bursts : spec.schedule.missedPolicy (observed.resumeEpoch ≠ s.resumeEpoch) = .burst)
    (maxInstant anchor : Instant) :
    (NominalFits maxInstant anchor interval s.tick ∧
      spec.targetAfter maxInstant anchor s observed =
        .ok (some (anchor + s.tick * interval,
          if observed.targetNow < anchor + s.tick * interval then 0 else 1))) ∨
    (¬ NominalFits maxInstant anchor interval s.tick ∧
      ∃ code, spec.targetAfter maxInstant anchor s observed = .error (.overflow code)) := by
  rw [RecurringSpec.targetAfter, Nat.mul_comm s.tick]
  rcases nextTarget_fixedRate rate.plan rate.positive waits maxInstant anchor s.tick with
    ⟨nominal, target⟩ | failed
  · refine Or.inl ⟨nominal, ?_⟩
    rw [target, bursts]
    by_cases early : observed.targetNow < anchor + interval * s.tick
    · rw [if_pos early, if_pos early]
    · rw [if_neg early, if_neg early]
      rfl
  · exact Or.inr failed

omit [FloatOps F] in
theorem not_resumes {policy : ResumePolicy} (continues : spec.schedule.resumePolicy = .continue)
    (other : policy ≠ .continue) (resumed : Bool) :
    (resumed && spec.schedule.resumePolicy = policy) = false := by
  rw [continues, decide_eq_false other.symm, Bool.and_false]

omit [FloatOps F] in
theorem missedPolicy_of_continue (continues : spec.schedule.resumePolicy = .continue)
    (resumed : Bool) : spec.schedule.missedPolicy resumed = spec.schedule.missedTickPolicy := by
  rw [Schedule.missedPolicy, not_resumes continues (by simp)]
  rfl

/-- **Step lemma.** -/
theorem exact_of_step (rate : spec.OnRate interval)
    (burst : spec.schedule.missedTickPolicy = .burst)
    (continues : spec.schedule.resumePolicy = .continue)
    (step : (recurringLoop spec maxInstant anchor epoch).step s observed = some after) :
    (∃ restarts, after = { s with restarts := restarts }) ∨
      after.tick = s.tick + 1 ∧ after.scheduledAt = anchor + s.tick * interval := by
  have sleeps : spec.SleepsOut observed := fun runs => by
    rw [continues] at runs
    cases runs
  rcases rate.returns sleeps step with again | ⟨-, target, tick, -⟩
  · exact Or.inl again
  · refine Or.inr ⟨tick, ?_⟩
    rcases rate.targetAfter_burst (not_resumes continues (by simp) _)
      ((missedPolicy_of_continue continues _).trans burst) maxInstant anchor with
      ⟨-, next⟩ | ⟨-, code, failed⟩
    · exact (Prod.mk.inj (Option.some.inj (Except.ok.inj (next.symm.trans target)))).1.symm
    · cases failed.symm.trans target

/-- **Run lemma.** -/
theorem exact_of_exec (rate : spec.OnRate interval)
    (burst : spec.schedule.missedTickPolicy = .burst)
    (continues : spec.schedule.resumePolicy = .continue)
    (comes : ComesTo spec maxInstant anchor epoch ticks before observed s) :
    ∃ k, s.tick = k + 1 ∧ s.scheduledAt = anchor + k * interval := by
  refine System.exec_invariant
    (I := fun _ s => ∃ k, s.tick = k + 1 ∧ s.scheduledAt = anchor + k * interval) ?_ ?_ comes.2
  · exact ⟨0, rfl, by simp [recurringLoop, RecurringLoop.first]⟩
  · rintro as x y o - ⟨k, tick, at_⟩ step
    rcases exact_of_step rate burst continues step with ⟨restarts, rfl⟩ | ⟨tick', at_'⟩
    · exact ⟨k, tick, at_⟩
    · exact ⟨k + 1, tick'.trans (congrArg (· + 1) tick), tick ▸ at_'⟩

/-- A pass that has its target goes on to it, unless it is stopped, or its sleep would run past the
last instant, or the numbers are used up. -/
theorem step_of_target {target : Instant} {missed failures : Nat}
    (exact : spec.schedule.jitter = none) (sleeps : spec.SleepsOut observed)
    (asks : spec.asks maxInstant s observed = some failures)
    (found : spec.targetAfter maxInstant anchor s observed = .ok (some (target, missed)))
    (unstopped : observed.pause.stop = none)
    (fits : observed.pause.at_ + (target - observed.delayNow) ≤ maxInstant)
    (number : s.tick < Checked.u64Max) :
    ∃ after, (recurringLoop spec maxInstant anchor epoch).step s observed = some after ∧
      after.tick = s.tick + 1 ∧ after.scheduledAt = target := by
  have next : nextTarget spec.schedule maxInstant anchor s.tick s.scheduledAt observed.finishedAt
      s.observedMissedTicks (observed.resumeEpoch ≠ s.resumeEpoch) observed.targetNow =
        .ok (some (target, missed)) := found
  have counted : Checked.add Checked.u64Max s.tick 1 = some (s.tick + 1) :=
    Checked.add_eq_some.2 ⟨number, rfl⟩
  refine ⟨{ s with
    scheduledAt := target, tick := s.tick + 1, observedMissedTicks := missed
    consecutiveFailures := failures, resumeEpoch := observed.resumeEpoch }, ?_, rfl, rfl⟩
  rw [step_recurringLoop, pass_of_asks asks, RecurringSpec.advance]
  dsimp only
  rw [next]
  dsimp only
  rw [RecurringSpec.plan, exact]
  dsimp only
  rw [await_of_sleepsOut sleeps, Pause.sleep_eq_ok.2 ⟨unstopped, fits⟩]
  simp only [Except.map, counted]
  rfl

end Burst

/-! ## How the schedule fails -/

section Overflow

variable [FloatOps F] {spec : RecurringSpec F} {maxInstant anchor : Instant} {s : RecurringLoop}
  {observed : TickObserved T E} {failures : Nat}

theorem pass_of_overflow {code : String} (asks : spec.asks maxInstant s observed = some failures)
    (failed : spec.targetAfter maxInstant anchor s observed = .error (.overflow code)) :
    (spec.pass maxInstant anchor s observed).next =
      .error (some (.failed (.recurring (.scheduleOverflow code))), [code]) := by
  have target : nextTarget spec.schedule maxInstant anchor s.tick s.scheduledAt observed.finishedAt
      s.observedMissedTicks (observed.resumeEpoch ≠ s.resumeEpoch) observed.targetNow =
        .error (.overflow code) := failed
  rw [pass_of_asks asks, RecurringSpec.advance]
  dsimp only
  rw [target]
  rfl

theorem not_panicked_cancelledExit {stop : Option StopCauseSummary} {source : PanicSource}
    {message : String} : (cancelledExit stop : TaskExit T E) ≠ .panicked source message := by
  rcases stop with _ | (reason | _) <;> simp [cancelledExit]

/-- Without jitter, a pass that has its target does not end in a panic. -/
theorem not_panicked_of_target {target : Instant} {missed : Nat} {exit : TaskExit T E}
    {logged : List String} (exact : spec.schedule.jitter = none)
    (asks : spec.asks maxInstant s observed = some failures)
    (found : spec.targetAfter maxInstant anchor s observed = .ok (some (target, missed)))
    (ends : (spec.pass maxInstant anchor s observed).next = .error (some exit, logged))
    (source : PanicSource) (message : String) : exit ≠ .panicked source message := by
  have target : nextTarget spec.schedule maxInstant anchor s.tick s.scheduledAt observed.finishedAt
      s.observedMissedTicks (observed.resumeEpoch ≠ s.resumeEpoch) observed.targetNow =
        .ok (some (target, missed)) := found
  rw [pass_of_asks asks, RecurringSpec.advance] at ends
  dsimp only at ends
  rw [target] at ends
  dsimp only at ends
  rw [RecurringSpec.plan, exact] at ends
  dsimp only at ends
  split at ends
  · obtain rfl := Option.some.inj (Prod.mk.inj (Except.error.inj ends)).1
    exact not_panicked_cancelledExit
  · split at ends
    · obtain rfl := Option.some.inj (Prod.mk.inj (Except.error.inj ends)).1
      simp
    · cases ends

end Overflow

/-! ## The results -/

section Results

variable [FloatOps F]

/-- **Main result.**  Under `Skip`, and without jitter or resume notifications, every tick is on
the grid and later than the one before; from the second one on, it is on the first point after
the instant that `next_target` reads.  Where that point, or a value on the way to it, cannot be
represented the run ends with an overflow of the schedule, and asking for it never panics. -/
theorem fixed_rate_skip_on_grid {spec : RecurringSpec F} {interval : Duration}
    (rate : spec.OnRate interval) (skip : spec.schedule.missedTickPolicy = .skip)
    (maxInstant anchor : Instant) (epoch : Nat) (ticks : List (TickObserved T E))
    (quiet : ∀ observed ∈ ticks, observed.Unresumed epoch)
    (timely : spec.Timely maxInstant anchor epoch ticks) :
    (∀ before observed s, ComesTo spec maxInstant anchor epoch ticks before observed s →
      ∃ m, s.scheduledAt = anchor + m * interval) ∧
    (∀ before middle observed observed' s after,
      ComesTo spec maxInstant anchor epoch ticks before observed s →
      ComesTo spec maxInstant anchor epoch ticks (before ++ middle) observed' after →
        s.LeadsTo after) ∧
    (∀ before observed observed' s after,
      ComesTo spec maxInstant anchor epoch ticks before observed s →
      ComesTo spec maxInstant anchor epoch ticks (before ++ [observed]) observed' after →
        after.tick ≠ s.tick →
          IsLeast (Grid.After anchor interval observed.targetNow) after.scheduledAt) ∧
    ∀ before observed s, ComesTo spec maxInstant anchor epoch ticks before observed s →
      (spec.asks maxInstant s observed).isSome →
        (Representable maxInstant anchor interval s.tick observed.targetNow →
          ∃ missed, spec.targetAfter maxInstant anchor s observed =
            .ok (some (Grid.next anchor interval observed.targetNow, missed))) ∧
        (¬ Representable maxInstant anchor interval s.tick observed.targetNow →
          ∃ code, (spec.runFrom maxInstant anchor (.first anchor epoch) ticks).exit =
            some (.failed (.recurring (.scheduleOverflow code)))) ∧
        ∀ exit logged, (spec.pass maxInstant anchor s observed).next = .error (some exit, logged) →
          ∀ source message, exit ≠ .panicked source message := by
  have stepped {before : List (TickObserved T E)} {observed : TickObserved T E}
      {s after : RecurringLoop}
      (comes : ComesTo spec maxInstant anchor epoch ticks before observed s)
      (step : (recurringLoop spec maxInstant anchor epoch).step s observed = some after) :
      s.LeadsTo after ∧ (after.tick ≠ s.tick →
        after.scheduledAt = Grid.next anchor interval observed.targetNow ∧
          after.scheduledAt ≤ maxInstant) := by
    obtain ⟨clock, grid, ordered⟩ := timely.onGrid rate skip quiet comes
    exact (grid.of_step rate skip (quiet observed comes.mem) ordered step).2
  refine ⟨?_, ?_, ?_, ?_⟩
  · intro before observed s comes
    obtain ⟨clock, grid, -⟩ := timely.onGrid rate skip quiet comes
    obtain ⟨m, -, point⟩ := grid.point
    exact ⟨m, point⟩
  · intro before middle observed observed' s after first second
    exact leadsTo_of_steps (fun comes step => (stepped comes step).1) first second
  · intro before observed observed' s after first second further
    rw [((stepped first (step_of_comesTo first second)).2 further).1]
    exact Grid.isLeast_next rate.positive _ _
  · intro before observed s comes asks
    obtain ⟨failures, asks⟩ := Option.isSome_iff_exists.1 asks
    obtain ⟨clock, grid, ordered⟩ := timely.onGrid rate skip quiet comes
    rcases grid.targetAfter rate skip (quiet observed comes.mem) ordered maxInstant with
      ⟨fits, missed, target⟩ | ⟨unfit, code, failed⟩
    · refine ⟨fun _ => ⟨missed, target⟩, fun unfit => absurd fits unfit, ?_⟩
      exact fun exit logged ends => not_panicked_of_target rate.exact asks target ends
    · have ends := pass_of_overflow asks failed
      obtain ⟨⟨rest, split⟩, run⟩ := comes
      refine ⟨fun fits => absurd fits unfit, fun _ => ⟨code, ?_⟩, ?_⟩
      · rw [split]
        exact (exit_of_exec run).trans (exit_of_pass ends)
      · intro exit logged same source message
        obtain rfl := Option.some.inj (Prod.mk.inj (Except.error.inj (ends.symm.trans same))).1
        simp

/-- A tick that takes until 25 is followed by the one at 30. -/
theorem fixed_rate_skip_on_grid_late : IsLeast (Grid.After 0 10 25) 30 := by
  have quiet : ∀ observed ∈ [nextTick 25 0, nextTick 31 0], observed.Unresumed 0 := by
    intro observed member
    rcases List.mem_pair.1 member with rfl | rfl <;> exact ⟨rfl, rfl⟩
  have timely : (everyTen .skip .continue).Timely 1000 0 0 [nextTick 25 0, nextTick 31 0] :=
    ⟨by decide, by decide, trivial⟩
  obtain ⟨-, -, least, -⟩ := fixed_rate_skip_on_grid (onRate_everyTen .skip .continue) rfl 1000 0 0
    [nextTick 25 0, nextTick 31 0] quiet timely
  exact least [] (nextTick 25 0) (nextTick 31 0) (.first 0 0) ⟨30, 2, 2, 0, [], 0⟩
    ⟨⟨[nextTick 31 0], rfl⟩, rfl⟩ ⟨⟨[], rfl⟩, rfl⟩ (by decide)

/-- **Main result.**  Under `Burst`, and without jitter or a resume policy, tick `k + 1` is
scheduled at point `k` of the grid, however late the ticks before it were and however often one
of them was restarted, and no number is left out.  A pass that asks for a point that can be
represented goes on to it, unless it is stopped, or its sleep would run past the last instant, or
the numbers are used up. -/
theorem fixed_rate_burst_exact {spec : RecurringSpec F} {interval : Duration}
    (rate : spec.OnRate interval) (burst : spec.schedule.missedTickPolicy = .burst)
    (continues : spec.schedule.resumePolicy = .continue) (maxInstant anchor : Instant)
    (epoch : Nat) (ticks : List (TickObserved T E)) :
    (∀ before observed s, ComesTo spec maxInstant anchor epoch ticks before observed s →
      ∀ k, s.tick = k + 1 → s.scheduledAt = anchor + k * interval) ∧
    (∀ before observed observed' s after,
      ComesTo spec maxInstant anchor epoch ticks before observed s →
      ComesTo spec maxInstant anchor epoch ticks (before ++ [observed]) observed' after →
        (∃ restarts, after = { s with restarts := restarts }) ∨ after.tick = s.tick + 1) ∧
    ∀ before observed s, ComesTo spec maxInstant anchor epoch ticks before observed s →
      (spec.asks maxInstant s observed).isSome → NominalFits maxInstant anchor interval s.tick →
        observed.pause.stop = none →
        observed.pause.at_ + (anchor + s.tick * interval - observed.delayNow) ≤ maxInstant →
        s.tick < Checked.u64Max →
          ∃ after, (recurringLoop spec maxInstant anchor epoch).step s observed = some after ∧
            after.tick = s.tick + 1 ∧ after.scheduledAt = anchor + s.tick * interval := by
  refine ⟨?_, ?_, ?_⟩
  · intro before observed s comes k tick
    obtain ⟨k', tick', at_⟩ := exact_of_exec rate burst continues comes
    obtain rfl : k' = k := Nat.succ.inj (tick'.symm.trans tick)
    exact at_
  · intro before observed observed' s after first second
    rcases exact_of_step rate burst continues (step_of_comesTo first second) with again | ⟨tick, -⟩
    · exact Or.inl again
    · exact Or.inr tick
  · intro before observed s comes asks nominal unstopped fits number
    obtain ⟨failures, asks⟩ := Option.isSome_iff_exists.1 asks
    have sleeps : spec.SleepsOut observed := fun runs => by
      rw [continues] at runs
      cases runs
    rcases rate.targetAfter_burst (not_resumes continues (by simp) _)
      ((missedPolicy_of_continue continues _).trans burst) maxInstant anchor with
      ⟨-, target⟩ | ⟨unfit, -⟩
    · exact step_of_target rate.exact sleeps asks target unstopped fits number
    · exact absurd nominal unfit

/-- The second tick takes until 45 and its restart until 50, and the third is put on 20. -/
theorem fixed_rate_burst_exact_late :
    ∃ s, ComesTo (everyTen .burst .continue) 1000 0 0
        [nextTick 45 0, tickAt 47 0 (.factoryPanicked "tick panic"), nextTick 50 0, nextTick 51 0]
        [nextTick 45 0, tickAt 47 0 (.factoryPanicked "tick panic"), nextTick 50 0]
        (nextTick 51 0) s ∧ s.scheduledAt = 20 := by
  obtain ⟨exact, -, -⟩ := fixed_rate_burst_exact (onRate_everyTen .burst .continue) rfl rfl 1000 0 0
    [nextTick 45 0, tickAt 47 0 (.factoryPanicked "tick panic"), nextTick 50 0, nextTick 51 0]
  have comes : ComesTo (everyTen .burst .continue) 1000 0 0
      [nextTick 45 0, tickAt 47 0 (.factoryPanicked "tick panic"), nextTick 50 0, nextTick 51 0]
      [nextTick 45 0, tickAt 47 0 (.factoryPanicked "tick panic"), nextTick 50 0]
      (nextTick 51 0) ⟨20, 3, 1, 0, [47], 0⟩ := ⟨⟨[], rfl⟩, rfl⟩
  exact ⟨_, comes, exact _ _ _ comes 2 rfl⟩

end Results

end BusyBeaver
