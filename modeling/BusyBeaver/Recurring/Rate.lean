import BusyBeaver.Recurring.Passes
import BusyBeaver.Retry.Loop
import BusyBeaver.Lib.Grid

/-!
# A fixed rate

What `next_target` answers for a plan of a fixed rate, on a clock that does not run backwards and
with sleeps that do not return early (`Ordered`, `timedLoop`).  Whatever the policies are, a
tick that is not missed is put on the nominal point of its number (`nextTarget_fixedRate`); where
missed points are skipped the target is the first one on the grid that is still ahead
(`missedTarget_skip`).
-/

namespace BusyBeaver

open Transition

variable {T E F : Type}

/-! ## The clock -/

/-- The instants that a tick reads are not before `now`, and in the order of the source. -/
structure TickObserved.Ordered (now : Instant) (observed : TickObserved T E) : Prop where
  restart : now ≤ observed.restartNow
  restartPause : observed.restartNow ≤ observed.restartPause.at_
  finished : now ≤ observed.finishedAt
  target : observed.finishedAt ≤ observed.targetNow
  delay : observed.targetNow ≤ observed.delayNow
  pause : observed.delayNow ≤ observed.pause.at_

instance {now : Instant} {observed : TickObserved T E} : Decidable (observed.Ordered now) :=
  decidable_of_iff (now ≤ observed.restartNow ∧ observed.restartNow ≤ observed.restartPause.at_ ∧
    now ≤ observed.finishedAt ∧ observed.finishedAt ≤ observed.targetNow ∧
      observed.targetNow ≤ observed.delayNow ∧ observed.delayNow ≤ observed.pause.at_)
    ⟨fun ⟨restart, restartPause, finished, target, delay, pause⟩ =>
      ⟨restart, restartPause, finished, target, delay, pause⟩,
      fun ordered => ⟨ordered.restart, ordered.restartPause, ordered.finished, ordered.target,
        ordered.delay, ordered.pause⟩⟩

/-- The loop, and an instant that the clock has reached at its head. -/
structure TimedLoop : Type where
  clock : Instant
  loop : RecurringLoop

/-- When the sleep at the end of a pass is over: not before the next tick is due. -/
def TickObserved.wakes (observed : TickObserved T E) (s after : RecurringLoop) : Instant :=
  if after.tick = s.tick then observed.restartPause.at_
  else max observed.pause.at_ after.scheduledAt

section Clock

variable [FloatOps F]

/-- The loop with its clock. -/
def timedLoop (spec : RecurringSpec F) (maxInstant anchor : Instant) (epoch : Nat) :
    System TimedLoop (TickObserved T E) where
  init := ⟨anchor, .first anchor epoch⟩
  step := fun s observed =>
    ((recurringLoop spec maxInstant anchor epoch).step s.loop observed).map fun after =>
      ⟨observed.wakes s.loop after, after⟩

/-- No clock reading of the run is before an earlier one, and no sleep returns early. -/
def RecurringSpec.Timely (spec : RecurringSpec F) (maxInstant anchor : Instant) (epoch : Nat)
    (ticks : List (TickObserved T E)) : Prop :=
  (timedLoop spec maxInstant anchor epoch).Meets (fun s observed => observed.Ordered s.clock)
    (timedLoop (T := T) (E := E) spec maxInstant anchor epoch).init ticks

variable {spec : RecurringSpec F} {maxInstant anchor : Instant} {epoch : Nat}
  {s after : RecurringLoop} {observed : TickObserved T E} {ticks before : List (TickObserved T E)}

theorem timedLoop_exec (clock : Instant)
    (run : (recurringLoop spec maxInstant anchor epoch).exec s before = some after) :
    ∃ clock', (timedLoop spec maxInstant anchor epoch).exec ⟨clock, s⟩ before =
      some ⟨clock', after⟩ := by
  induction before generalizing s clock with
  | nil =>
    obtain rfl := Option.some.inj run
    exact ⟨clock, rfl⟩
  | cons observed before ih =>
    simp only [System.exec] at run
    split at run
    · cases run
    · rename_i between step
      obtain ⟨clock', later⟩ := ih (observed.wakes s between) run
      refine ⟨clock', ?_⟩
      have timed : (timedLoop spec maxInstant anchor epoch).step ⟨clock, s⟩ observed =
          some ⟨observed.wakes s between, between⟩ := by
        change ((recurringLoop spec maxInstant anchor epoch).step s observed).map _ = _
        rw [step]
        rfl
      simp only [System.exec, timed]
      exact later

/-- **Invariant rule for a timely run.** -/
theorem RecurringSpec.Timely.invariant {I : Instant → RecurringLoop → Prop}
    (timely : spec.Timely maxInstant anchor epoch ticks) (start : I anchor (.first anchor epoch))
    (kept : ∀ {clock : Instant} {s after : RecurringLoop} {observed : TickObserved T E},
      observed ∈ ticks → I clock s → observed.Ordered clock →
        (recurringLoop spec maxInstant anchor epoch).step s observed = some after →
          I (observed.wakes s after) after)
    (comes : ComesTo spec maxInstant anchor epoch ticks before observed s) :
    ∃ clock, I clock s ∧ observed.Ordered clock := by
  obtain ⟨⟨rest, split⟩, run⟩ := comes
  obtain ⟨clock, timed⟩ := timedLoop_exec anchor run
  have part : before <+: ticks := ⟨observed :: rest, split.symm⟩
  have ordered {as : List (TickObserved T E)} {x : TimedLoop} {o : TickObserved T E}
      (run : (timedLoop spec maxInstant anchor epoch).exec ⟨anchor, .first anchor epoch⟩ as =
        some x)
      (part : as ++ [o] <+: ticks) : o.Ordered x.clock := by
    obtain ⟨rest, split⟩ := part
    rw [← split, List.append_assoc] at timely
    exact ((System.Meets.append run).1 timely).2.1
  refine ⟨clock, ?_, ordered timed ⟨rest, by simp [split]⟩⟩
  refine System.exec_invariant (I := fun as x => as <+: ticks → I x.clock x.loop)
    (fun _ => start) ?_ timed part
  intro as x y o run ih step part
  have earlier : as <+: ticks := (List.prefix_append as [o]).trans part
  obtain ⟨after, taken, rfl⟩ := Option.map_eq_some_iff.1 step
  exact kept (part.subset (List.mem_append_right _ (List.mem_singleton_self o))) (ih earlier)
    (ordered run part) taken

end Clock

/-! ## The target -/

/-- A plan of a fixed rate, without jitter. -/
structure RecurringSpec.OnRate (spec : RecurringSpec F) (interval : Duration) : Prop where
  plan : spec.schedule.plan = .fixed interval .fixedRate
  positive : 0 < interval
  exact : spec.schedule.jitter = none

/-- The nanoseconds that a `Duration` can hold. -/
def FitsDuration (nanos : Nat) : Prop := nanos ≤ u128Max ∧ nanos / 1000000000 ≤ Checked.u64Max

/-- The nominal point of a tick, and what is computed on the way to it. -/
structure NominalFits (maxInstant anchor : Instant) (interval : Duration) (tick : Nat) : Prop where
  elapsed : FitsDuration (interval * tick)
  target : anchor + interval * tick ≤ maxInstant

/-- The points that are skipped after a nominal one. -/
def skippedPoints (interval : Duration) (target now : Instant) : Nat :=
  (now - target) / interval + 1

/-- The point that is skipped to. -/
structure SkipFits (maxInstant : Instant) (interval : Duration) (target now : Instant) : Prop where
  count : skippedPoints interval target now ≤ Checked.u64Max
  advance : FitsDuration (interval * skippedPoints interval target now)
  target : target + interval * skippedPoints interval target now ≤ maxInstant

/-- The policy for a tick that was missed. -/
def Schedule.missedPolicy (schedule : Schedule F) (resumed : Bool) : MissedTickPolicy :=
  if resumed && schedule.resumePolicy = .skipMissed then .skip else schedule.missedTickPolicy

section Target

variable {spec : RecurringSpec F} {maxInstant anchor : Instant} {interval : Duration}
  {tick : Nat} {started finished now target : Instant} {missed : Nat} {resumed : Bool}

theorem orOverflow_bind {α β : Type} {code : String} {value : Option α}
    {f : α → Except TargetError β} :
    (orOverflow code value >>= f) =
      match value with
      | some value => f value
      | none => .error (.overflow code) := by
  cases value <;> rfl

/-- Skipping is exact, and fails with an overflow otherwise. -/
theorem missedTarget_skip (maxInstant : Instant) (interval : Duration)
    (finished target now : Instant) :
    (SkipFits maxInstant interval target now ∧
      missedTarget maxInstant interval .skip finished target now =
        .ok (some (target + interval * skippedPoints interval target now,
          skippedPoints interval target now))) ∨
    (¬ SkipFits maxInstant interval target now ∧
      ∃ code, missedTarget maxInstant interval .skip finished target now =
        .error (.overflow code)) := by
  simp only [missedTarget, orOverflow_bind]
  cases counted : Checked.add Checked.u64Max ((now - target) / interval) 1 with
  | none =>
    have large := Checked.add_eq_none.1 counted
    exact Or.inr ⟨fun fits => absurd fits.count (Nat.not_le.2 large), _, rfl⟩
  | some skipped =>
    obtain ⟨count, same⟩ := Checked.add_eq_some.1 counted
    obtain rfl : skipped = skippedPoints interval target now := same
    dsimp only
    by_cases product : interval * skippedPoints interval target now ≤ u128Max
    · rw [Checked.mul, if_pos product]
      dsimp only
      by_cases seconds :
          interval * skippedPoints interval target now / 1000000000 ≤ Checked.u64Max
      · rw [durationFromNanos, if_pos seconds]
        dsimp only
        by_cases instant : target + interval * skippedPoints interval target now ≤ maxInstant
        · rw [Checked.add, if_pos instant]
          exact Or.inl ⟨⟨count, ⟨product, seconds⟩, instant⟩, rfl⟩
        · rw [Checked.add, if_neg instant]
          exact Or.inr ⟨fun fits => instant fits.target, _, rfl⟩
      · rw [durationFromNanos, if_neg seconds]
        exact Or.inr ⟨fun fits => seconds fits.advance.2, _, rfl⟩
    · rw [Checked.mul, if_neg product]
      exact Or.inr ⟨fun fits => product fits.advance.1, _, rfl⟩

/-- The target of a fixed rate is the nominal point, unless that has passed. -/
theorem nextTarget_fixedRate {schedule : Schedule F}
    (plan : schedule.plan = .fixed interval .fixedRate) (positive : 0 < interval)
    (waits : (resumed && schedule.resumePolicy = .runImmediately) = false)
    (maxInstant anchor : Instant) (tick : Nat) :
    (NominalFits maxInstant anchor interval tick ∧
      nextTarget schedule maxInstant anchor tick started finished missed resumed now =
        if now < anchor + interval * tick then .ok (some (anchor + interval * tick, 0))
        else missedTarget maxInstant interval (schedule.missedPolicy resumed) finished
          (anchor + interval * tick) now) ∨
    (¬ NominalFits maxInstant anchor interval tick ∧
      ∃ code, nextTarget schedule maxInstant anchor tick started finished missed resumed now =
        .error (.overflow code)) := by
  rw [nextTarget, waits, plan]
  simp only [orOverflow_bind, Bool.false_eq_true, if_false, Nat.ne_of_gt positive]
  by_cases product : interval * tick ≤ u128Max
  · rw [Checked.mul, if_pos product]
    dsimp only
    by_cases seconds : interval * tick / 1000000000 ≤ Checked.u64Max
    · rw [durationFromNanos, if_pos seconds]
      dsimp only
      by_cases instant : anchor + interval * tick ≤ maxInstant
      · rw [Checked.add, if_pos instant]
        exact Or.inl ⟨⟨⟨product, seconds⟩, instant⟩, rfl⟩
      · rw [Checked.add, if_neg instant]
        exact Or.inr ⟨fun fits => instant fits.target, _, rfl⟩
    · rw [durationFromNanos, if_neg seconds]
      exact Or.inr ⟨fun fits => seconds fits.elapsed.2, _, rfl⟩
  · rw [Checked.mul, if_neg product]
    exact Or.inr ⟨fun fits => product fits.elapsed.1, _, rfl⟩

end Target

/-! ## The passes -/

/-- One head of the loop before another: they run the same tick, or the other one runs a later
tick, which is scheduled later. -/
def RecurringLoop.LeadsTo (s after : RecurringLoop) : Prop :=
  after.tick = s.tick ∧ after.scheduledAt = s.scheduledAt ∨
    s.tick < after.tick ∧ s.scheduledAt < after.scheduledAt

theorem RecurringLoop.LeadsTo.trans {s between after : RecurringLoop}
    (first : s.LeadsTo between) (second : between.LeadsTo after) : s.LeadsTo after := by
  rcases first with ⟨tick, at_⟩ | ⟨tick, at_⟩ <;> rcases second with ⟨tick', at'⟩ | ⟨tick', at'⟩
  · exact Or.inl ⟨tick'.trans tick, at'.trans at_⟩
  · exact Or.inr ⟨tick ▸ tick', at_ ▸ at'⟩
  · exact Or.inr ⟨tick' ▸ tick, at' ▸ at_⟩
  · exact Or.inr ⟨Nat.lt_trans tick tick', Nat.lt_trans at_ at'⟩

section Passes

variable [FloatOps F] {spec : RecurringSpec F} {maxInstant anchor clock : Instant} {epoch : Nat}
  {interval : Duration} {s after : RecurringLoop} {observed : TickObserved T E}
  {ticks : List (TickObserved T E)}

/-- What `next_target` is called with at the end of a pass. -/
def RecurringSpec.targetAfter (spec : RecurringSpec F) (maxInstant anchor : Instant)
    (s : RecurringLoop) (observed : TickObserved T E) :
    Except TargetError (Option (Instant × Nat)) :=
  nextTarget spec.schedule maxInstant anchor s.tick s.scheduledAt observed.finishedAt
    s.observedMissedTicks (observed.resumeEpoch ≠ s.resumeEpoch) observed.targetNow

/-- No resume notification ends the sleep before the next tick. -/
def RecurringSpec.SleepsOut (spec : RecurringSpec F) (observed : TickObserved T E) : Prop :=
  spec.schedule.resumePolicy = .runImmediately → observed.resumed = none

omit [FloatOps F] in
theorem await_of_sleepsOut {delay : Duration} {due : Instant} {missed : Nat}
    (sleeps : spec.SleepsOut observed) :
    spec.await maxInstant observed delay due missed =
      (observed.pause.sleep maxInstant delay).map fun _ => (observed.resumeEpoch, due, missed) := by
  unfold RecurringSpec.await
  split
  · rename_i waits
    rw [sleeps waits.1]
  · rfl

/-- A pass on a fixed rate that comes back runs its tick again, or goes on to the target. -/
theorem RecurringSpec.OnRate.returns (rate : spec.OnRate interval)
    (sleeps : spec.SleepsOut observed)
    (step : (recurringLoop spec maxInstant anchor epoch).step s observed = some after) :
    (∃ restarts, after = { s with restarts := restarts }) ∨
      (spec.asks maxInstant s observed).isSome ∧
      spec.targetAfter maxInstant anchor s observed =
        .ok (some (after.scheduledAt, after.observedMissedTicks)) ∧
      after.tick = s.tick + 1 ∧ after.resumeEpoch = observed.resumeEpoch := by
  rcases restarted_or_asked step with again | ⟨failures, asks, advanced⟩
  · exact Or.inl again
  · obtain ⟨target, missed, delay, due, epoch', at_, count, found, planned, awaited, rfl⟩ :=
      spec.of_advance advanced
    refine Or.inr ⟨Option.isSome_iff_exists.2 ⟨failures, asks⟩, ?_⟩
    rw [RecurringSpec.plan, rate.exact] at planned
    obtain ⟨rfl, rfl⟩ := Prod.mk.inj (Except.ok.inj planned)
    have same : (epoch', at_, count) = (observed.resumeEpoch, target, missed) := by
      rw [await_of_sleepsOut sleeps] at awaited
      cases slept : observed.pause.sleep maxInstant (target - observed.delayNow) with
      | error stop =>
        rw [slept] at awaited
        cases awaited
      | ok _ =>
        rw [slept] at awaited
        exact (Except.ok.inj awaited).symm
    obtain ⟨rfl, rest⟩ := Prod.mk.inj same
    obtain ⟨rfl, rfl⟩ := Prod.mk.inj rest
    exact ⟨found, rfl, rfl⟩

theorem TickObserved.Ordered.le_targetNow (ordered : observed.Ordered clock) :
    clock ≤ observed.targetNow :=
  Nat.le_trans ordered.finished ordered.target

theorem TickObserved.Ordered.le_wakes (ordered : observed.Ordered clock) :
    clock ≤ observed.wakes s after := by
  rw [TickObserved.wakes]
  split
  · exact Nat.le_trans ordered.restart ordered.restartPause
  · exact Nat.le_trans (Nat.le_trans ordered.le_targetNow
      (Nat.le_trans ordered.delay ordered.pause)) (Nat.le_max_left _ _)

theorem TickObserved.scheduledAt_le_wakes (other : after.tick ≠ s.tick) :
    after.scheduledAt ≤ observed.wakes s after := by
  rw [TickObserved.wakes, if_neg other]
  exact Nat.le_max_right _ _

/-- A tick is not run before it is due. -/
theorem RecurringSpec.Timely.reached {before : List (TickObserved T E)}
    (timely : spec.Timely maxInstant anchor epoch ticks)
    (comes : ComesTo spec maxInstant anchor epoch ticks before observed s) :
    s.scheduledAt ≤ observed.targetNow ∧ s.scheduledAt ≤ observed.finishedAt := by
  have held : ∃ clock : Instant, s.scheduledAt ≤ clock ∧ observed.Ordered clock := by
    refine timely.invariant (I := fun clock s => s.scheduledAt ≤ clock) (Nat.le_refl _) ?_ comes
    intro clock s after observed _ reached ordered step
    rcases restarted_or_next step with ⟨restarts, rfl⟩ | next
    · exact Nat.le_trans reached ordered.le_wakes
    · exact TickObserved.scheduledAt_le_wakes (next ▸ Nat.succ_ne_self _)
  obtain ⟨clock, reached, ordered⟩ := held
  exact ⟨Nat.le_trans reached ordered.le_targetNow, Nat.le_trans reached ordered.finished⟩

/-- **Run lemma.**  Heads in the order of a run lead to each other if each does to its next. -/
theorem leadsTo_of_steps {before middle : List (TickObserved T E)} {observed' : TickObserved T E}
    (steps : ∀ {before : List (TickObserved T E)} {observed : TickObserved T E}
      {s after : RecurringLoop}, ComesTo spec maxInstant anchor epoch ticks before observed s →
        (recurringLoop spec maxInstant anchor epoch).step s observed = some after →
          s.LeadsTo after)
    (first : ComesTo spec maxInstant anchor epoch ticks before observed s)
    (second : ComesTo spec maxInstant anchor epoch ticks (before ++ middle) observed' after) :
    s.LeadsTo after :=
  first.carries (R := fun _ x => s.LeadsTo x)
    (fun comes step leads => leads.trans (steps comes step)) second (Or.inl ⟨rfl, rfl⟩)

end Passes

/-! ## Ticks at an instant -/

/-- Every ten nanoseconds. -/
def everyTen (missed : MissedTickPolicy) (resume : ResumePolicy) : RecurringSpec Rat :=
  ⟨.tick, ⟨0, .fixed 10 .fixedRate, missed, resume, none⟩, .stop, .restart ⟨1, 60, 0⟩⟩

theorem onRate_everyTen (missed : MissedTickPolicy) (resume : ResumePolicy) :
    (everyTen missed resume).OnRate 10 where
  plan := rfl
  positive := Nat.succ_pos 9
  exact := rfl

/-- A tick that is over at this instant, when resume notifications have come up to this epoch. -/
def tickAt (at_ : Instant) (epoch : Nat) (future : TickFuture Nat Nat) : TickObserved Nat Nat where
  stopBefore := none
  future := future
  acceptedAt := at_
  attempts := []
  failurePause := ⟨at_, none⟩
  restartNow := at_
  restartPause := ⟨at_, none⟩
  finishedAt := at_
  resumeEpoch := epoch
  targetNow := at_
  delayNow := at_
  pause := ⟨at_, none⟩
  resumed := none

def nextTick (at_ : Instant) (epoch : Nat) : TickObserved Nat Nat :=
  tickAt at_ epoch (.finished (.ok .continue))

end BusyBeaver
