import BusyBeaver.Lib.Window
import BusyBeaver.Recurring.Rate
import BusyBeaver.Retry.Backoff

/-!
# What a sleep that fails is taken for

`work.sleep` has one error for a stop and for a duration that the clock cannot reach the end of.
Without a stop, a recurring run ends with its runner cancelled if and only if one of its sleeps
runs past the last instant, and a retry with a panic of its back-off likewise
(`sleep_cancelled_iff_stopped`).  The builders check only the initial delay, and that at another
instant.
-/

namespace BusyBeaver

open Transition Iterators

variable {T E F : Type}

/-! ## The statement -/

/-- No stop is accepted around the tick. -/
structure TickObserved.Unstopped (observed : TickObserved T E) : Prop where
  before : observed.stopBefore = none
  failing : observed.failurePause.stop = none
  restarting : observed.restartPause.stop = none
  pausing : observed.pause.stop = none

/-- The sleep after a failure that is within the budget ends at an instant. -/
def RecurringSpec.FailureFits (spec : RecurringSpec F) (maxInstant : Instant) (s : RecurringLoop)
    (pause : Pause) : Prop :=
  ∀ maxConsecutiveFailures delay, spec.failurePolicy = .continue maxConsecutiveFailures delay →
    s.consecutiveFailures < maxConsecutiveFailures → s.consecutiveFailures < Checked.u32Max →
      pause.at_ + delay ≤ maxInstant

/-- The back-off of a restart that is admitted ends at an instant. -/
def RecurringSpec.RestartFits (spec : RecurringSpec F) (maxInstant : Instant) (s : RecurringLoop)
    (now : Instant) (pause : Pause) : Prop :=
  ∀ policy, spec.panicPolicy = .restart policy →
    (Window.accept policy.window policy.maximumRestarts now s.restarts).isSome →
      pause.at_ + policy.backoff ≤ maxInstant

section Statement

variable [FloatOps F]

/-- The sleep that the policy for the outcome of a tick asks for, if any, ends at an instant. -/
def RecurringSpec.PolicyFits (spec : RecurringSpec F) (maxInstant : Instant) (s : RecurringLoop)
    (observed : TickObserved T E) : Prop :=
  match runTick spec.operation maxInstant observed with
  | some (.failure _) => spec.FailureFits maxInstant s observed.failurePause
  | some (.panicked _ _) => spec.RestartFits maxInstant s observed.restartNow observed.restartPause
  | _ => True

/-- The sleep until the next tick ends at an instant, or a resume notification comes before it
is begun. -/
def RecurringSpec.ScheduleFits (spec : RecurringSpec F) (maxInstant anchor : Instant)
    (s : RecurringLoop) (observed : TickObserved T E) : Prop :=
  ∀ target missed delay due,
    spec.targetAfter maxInstant anchor s observed = .ok (some (target, missed)) →
      spec.plan maxInstant s.tick target observed.delayNow = .ok (delay, due) →
        observed.pause.at_ + delay ≤ maxInstant ∨
          spec.schedule.resumePolicy = .runImmediately ∧ delay ≠ 0 ∧ observed.resumed.isSome

/-- The sleeps of a pass. -/
def RecurringSpec.SleepsFit (spec : RecurringSpec F) (maxInstant anchor : Instant)
    (s : RecurringLoop) (observed : TickObserved T E) : Prop :=
  spec.PolicyFits maxInstant s observed ∧
    ((spec.asks maxInstant s observed).isSome → spec.ScheduleFits maxInstant anchor s observed)

end Statement

/-! ## One pass -/

section Pass

variable {spec : RecurringSpec F} {maxInstant anchor now : Instant} {s : RecurringLoop}
  {observed : TickObserved T E} {pause : Pause} {duration : Duration}

/-- A sleep fails without a stop when it does not fit. -/
theorem sleep_of_unstopped (unstopped : pause.stop = none) (maxInstant : Instant)
    (duration : Duration) :
    (pause.at_ + duration ≤ maxInstant ∧ pause.sleep maxInstant duration = .ok ()) ∨
      (¬ pause.at_ + duration ≤ maxInstant ∧ pause.sleep maxInstant duration = .error none) := by
  by_cases fits : pause.at_ + duration ≤ maxInstant
  · exact Or.inl ⟨fits, Pause.sleep_eq_ok.2 ⟨unstopped, fits⟩⟩
  · exact Or.inr ⟨fits, Pause.sleep_eq_error.2 ⟨unstopped, Or.inr (Nat.lt_of_not_le fits)⟩⟩

theorem afterFailure_cancelled_iff {error : E} (unstopped : pause.stop = none) :
    spec.afterFailure (T := T) maxInstant s error pause =
        .exit (.executorStopped .runnerCancelled) ↔
      ¬ spec.FailureFits maxInstant s pause := by
  unfold RecurringSpec.afterFailure RecurringSpec.FailureFits
  cases spec.failurePolicy with
  | stop =>
    refine ⟨fun same => ?_, fun long => (long fun _ _ policy => ?_).elim⟩
    · cases same
    · cases policy
  | «continue» maxConsecutiveFailures delay =>
    dsimp only
    cases counted : Checked.add Checked.u32Max s.consecutiveFailures 1 with
    | none =>
      have full := Checked.add_eq_none.1 counted
      refine ⟨fun same => ?_, fun long => (long fun _ _ _ _ room => ?_).elim⟩
      · cases same
      · exact absurd room (by omega)
    | some failures =>
      obtain ⟨room, rfl⟩ := Checked.add_eq_some.1 counted
      dsimp only
      by_cases spent : maxConsecutiveFailures < s.consecutiveFailures + 1
      · rw [if_pos spent]
        refine ⟨fun same => ?_, fun long => (long fun _ _ policy within _ => ?_).elim⟩
        · cases same
        · obtain ⟨rfl, rfl⟩ := TickFailurePolicy.continue.inj policy
          exact absurd spent (Nat.not_lt.2 within)
      · rw [if_neg spent]
        rcases sleep_of_unstopped unstopped maxInstant delay with
          ⟨fits, slept⟩ | ⟨long, failed⟩
        · rw [slept]
          refine ⟨fun same => ?_, fun long => (long fun _ _ policy _ _ => ?_).elim⟩
          · cases same
          · obtain ⟨rfl, rfl⟩ := TickFailurePolicy.continue.inj policy
            exact fits
        · rw [failed]
          refine ⟨fun _ fits => long (fits _ _ rfl (Nat.not_lt.1 spent) room), fun _ => rfl⟩

theorem afterPanic_cancelled_iff {source : PanicSource} {message : String}
    (unstopped : pause.stop = none) :
    spec.afterPanic (T := T) (E := E) maxInstant s source message now pause =
        .exit (.executorStopped .runnerCancelled) ↔
      ¬ spec.RestartFits maxInstant s now pause := by
  unfold RecurringSpec.afterPanic RecurringSpec.RestartFits
  cases spec.panicPolicy with
  | stop =>
    refine ⟨fun same => ?_, fun long => (long fun _ policy => ?_).elim⟩
    · cases same
    · cases policy
  | restart policy =>
    dsimp only
    by_cases full : policy.maximumRestarts ≤ (s.restarts.dropWhile fun at_ =>
      decide (policy.window < now - at_)).length
    · rw [if_pos full]
      refine ⟨fun same => ?_, fun long => (long fun _ other admitted => ?_).elim⟩
      · cases same
      · obtain rfl := PanicPolicy.restart.inj other
        rw [Window.accept, Window.prune, if_pos full] at admitted
        cases admitted
    · rw [if_neg full]
      have admitted :
          (Window.accept policy.window policy.maximumRestarts now s.restarts).isSome := by
        rw [Window.accept, Window.prune, if_neg full]
        rfl
      rcases sleep_of_unstopped unstopped maxInstant policy.backoff with
        ⟨fits, slept⟩ | ⟨long, failed⟩
      · rw [slept]
        refine ⟨fun same => ?_, fun long => (long fun _ other _ => ?_).elim⟩
        · cases same
        · obtain rfl := PanicPolicy.restart.inj other
          exact fits
      · rw [failed]
        exact ⟨fun _ fits => long (fits _ rfl admitted), fun _ => rfl⟩

/-! ### The operation, and the schedule -/

variable [FloatOps F] {failures : Nat} {exit : TaskExit T E} {logged : List String}

/-- What a tick runs does not end with its runner cancelled. -/
theorem runTick_exit_ne {operation : TickOperation F} {exit : TaskExit (TickOutcome T) E}
    (ran : runTick operation maxInstant observed = some (.exit exit)) :
    mapTickExit exit ≠ .executorStopped .runnerCancelled := by
  unfold runTick at ran
  cases operation with
  | tick =>
    have own : observed.future.run = .exit exit := Option.some.inj ran
    unfold TickFuture.run at own
    split at own
    · cases own
    · cases own
    · cases own
    · split at own
      · cases own
        simp [mapTickExit]
      · cases own
    · cases own
      simp [mapTickExit]
  | retry retry =>
    dsimp only at ran
    split at ran
    · cases ran
      simp [mapTickExit]
    · rename_i deadline _
      have other : (runRetry retry maxInstant deadline observed.attempts).exit ≠
          some (.executorStopped .runnerCancelled) := retryFrom_ne_runnerCancelled _ _
      obtain ⟨inner, ended, same⟩ := Option.map_eq_some_iff.1 ran
      rw [ended] at other
      cases inner with
      | completed value => cases same
      | executorStopped reason =>
        cases same
        rw [mapTickExit]
        rintro ⟨⟩
        exact other rfl
      | _ =>
        cases same
        simp [mapTickExit]

theorem decideTick_cancelled_iff {tickRun : TickRun T E} (unstopped : observed.Unstopped)
    (ran : runTick spec.operation maxInstant observed = some tickRun) :
    spec.decideTick maxInstant s observed tickRun = .exit (.executorStopped .runnerCancelled) ↔
      ¬ spec.PolicyFits maxInstant s observed := by
  unfold RecurringSpec.PolicyFits
  rw [ran]
  cases tickRun with
  | outcome outcome => cases outcome <;> simp [RecurringSpec.decideTick]
  | failure error => exact afterFailure_cancelled_iff unstopped.failing
  | exit exit =>
    have other := runTick_exit_ne ran
    simpa [RecurringSpec.decideTick] using other
  | panicked source message => exact afterPanic_cancelled_iff unstopped.restarting

theorem targetExit_ne (error : TargetError) :
    (targetExit (T := T) (E := E) error).1 ≠ .executorStopped .runnerCancelled := by
  cases error with
  | overflow code => simp [targetExit]
  | panicked message =>
    rw [targetExit]
    dsimp only
    split <;> simp

omit [FloatOps F] in
/-- The await on the next tick fails without a stop when its sleep does not fit. -/
theorem await_of_unstopped (spec : RecurringSpec F) (unstopped : observed.pause.stop = none)
    (maxInstant : Instant) (delay : Duration) (due : Instant) (missed : Nat) :
    ((observed.pause.at_ + delay ≤ maxInstant ∨
        spec.schedule.resumePolicy = .runImmediately ∧ delay ≠ 0 ∧ observed.resumed.isSome) ∧
      ∃ next, spec.await maxInstant observed delay due missed = .ok next) ∨
    ¬ (observed.pause.at_ + delay ≤ maxInstant ∨
        spec.schedule.resumePolicy = .runImmediately ∧ delay ≠ 0 ∧ observed.resumed.isSome) ∧
      spec.await maxInstant observed delay due missed = .error none := by
  unfold RecurringSpec.await
  rcases sleep_of_unstopped unstopped maxInstant delay with
    ⟨fits, slept⟩ | ⟨long, failed⟩
  · refine Or.inl ⟨Or.inl fits, ?_⟩
    rw [slept]
    dsimp only [Except.map]
    split
    · split <;> exact ⟨_, rfl⟩
    · exact ⟨_, rfl⟩
  · rw [failed]
    dsimp only [Except.map]
    cases resumed : observed.resumed with
    | none =>
      refine Or.inr ⟨?_, ?_⟩
      · rintro (fits | ⟨_, _, came⟩)
        · exact long fits
        · cases came
      · split <;> rfl
    | some notification =>
      by_cases watches : spec.schedule.resumePolicy = .runImmediately ∧ delay ≠ 0
      · rw [if_pos watches]
        exact Or.inl ⟨Or.inr ⟨watches.1, watches.2, rfl⟩, _, rfl⟩
      · rw [if_neg watches]
        refine Or.inr ⟨?_, rfl⟩
        rintro (fits | ⟨policy, positive, _⟩)
        · exact long fits
        · exact watches ⟨policy, positive⟩

theorem advance_cancelled_iff (unstopped : observed.pause.stop = none) :
    (∃ logged, spec.advance (T := T) (E := E) maxInstant anchor s observed =
        .error (.executorStopped .runnerCancelled, logged)) ↔
      ¬ spec.ScheduleFits maxInstant anchor s observed := by
  unfold RecurringSpec.advance RecurringSpec.ScheduleFits RecurringSpec.targetAfter
  cases found : nextTarget spec.schedule maxInstant anchor s.tick s.scheduledAt observed.finishedAt
      s.observedMissedTicks (observed.resumeEpoch ≠ s.resumeEpoch) observed.targetNow with
  | error error =>
    refine ⟨fun ⟨logged, same⟩ => ?_, fun long => (long fun _ _ _ _ found => ?_).elim⟩
    · exact absurd (Prod.mk.inj (Except.error.inj same)).1 (targetExit_ne error)
    · cases found
  | ok next =>
    cases next with
    | none =>
      refine ⟨fun ⟨logged, same⟩ => ?_, fun long => (long fun _ _ _ _ found => ?_).elim⟩
      · cases same
      · cases found
    | some next =>
      obtain ⟨target, missed⟩ := next
      dsimp only
      cases planned : spec.plan maxInstant s.tick target observed.delayNow with
      | error message =>
        refine ⟨fun ⟨logged, same⟩ => ?_, fun long => (long fun _ _ _ _ found planned' => ?_).elim⟩
        · cases same
        · obtain ⟨rfl, -⟩ := Prod.mk.inj (Option.some.inj (Except.ok.inj found))
          cases planned.symm.trans planned'
      | ok slot =>
        obtain ⟨delay, due⟩ := slot
        dsimp only
        rcases await_of_unstopped spec unstopped maxInstant delay due missed with
          ⟨fits, next, awaited⟩ | ⟨long, awaited⟩
        · rw [awaited]
          dsimp only
          refine ⟨fun ⟨logged, same⟩ => ?_,
            fun long => (long fun _ _ _ _ found planned' => ?_).elim⟩
          · split at same <;> cases same
          · obtain ⟨rfl, -⟩ := Prod.mk.inj (Option.some.inj (Except.ok.inj found))
            obtain ⟨rfl, -⟩ := Prod.mk.inj (Except.ok.inj (planned.symm.trans planned'))
            exact fits
        · rw [awaited]
          exact ⟨fun _ all => long (all target missed delay due rfl planned), fun _ => ⟨[], rfl⟩⟩

/-- A pass that has come to its schedule. -/
theorem pass_cancelled_iff_of_asks (unstopped : observed.pause.stop = none)
    (asks : spec.asks maxInstant s observed = some failures) :
    (∃ logged, (spec.pass maxInstant anchor s observed).next =
        .error (some (.executorStopped .runnerCancelled), logged)) ↔
      ¬ spec.ScheduleFits maxInstant anchor s observed := by
  have own : spec.ScheduleFits maxInstant anchor { s with consecutiveFailures := failures }
      observed ↔ spec.ScheduleFits maxInstant anchor s observed := Iff.rfl
  rw [← own, ← advance_cancelled_iff unstopped, pass_of_asks asks]
  cases spec.advance (T := T) (E := E) maxInstant anchor
    { s with consecutiveFailures := failures } observed with
  | error ended =>
    obtain ⟨exit, logged⟩ := ended
    simp [Except.mapError]
  | ok after => simp [Except.mapError]

/-- **One pass.** -/
theorem pass_cancelled_iff (unstopped : observed.Unstopped) :
    (∃ logged, (spec.pass maxInstant anchor s observed).next =
        .error (some (.executorStopped .runnerCancelled), logged)) ↔
      ¬ spec.SleepsFit maxInstant anchor s observed := by
  rw [RecurringSpec.SleepsFit]
  cases ran : runTick spec.operation maxInstant observed with
  | none =>
    rw [RecurringSpec.pass, RecurringSpec.asks, RecurringSpec.PolicyFits, unstopped.before, ran]
    simp
  | some tickRun =>
    have policy := decideTick_cancelled_iff (s := s) unstopped ran
    have decided : ∀ {decision}, spec.decideTick maxInstant s observed tickRun = decision →
        (∀ failures, decision ≠ .schedule ∧ decision ≠ .continued failures) →
        (spec.asks maxInstant s observed).isSome = false := by
      intro decision decided other
      rw [RecurringSpec.asks, unstopped.before, ran]
      dsimp only
      rw [decided]
      cases decision with
      | schedule => exact absurd rfl (other 0).1
      | continued failures => exact absurd rfl (other failures).2
      | _ => rfl
    cases decides : spec.decideTick maxInstant s observed tickRun with
    | exit exit =>
      have silent := decided decides fun failures => ⟨by simp, by simp⟩
      rw [RecurringSpec.pass, unstopped.before, ran]
      dsimp only
      rw [decides] at policy ⊢
      rw [silent]
      simpa using policy
    | restarted restarts =>
      have silent := decided decides fun failures => ⟨by simp, by simp⟩
      rw [RecurringSpec.pass, unstopped.before, ran]
      dsimp only
      rw [decides] at policy ⊢
      rw [silent]
      simpa using policy
    | schedule =>
      have asks : spec.asks maxInstant s observed = some 0 := by
        rw [RecurringSpec.asks, unstopped.before, ran]
        dsimp only
        rw [decides]
      have fits : spec.PolicyFits maxInstant s observed := by
        by_contra long
        cases decides.symm.trans (policy.2 long)
      rw [pass_cancelled_iff_of_asks unstopped.pausing asks, asks]
      exact not_congr ⟨fun schedule => ⟨fits, fun _ => schedule⟩, fun both => both.2 rfl⟩
    | continued failures =>
      have asks : spec.asks maxInstant s observed = some failures := by
        rw [RecurringSpec.asks, unstopped.before, ran]
        dsimp only
        rw [decides]
      have fits : spec.PolicyFits maxInstant s observed := by
        by_contra long
        cases decides.symm.trans (policy.2 long)
      rw [pass_cancelled_iff_of_asks unstopped.pausing asks, asks]
      exact not_congr ⟨fun schedule => ⟨fits, fun _ => schedule⟩, fun both => both.2 rfl⟩

end Pass

/-! ## The runs -/

section Run

variable [FloatOps F] {spec : RecurringSpec F} {maxInstant anchor : Instant} {epoch : Nat}
  {ticks : List (TickObserved T E)} {initial : Pause}

theorem runFrom_cancelled_iff (epoch : Nat)
    (unstopped : ∀ observed ∈ ticks, observed.Unstopped) :
    (spec.runFrom maxInstant anchor (.first anchor epoch) ticks).exit =
        some (.executorStopped .runnerCancelled) ↔
      ∃ before observed s, ComesTo spec maxInstant anchor epoch ticks before observed s ∧
        ¬ spec.SleepsFit maxInstant anchor s observed := by
  constructor
  · intro ended
    obtain ⟨before, observed, rest, s, logged, split, run, ends⟩ := ended_of_exit epoch ended
    have comes : ComesTo spec maxInstant anchor epoch ticks before observed s :=
      ⟨⟨rest, split⟩, run⟩
    exact ⟨before, observed, s, comes,
      (pass_cancelled_iff (unstopped observed comes.mem)).1 ⟨logged, ends⟩⟩
  · rintro ⟨before, observed, s, comes, long⟩
    obtain ⟨logged, ends⟩ := (pass_cancelled_iff (unstopped observed comes.mem)).2 long
    obtain ⟨⟨rest, split⟩, run⟩ := comes
    rw [split]
    exact (exit_of_exec run).trans (exit_of_pass ends)

/-- The sleep before the first tick ends at an instant. -/
def RecurringSpec.InitialFits (spec : RecurringSpec F) (maxInstant : Instant) (initial : Pause) :
    Prop :=
  spec.schedule.initialDelay = 0 ∨ initial.at_ + spec.schedule.initialDelay ≤ maxInstant

theorem run_cancelled_iff (epoch : Nat) (still : initial.stop = none)
    (unstopped : ∀ observed ∈ ticks, observed.Unstopped) :
    (spec.run maxInstant initial anchor epoch ticks).exit ≠
        some (.executorStopped .runnerCancelled) ↔
      spec.InitialFits maxInstant initial ∧
        ∀ before observed s, ComesTo spec maxInstant anchor epoch ticks before observed s →
          spec.SleepsFit maxInstant anchor s observed := by
  rw [RecurringSpec.run, RecurringSpec.sleepInitially, RecurringSpec.InitialFits]
  have loop : (spec.runFrom maxInstant anchor (.first anchor epoch) ticks).exit ≠
        some (.executorStopped .runnerCancelled) ↔
      ∀ before observed s, ComesTo spec maxInstant anchor epoch ticks before observed s →
        spec.SleepsFit maxInstant anchor s observed := by
    rw [Ne, runFrom_cancelled_iff epoch unstopped]
    simp only [not_exists, not_and, not_not]
  by_cases none_ : spec.schedule.initialDelay = 0
  · rw [if_pos none_]
    simpa [none_] using loop
  · rw [if_neg none_]
    rcases sleep_of_unstopped still maxInstant spec.schedule.initialDelay with
      ⟨fits, slept⟩ | ⟨long, failed⟩
    · rw [slept]
      simpa [fits] using loop
    · rw [failed]
      simp [RecurringRun.ends, cancelledExit, none_, long]

end Run

/-! ## The result -/

/-- **Main result.**  Without a stop, a sleep is taken for cancelled if and only if its end is no
instant.  So a retry that was built does not blame its back-off if and only if, after every attempt
that it comes to retry, the delay of its plan fits; and a recurring run that was built does not
end with its runner cancelled if and only if the sleep before it and those of its passes fit. -/
theorem sleep_cancelled_iff_stopped [FloatOps F] :
    (∀ (pause : Pause) (maxInstant : Instant) (duration : Duration),
      ((∃ stop, pause.sleep maxInstant duration = .error stop) → pause.stop.isSome) ↔
        pause.stop.isSome ∨ pause.at_ + duration ≤ maxInstant) ∧
    (∀ (builder : RetryBuilder F) (spec : RetrySpec F) (maxInstant now : Instant),
      builder.build maxInstant now = .ok spec →
      ∃ delays : List Duration, delays.length + 1 = spec.maxAttempts ∧
        (planDelays F).collect spec.delays.iter = delays.map Except.ok ∧
        ∀ (deadline : Option Instant) (script : List (RetryAttempt T E)),
          (∀ attempt ∈ script, attempt.Unstopped) →
          ((∀ error, (runRetry spec maxInstant deadline script).exit ≠
              some (.failed (.policyPanicked .backoff error))) ↔
            ∀ n, (∀ i, i ≤ n → TriedAgain spec deadline script i) →
              BackoffFits maxInstant script delays n)) ∧
    ∀ (builder spec : RecurringSpec F) (maxInstant now : Instant),
      builder.build maxInstant now = .ok spec →
      ∀ (initial : Pause) (anchor : Instant) (epoch : Nat) (ticks : List (TickObserved T E)),
        initial.stop = none → (∀ observed ∈ ticks, observed.Unstopped) →
        ((spec.run maxInstant initial anchor epoch ticks).exit ≠
            some (.executorStopped .runnerCancelled) ↔
          spec.InitialFits maxInstant initial ∧
            ∀ before observed s, ComesTo spec maxInstant anchor epoch ticks before observed s →
              spec.SleepsFit maxInstant anchor s observed) := by
  refine ⟨?_, ?_, ?_⟩
  · intro pause maxInstant duration
    constructor
    · intro stopped
      by_cases fits : pause.at_ + duration ≤ maxInstant
      · exact Or.inr fits
      · exact Or.inl (stopped ⟨pause.stop,
          Pause.sleep_eq_error.2 ⟨rfl, Or.inr (Nat.lt_of_not_le fits)⟩⟩)
    · rintro holds ⟨stop, failed⟩
      obtain ⟨-, stopped | long⟩ := Pause.sleep_eq_error.1 failed
      · exact stopped
      · exact holds.resolve_right (Nat.not_le.2 long)
  · intro builder spec maxInstant now built
    obtain ⟨delays, length, items, blames⟩ := backoff_panics_iff (T := T) (E := E) built
    refine ⟨delays, length, items, fun deadline script unstopped => ?_⟩
    have negated := not_congr (blames deadline script unstopped)
    simpa only [not_exists, not_and, not_not] using negated
  · intro builder spec maxInstant now built initial anchor epoch ticks still unstopped
    exact run_cancelled_iff epoch still unstopped

/-- Ticks ten nanoseconds apart, the next one this much later after a failure. -/
def delayedFailure (delay : Duration) : RecurringSpec Rat :=
  ⟨.tick, ⟨0, .fixed 10 .fixedDelay, .skip, .continue, none⟩, .continue 1 delay, .stop⟩

/-- A tick that fails. -/
def failedTick (at_ : Instant) : TickObserved Nat Nat := tickAt at_ 0 (.finished (.error 7))

theorem failedTick_unstopped (at_ : Instant) : (failedTick at_).Unstopped where
  before := rfl
  failing := rfl
  restarting := rfl
  pausing := rfl

/-- A failure is slept for five nanoseconds. -/
theorem sleep_cancelled_iff_stopped_slept :
    ((delayedFailure 5).run 1000 ⟨0, none⟩ 0 0 [failedTick 20]).exit ≠
      some (.executorStopped .runnerCancelled) := by
  obtain ⟨-, -, recurring⟩ := sleep_cancelled_iff_stopped (T := Nat) (E := Nat) (F := Rat)
  have unstopped : ∀ observed ∈ [failedTick 20], observed.Unstopped := by
    intro observed member
    obtain rfl := List.mem_singleton.1 member
    exact failedTick_unstopped 20
  refine (recurring (delayedFailure 5) (delayedFailure 5) 1000 0 rfl ⟨0, none⟩ 0 0 [failedTick 20]
    rfl unstopped).2 ⟨Or.inl rfl, ?_⟩
  rintro before observed s ⟨⟨rest, split⟩, run⟩
  rcases before with _ | ⟨first, before⟩
  · obtain ⟨rfl, -⟩ := List.cons.inj split
    obtain rfl := Option.some.inj run
    refine ⟨?_, fun _ => ?_⟩
    · intro maxConsecutiveFailures delay policy _ _
      obtain ⟨-, rfl⟩ := TickFailurePolicy.continue.inj policy
      decide
    · intro target missed delay due found planned
      obtain ⟨rfl, -⟩ := Prod.mk.inj (Option.some.inj (Except.ok.inj found))
      obtain ⟨rfl, -⟩ := Prod.mk.inj (Except.ok.inj planned)
      exact Or.inl (by decide)
  · cases before <;> cases (List.cons.inj split).2

/-- Nothing is stopped: the first failure, or the first error of a retry, is followed by a sleep
past the last instant. -/
theorem endless_delay_cancelled :
    (∃ builder spec : RecurringSpec Rat, builder.build 1000 0 = .ok spec ∧
      (failedTick 20).Unstopped ∧
      (spec.run 1000 ⟨0, none⟩ 0 0 [failedTick 20]).exit =
        some (.executorStopped .runnerCancelled)) ∧
    ∃ (builder : RetryBuilder Rat) (spec : RetrySpec Rat), builder.build 1000 0 = .ok spec ∧
      (plainAttempt (.finished (.error 7))).Unstopped ∧
      (runRetry spec 1000 none [plainAttempt (.finished (.error 7))]).exit =
        some (.failed (.policyPanicked .backoff (some 7))) := by
  refine ⟨⟨delayedFailure 2000, _, rfl, failedTick_unstopped 20, rfl⟩, ?_⟩
  exact ⟨{ retryAllErrors := true, maxAttempts := 2, backoff := .fixed 2000 }, _, rfl,
    ⟨rfl, rfl, rfl, rfl⟩, rfl⟩

end BusyBeaver
