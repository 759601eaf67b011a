import BusyBeaver.Recurring.Passes
import BusyBeaver.Recurring.Policies
import BusyBeaver.Supervision.Ticks
import Mathlib.Data.List.Count

/-!
# How a recurring run counts

The two counters of the loop are read off the ticks that were run: the number of a tick is one
more than the ticks before it that did not panic, and the consecutive failures are those since
the last `Continue` (`counted`).
-/

namespace BusyBeaver

open Transition

variable {T E F : Type}

namespace TickRun

def panics : TickRun T E → Bool
  | .panicked _ _ => true
  | _ => false

def fails : TickRun T E → Bool
  | .failure _ => true
  | _ => false

def continues : TickRun T E → Bool
  | .outcome .continue => true
  | _ => false

end TickRun

/-- The number of the tick that follows these: a tick that panicked is run again. -/
def tickNumber (before : List (TickObserved T E)) : Nat :=
  1 + before.countP fun observed => !observed.future.run.panics

/-- The failures since the last tick that returned `Continue`. -/
def failuresSince (before : List (TickObserved T E)) : Nat :=
  (before.reverse.takeWhile fun observed => !observed.future.run.continues).countP
    fun observed => observed.future.run.fails

section Counters

variable {before : List (TickObserved T E)} {observed : TickObserved T E}

theorem tickNumber_snoc (before : List (TickObserved T E)) (observed : TickObserved T E) :
    tickNumber (before ++ [observed]) =
      tickNumber before + if observed.future.run.panics then 0 else 1 := by
  rw [tickNumber, tickNumber, List.countP_append, List.countP_singleton, ← Nat.add_assoc]
  cases observed.future.run.panics <;> rfl

theorem failuresSince_of_continues (continues : observed.future.run.continues = true) :
    failuresSince (before ++ [observed]) = 0 := by
  rw [failuresSince, List.reverse_append, List.reverse_singleton, List.singleton_append,
    List.takeWhile_cons_of_neg (by simp [continues]), List.countP_nil]

theorem failuresSince_of_not_continues (continues : observed.future.run.continues = false) :
    failuresSince (before ++ [observed]) =
      failuresSince before + if observed.future.run.fails then 1 else 0 := by
  rw [failuresSince, List.reverse_append, List.reverse_singleton, List.singleton_append,
    List.takeWhile_cons_of_pos (by simp [continues]), List.countP_cons, failuresSince]

end Counters

section Runs

variable [FloatOps F] {spec : RecurringSpec F} {maxInstant anchor : Instant} {epoch : Nat}
  {s after : RecurringLoop} {observed : TickObserved T E}
  {before rest ticks : List (TickObserved T E)}

/-- **Step lemma.** -/
theorem Returns.counters (plain : spec.operation = .tick)
    (returns : Returns spec maxInstant anchor s observed after)
    (number : s.tick = tickNumber before)
    (failures : s.consecutiveFailures = failuresSince before) :
    after.tick = tickNumber (before ++ [observed]) ∧
      after.consecutiveFailures = failuresSince (before ++ [observed]) := by
  rw [tickNumber_snoc, ← number]
  have ran : runTick spec.operation maxInstant observed = some observed.future.run := by
    rw [plain, runTick]
  cases returns with
  | restarted panicked admitted =>
    have run := Option.some.inj (ran.symm.trans panicked)
    have continues : observed.future.run.continues = false := by
      rw [run]
      rfl
    rw [failuresSince_of_not_continues continues, run, ← failures]
    exact ⟨rfl, rfl⟩
  | continued outcome advanced =>
    have run := Option.some.inj (ran.symm.trans outcome)
    have continues : observed.future.run.continues = true := by
      rw [run]
      rfl
    rw [failuresSince_of_continues continues, run]
    obtain ⟨target, missed, delay, due, epoch, at_, count, -, -, -, rfl⟩ := spec.of_advance advanced
    exact ⟨rfl, rfl⟩
  | failed failure within advanced =>
    have run := Option.some.inj (ran.symm.trans failure)
    have continues : observed.future.run.continues = false := by
      rw [run]
      rfl
    rw [failuresSince_of_not_continues continues, run, ← failures]
    obtain ⟨target, missed, delay, due, epoch, at_, count, -, -, -, rfl⟩ := spec.of_advance advanced
    refine ⟨rfl, ?_⟩
    unfold RecurringSpec.afterFailure at within
    split at within
    · cases within
    · split at within
      · cases within
      · rename_i counted
        obtain ⟨-, rfl⟩ := Checked.add_eq_some.1 counted
        split at within
        · cases within
        · split at within
          · cases within
          · exact (TickDecision.continued.inj within).symm

/-- **Run lemma.** -/
theorem counted (plain : spec.operation = .tick)
    (run : (recurringLoop spec maxInstant anchor epoch).exec
      (recurringLoop (T := T) (E := E) spec maxInstant anchor epoch).init before = some s) :
    s.tick = tickNumber before ∧ s.consecutiveFailures = failuresSince before := by
  refine System.exec_invariant (I := fun before s =>
    s.tick = tickNumber before ∧ s.consecutiveFailures = failuresSince before) ⟨rfl, rfl⟩ ?_ run
  intro before x y observed _ ih step
  exact (returns_of_step step).2.counters plain ih.1 ih.2

/-! ## How a run ends -/

/-- The exits that the results of the ticks decide. -/
def TaskExit.isDecided : TaskExit T E → Bool
  | .completed _ => true
  | .failed (.recurring (.tickFailed _ _)) => true
  | .failed (.recurring (.consecutiveFailuresExceeded _ _)) => true
  | .failed (.recurring (.counterOverflow counter)) => counter = "consecutive_failures"
  | _ => false

omit [FloatOps F] in
theorem isDecided_cancelledExit (stop : Option StopCauseSummary) :
    (cancelledExit stop : TaskExit T E).isDecided = false := by
  rcases stop with _ | (reason | _) <;> rfl

theorem isDecided_of_advance {exit : TaskExit T E} {logged : List String}
    (ends : spec.advance maxInstant anchor s observed = .error (exit, logged)) :
    exit.isDecided = false := by
  unfold RecurringSpec.advance at ends
  split at ends
  · rename_i error _
    obtain rfl := (Prod.mk.inj (Except.error.inj ends)).1
    cases error with
    | overflow code => rfl
    | panicked message =>
      dsimp only
      split <;> rfl
  · obtain rfl := (Prod.mk.inj (Except.error.inj ends)).1
    rfl
  · split at ends
    · obtain rfl := (Prod.mk.inj (Except.error.inj ends)).1
      rfl
    · split at ends
      · obtain rfl := (Prod.mk.inj (Except.error.inj ends)).1
        exact isDecided_cancelledExit _
      · split at ends
        · obtain rfl := (Prod.mk.inj (Except.error.inj ends)).1
          rfl
        · cases ends

/-- The exit that the result of a tick decides. -/
def RecurringSpec.decides (spec : RecurringSpec F) (s : RecurringLoop) :
    TickRun T E → Option (TaskExit T E)
  | .outcome (.stop value) => some (.completed value)
  | .failure error =>
    match spec.failurePolicy with
    | .stop => some (.failed (.recurring (.tickFailed s.tick error)))
    | .continue maxConsecutiveFailures _ =>
      if Checked.u32Max ≤ s.consecutiveFailures then
        some (.failed (.recurring (.counterOverflow "consecutive_failures")))
      else if maxConsecutiveFailures ≤ s.consecutiveFailures then
        some (.failed (.recurring (.consecutiveFailuresExceeded s.tick error)))
      else none
  | _ => none

omit [FloatOps F] in
theorem afterFailure_decides (spec : RecurringSpec F) (maxInstant : Instant) (s : RecurringLoop)
    (error : E) (pause : Pause) :
    (∀ exit, spec.decides s (.failure error : TickRun T E) = some exit →
      spec.afterFailure maxInstant s error pause = .exit exit) ∧
    ∀ exit : TaskExit T E, spec.afterFailure maxInstant s error pause = .exit exit →
      exit.isDecided = true → spec.decides s (.failure error : TickRun T E) = some exit := by
  unfold RecurringSpec.afterFailure RecurringSpec.decides
  dsimp only
  cases spec.failurePolicy with
  | stop =>
    refine ⟨fun exit same => ?_, fun exit same _ => ?_⟩
    · exact congrArg TickDecision.exit (Option.some.inj same)
    · exact congrArg some (TickDecision.exit.inj same)
  | «continue» maxConsecutiveFailures delay =>
    dsimp only
    by_cases full : Checked.u32Max ≤ s.consecutiveFailures
    · rw [if_pos full, Checked.add_eq_none.2 (Nat.lt_succ_of_le full)]
      refine ⟨fun exit same => ?_, fun exit same _ => ?_⟩
      · exact congrArg TickDecision.exit (Option.some.inj same)
      · exact congrArg some (TickDecision.exit.inj same)
    · rw [if_neg full, Checked.add_eq_some.2 ⟨Nat.lt_of_not_le full, rfl⟩]
      by_cases spent : maxConsecutiveFailures ≤ s.consecutiveFailures
      · have exceeded : maxConsecutiveFailures < s.consecutiveFailures + 1 := by omega
        dsimp only
        rw [if_pos spent, if_pos exceeded]
        refine ⟨fun exit same => ?_, fun exit same _ => ?_⟩
        · exact congrArg TickDecision.exit (Option.some.inj same)
        · exact congrArg some (TickDecision.exit.inj same)
      · rw [if_neg spent]
        have within : ¬ maxConsecutiveFailures < s.consecutiveFailures + 1 := by omega
        refine ⟨fun exit same => (by cases same), fun exit same decided => ?_⟩
        dsimp only at same
        rw [if_neg within] at same
        split at same
        · obtain rfl := TickDecision.exit.inj same
          rw [isDecided_cancelledExit] at decided
          cases decided
        · cases same

omit [FloatOps F] in
theorem isDecided_of_afterPanic {source : PanicSource} {message : String} {now : Instant}
    {pause : Pause}
    {exit : TaskExit T E}
    (ends : spec.afterPanic maxInstant s source message now pause = .exit exit) :
    exit.isDecided = false := by
  unfold RecurringSpec.afterPanic at ends
  split at ends
  · exact TickDecision.exit.inj ends ▸ rfl
  · dsimp only at ends
    split at ends
    · exact TickDecision.exit.inj ends ▸ rfl
    · split at ends
      · exact TickDecision.exit.inj ends ▸ isDecided_cancelledExit _
      · cases ends

omit [FloatOps F] in
/-- A plain tick hands over no exit of its own but for want of a timer or a runtime. -/
theorem isDecided_of_run {future : TickFuture T E} {exit : TaskExit (TickOutcome T) E}
    (ran : future.run = .exit exit) : (mapTickExit exit).isDecided = false := by
  unfold TickFuture.run at ran
  split at ran
  · cases ran
  · cases ran
  · cases ran
  · split at ran
    · exact TickRun.exit.inj ran ▸ rfl
    · cases ran
  · exact TickRun.exit.inj ran ▸ rfl

/-- A pass ends with an exit that the result of its tick decides, or with another one. -/
theorem pass_decides (plain : spec.operation = .tick) (unstopped : observed.stopBefore = none) :
    (∀ exit, spec.decides s observed.future.run = some exit →
      (spec.pass maxInstant anchor s observed).next = .error (some exit, [])) ∧
    ∀ exit logged, (spec.pass maxInstant anchor s observed).next = .error (some exit, logged) →
      exit.isDecided = true → spec.decides s observed.future.run = some exit := by
  have ran : runTick spec.operation maxInstant observed = some observed.future.run := by
    rw [plain, runTick]
  have undecided {loop : RecurringLoop} {exit : TaskExit T E} {logged : List String}
      (ends : (spec.advance maxInstant anchor loop observed).mapError
        (fun ended => (some ended.1, ended.2)) = .error (some exit, logged)) :
      exit.isDecided = false := by
    cases advanced : spec.advance maxInstant anchor loop observed with
    | ok next =>
      rw [advanced] at ends
      cases ends
    | error ended =>
      obtain ⟨exit', logged'⟩ := ended
      rw [advanced] at ends
      obtain ⟨same, -⟩ := Prod.mk.inj (Except.error.inj ends)
      obtain rfl := Option.some.inj same
      exact isDecided_of_advance advanced
  rw [RecurringSpec.pass, unstopped]
  dsimp only
  rw [ran]
  dsimp only
  cases result : observed.future.run with
  | outcome outcome =>
    cases outcome with
    | stop value =>
      refine ⟨fun exit same => ?_, fun exit logged same _ => ?_⟩
      · exact congrArg (fun exit => Except.error (some exit, [])) (Option.some.inj same)
      · exact (Prod.mk.inj (Except.error.inj same)).1
    | «continue» =>
      refine ⟨fun exit same => (by cases same), fun exit logged same decided => ?_⟩
      rw [undecided same] at decided
      cases decided
  | failure error =>
    obtain ⟨forth, back⟩ :=
      afterFailure_decides (T := T) spec maxInstant s error observed.failurePause
    refine ⟨fun exit same => ?_, fun exit logged same decided => ?_⟩
    · rw [RecurringSpec.decideTick, forth exit same]
    · rw [RecurringSpec.decideTick] at same
      cases after : spec.afterFailure (T := T) maxInstant s error observed.failurePause with
      | exit exit' =>
        rw [after] at same
        obtain rfl := Option.some.inj (Prod.mk.inj (Except.error.inj same)).1
        exact back _ after decided
      | schedule => exact absurd after not_schedule_of_afterFailure.1
      | continued failures =>
        rw [after] at same
        rw [undecided same] at decided
        cases decided
      | restarted restarts => exact absurd after (not_schedule_of_afterFailure.2 restarts)
  | exit exit' =>
    refine ⟨fun exit same => (by cases same), fun exit logged same decided => ?_⟩
    obtain rfl := Option.some.inj (Prod.mk.inj (Except.error.inj same)).1
    rw [isDecided_of_run result] at decided
    cases decided
  | panicked source message =>
    refine ⟨fun exit same => (by cases same), fun exit logged same decided => ?_⟩
    rw [RecurringSpec.decideTick] at same
    cases after : spec.afterPanic (T := T) (E := E) maxInstant s source message
      observed.restartNow observed.restartPause with
    | exit exit' =>
      rw [after] at same
      obtain rfl := Option.some.inj (Prod.mk.inj (Except.error.inj same)).1
      rw [isDecided_of_afterPanic after] at decided
      cases decided
    | schedule => exact absurd after not_schedule_of_afterPanic.1
    | continued failures => exact absurd after (not_schedule_of_afterPanic.2 failures)
    | restarted restarts =>
      rw [after] at same
      cases same

/-- As long as a run goes on, its consecutive failures are within the budget, and a `u32`. -/
theorem failures_le {maxConsecutiveFailures : Nat} {delay : Duration}
    (policy : spec.failurePolicy = .continue maxConsecutiveFailures delay)
    (run : (recurringLoop spec maxInstant anchor epoch).exec
      (recurringLoop (T := T) (E := E) spec maxInstant anchor epoch).init before = some s) :
    s.consecutiveFailures ≤ maxConsecutiveFailures ∧ s.consecutiveFailures ≤ Checked.u32Max := by
  refine System.exec_invariant (I := fun _ s => s.consecutiveFailures ≤ maxConsecutiveFailures ∧
    s.consecutiveFailures ≤ Checked.u32Max) ⟨Nat.zero_le _, Nat.zero_le _⟩ ?_ run
  intro before x y observed _ ih step
  cases (returns_of_step step).2 with
  | restarted panicked admitted => exact ih
  | continued outcome advanced =>
    obtain ⟨target, missed, delay, due, epoch, at_, count, -, -, -, rfl⟩ := spec.of_advance advanced
    exact ⟨Nat.zero_le _, Nat.zero_le _⟩
  | failed failure within advanced =>
    obtain ⟨target, missed, delay, due, epoch, at_, count, -, -, -, rfl⟩ := spec.of_advance advanced
    unfold RecurringSpec.afterFailure at within
    rw [policy] at within
    dsimp only at within
    split at within
    · cases within
    · split at within
      · cases within
      · rename_i failures counted inside
        obtain ⟨room, rfl⟩ := Checked.add_eq_some.1 counted
        split at within
        · cases within
        · exact TickDecision.continued.inj within ▸ ⟨Nat.le_of_not_lt inside, room⟩

omit [FloatOps F] in
theorem decides_completed {run : TickRun T E} {value : T} :
    spec.decides s run = some (.completed value) ↔ run = .outcome (.stop value) := by
  constructor
  · intro decides
    unfold RecurringSpec.decides at decides
    split at decides
    · obtain rfl := TaskExit.completed.inj (Option.some.inj decides)
      rfl
    · split at decides
      · cases decides
      · split at decides
        · cases decides
        · split at decides <;> cases decides
    · cases decides
  · rintro rfl
    rfl

omit [FloatOps F] in
theorem decides_tickFailed {run : TickRun T E} {tick : Nat} {error : E} :
    spec.decides s run = some (.failed (.recurring (.tickFailed tick error))) ↔
      run = .failure error ∧ tick = s.tick ∧ spec.failurePolicy = .stop := by
  constructor
  · intro decides
    unfold RecurringSpec.decides at decides
    split at decides
    · cases decides
    · split at decides
      · rename_i policy
        cases decides
        exact ⟨rfl, rfl, policy⟩
      · split at decides
        · cases decides
        · split at decides <;> cases decides
    · cases decides
  · rintro ⟨rfl, rfl, policy⟩
    rw [RecurringSpec.decides]
    rw [policy]

omit [FloatOps F] in
theorem decides_exceeded {run : TickRun T E} {tick : Nat} {error : E} :
    spec.decides s run = some (.failed (.recurring (.consecutiveFailuresExceeded tick error))) ↔
      run = .failure error ∧ tick = s.tick ∧ ∃ maxConsecutiveFailures delay,
        spec.failurePolicy = .continue maxConsecutiveFailures delay ∧
          s.consecutiveFailures < Checked.u32Max ∧
            maxConsecutiveFailures ≤ s.consecutiveFailures := by
  constructor
  · intro decides
    unfold RecurringSpec.decides at decides
    split at decides
    · cases decides
    · split at decides
      · cases decides
      · rename_i maxConsecutiveFailures delay policy
        split at decides
        · cases decides
        · rename_i room
          split at decides
          · rename_i spent
            cases decides
            exact ⟨rfl, rfl, maxConsecutiveFailures, delay, policy, Nat.lt_of_not_le room, spent⟩
          · cases decides
    · cases decides
  · rintro ⟨rfl, rfl, maxConsecutiveFailures, delay, policy, room, spent⟩
    rw [RecurringSpec.decides]
    rw [policy]
    dsimp only
    rw [if_neg (Nat.not_le.2 room), if_pos spent]

omit [FloatOps F] in
theorem decides_overflow {run : TickRun T E} :
    spec.decides s run =
        some (.failed (.recurring (.counterOverflow "consecutive_failures"))) ↔
      (∃ error, run = .failure error) ∧ ∃ maxConsecutiveFailures delay,
        spec.failurePolicy = .continue maxConsecutiveFailures delay ∧
          Checked.u32Max ≤ s.consecutiveFailures := by
  constructor
  · intro decides
    unfold RecurringSpec.decides at decides
    split at decides
    · cases decides
    · rename_i error
      split at decides
      · cases decides
      · rename_i maxConsecutiveFailures delay policy
        split at decides
        · rename_i full
          exact ⟨⟨error, rfl⟩, maxConsecutiveFailures, delay, policy, full⟩
        · split at decides <;> cases decides
    · cases decides
  · rintro ⟨⟨error, rfl⟩, maxConsecutiveFailures, delay, policy, full⟩
    rw [RecurringSpec.decides]
    rw [policy]
    dsimp only
    rw [if_pos full]

omit [FloatOps F] in
theorem failuresSince_of_failure {before : List (TickObserved T E)} {observed : TickObserved T E}
    {error : E} (failure : observed.future.run = .failure error) :
    failuresSince (before ++ [observed]) = failuresSince before + 1 := by
  have continues : observed.future.run.continues = false := by
    rw [failure]
    rfl
  rw [failuresSince_of_not_continues continues, failure]
  rfl

theorem exit_iff (plain : spec.operation = .tick)
    (unstopped : ∀ observed ∈ ticks, observed.stopBefore = none) {exit : TaskExit T E}
    (decided : exit.isDecided = true) :
    (spec.runFrom maxInstant anchor (.first anchor epoch) ticks).exit = some exit ↔
      ∃ before observed s, ComesTo spec maxInstant anchor epoch ticks before observed s ∧
        spec.decides s observed.future.run = some exit := by
  constructor
  · intro ended
    obtain ⟨before, observed, rest, s, logged, split, run, ends⟩ := ended_of_exit epoch ended
    have here : observed.stopBefore = none :=
      unstopped observed (split ▸ List.mem_append_right _ List.mem_cons_self)
    exact ⟨before, observed, s, ⟨⟨rest, split⟩, run⟩,
      (pass_decides plain here).2 exit logged ends decided⟩
  · rintro ⟨before, observed, s, ⟨⟨rest, rfl⟩, run⟩, decides⟩
    have here : observed.stopBefore = none :=
      unstopped observed (List.mem_append_right _ List.mem_cons_self)
    exact (exit_of_exec run).trans (exit_of_pass ((pass_decides plain here).1 exit decides))

end Runs

/-! ## The result -/

section Result

variable [FloatOps F]

/-- The policy for panics has run the tick again. -/
def RecurringSpec.Restarts (spec : RecurringSpec F) (maxInstant : Instant) (s : RecurringLoop)
    (observed : TickObserved T E) : Prop :=
  ∃ source message restarts, observed.future.run = .panicked source message ∧
    spec.afterPanic (T := T) (E := E) maxInstant s source message observed.restartNow
      observed.restartPause = .restarted restarts

/-- **Main result.**  A run of plain ticks that is not stopped numbers its ticks from 1, and a
number is repeated when its tick panicked and was restarted, and only then.  It completes at
the first `Stop`, fails at the first failure under `Stop`, and under `Continue` at the failure
that is one more than the budget since the last `Continue`, restarts aside; a budget of `u32::MAX`
is not exceeded but ends there with `CounterOverflow`.  And when a tick is over, no child of the
execution is left,
and none is admitted before the next one. -/
theorem recurring_semantics {spec : RecurringSpec F} (plain : spec.operation = .tick)
    (maxInstant anchor : Instant) (epoch : Nat) (ticks : List (TickObserved T E))
    (unstopped : ∀ observed ∈ ticks, observed.stopBefore = none) :
    (∀ before observed s, ComesTo spec maxInstant anchor epoch ticks before observed s →
      (spec.runFrom maxInstant anchor (.first anchor epoch) ticks).numbers[before.length]? =
        some (tickNumber before)) ∧
    (∀ i n m, (spec.runFrom maxInstant anchor (.first anchor epoch) ticks).numbers[i]? = some n →
      (spec.runFrom maxInstant anchor (.first anchor epoch) ticks).numbers[i + 1]? = some m →
        ∃ before observed s, ComesTo spec maxInstant anchor epoch ticks before observed s ∧
          before.length = i ∧ (m = n ∧ spec.Restarts maxInstant s observed ∨
            m = n + 1 ∧ observed.future.run.panics = false)) ∧
    (∀ value, (spec.runFrom maxInstant anchor (.first anchor epoch) ticks).exit =
        some (.completed value) ↔
      ∃ before observed s, ComesTo spec maxInstant anchor epoch ticks before observed s ∧
        observed.future.run = .outcome (.stop value)) ∧
    (∀ tick error, (spec.runFrom maxInstant anchor (.first anchor epoch) ticks).exit =
        some (.failed (.recurring (.tickFailed tick error))) ↔
      ∃ before observed s, ComesTo spec maxInstant anchor epoch ticks before observed s ∧
        observed.future.run = .failure error ∧ tick = tickNumber before ∧
          spec.failurePolicy = .stop) ∧
    (∀ tick error, (spec.runFrom maxInstant anchor (.first anchor epoch) ticks).exit =
        some (.failed (.recurring (.consecutiveFailuresExceeded tick error))) ↔
      ∃ before observed s, ComesTo spec maxInstant anchor epoch ticks before observed s ∧
        observed.future.run = .failure error ∧ tick = tickNumber before ∧
          ∃ maxConsecutiveFailures delay,
            spec.failurePolicy = .continue maxConsecutiveFailures delay ∧
              maxConsecutiveFailures < Checked.u32Max ∧
                failuresSince (before ++ [observed]) = maxConsecutiveFailures + 1) ∧
    ((spec.runFrom maxInstant anchor (.first anchor epoch) ticks).exit =
        some (.failed (.recurring (.counterOverflow "consecutive_failures"))) ↔
      ∃ before observed s, ComesTo spec maxInstant anchor epoch ticks before observed s ∧
        (∃ error, observed.future.run = .failure error) ∧ ∃ maxConsecutiveFailures delay,
          spec.failurePolicy = .continue maxConsecutiveFailures delay ∧
            Checked.u32Max ≤ maxConsecutiveFailures ∧
              failuresSince (before ++ [observed]) = Checked.u32Max + 1) ∧
    ∀ (abortPolicy : AbortPolicy) (maximumChildren : Nat) (state after : Supervised T E)
      (tick : Nat) (turn : Iteration) (choice : Choice T E),
      (supervision T E (.recurring .tick) abortPolicy maximumChildren).Reachable state →
        state.body = .running (.sleeping (.tick tick)) →
          state.step (.body choice) = some after → after.body = .running (.entering turn) →
            after.live = ∅ ∧ ∀ attempt available,
              after.spawnChild attempt available = .error .parentClosing := by
  have number {i n : Nat} :
      (spec.runFrom maxInstant anchor (.first anchor epoch) ticks).numbers[i]? = some n ↔
        i < ticks.length ∧ ∃ after, (recurringLoop spec maxInstant anchor epoch).exec
          (.first anchor epoch) (ticks.take i) = some after ∧ after.tick = n :=
    numbers_getElem? epoch unstopped
  refine ⟨?_, ?_, ?_, ?_, ?_, ?_, ?_⟩
  · rintro before observed s ⟨⟨rest, rfl⟩, run⟩
    refine number.2 ⟨by simp, s, ?_, (counted plain run).1⟩
    rw [List.take_left]
    exact run
  · intro i n m first second
    obtain ⟨-, s, run, rfl⟩ := number.1 first
    obtain ⟨inside, after, run', rfl⟩ := number.1 second
    have here : i < ticks.length := Nat.lt_of_succ_lt inside
    have split : ticks.take (i + 1) = ticks.take i ++ [ticks[i]] :=
      (List.take_concat_get' ticks i here).symm
    have last : ticks = ticks.take i ++ ticks[i] :: ticks.drop (i + 1) := by
      rw [List.cons_getElem_drop_succ, List.take_append_drop]
    rw [split, System.exec_append, run, Option.bind_some] at run'
    have step : (recurringLoop spec maxInstant anchor epoch).step s ticks[i] = some after := by
      simp only [System.exec] at run'
      split at run'
      · cases run'
      · rename_i next step
        exact step.trans run'
    refine ⟨ticks.take i, ticks[i], s, ⟨⟨_, last⟩, run⟩, ?_, ?_⟩
    · rw [List.length_take, Nat.min_eq_left (Nat.le_of_lt here)]
    have ran : runTick spec.operation maxInstant ticks[i] = some ticks[i].future.run := by
      rw [plain, runTick]
    cases (returns_of_step step).2 with
    | @restarted source message restarts panicked admitted =>
      exact Or.inl ⟨rfl, source, message, restarts, Option.some.inj (ran.symm.trans panicked),
        admitted⟩
    | continued outcome advanced =>
      obtain ⟨target, missed, delay, due, epoch, at_, count, -, -, -, rfl⟩ :=
        spec.of_advance advanced
      rw [Option.some.inj (ran.symm.trans outcome)]
      exact Or.inr ⟨rfl, rfl⟩
    | failed failure within advanced =>
      obtain ⟨target, missed, delay, due, epoch, at_, count, -, -, -, rfl⟩ :=
        spec.of_advance advanced
      rw [Option.some.inj (ran.symm.trans failure)]
      exact Or.inr ⟨rfl, rfl⟩
  · intro value
    rw [exit_iff plain unstopped rfl]
    simp only [decides_completed]
  · intro tick error
    rw [exit_iff plain unstopped rfl]
    simp only [decides_tickFailed]
    constructor
    · rintro ⟨before, observed, s, comes, failure, rfl, policy⟩
      exact ⟨before, observed, s, comes, failure, (counted plain comes.2).1, policy⟩
    · rintro ⟨before, observed, s, comes, failure, rfl, policy⟩
      exact ⟨before, observed, s, comes, failure, (counted plain comes.2).1.symm, policy⟩
  · intro tick error
    rw [exit_iff plain unstopped rfl]
    simp only [decides_exceeded]
    constructor
    · rintro ⟨before, observed, s, comes, failure, rfl, max, delay, policy, room, spent⟩
      obtain ⟨number, failures⟩ := counted plain comes.2
      have within := failures_le policy comes.2
      refine ⟨before, observed, s, comes, failure, number, max, delay, policy, by omega, ?_⟩
      rw [failuresSince_of_failure failure]
      omega
    · rintro ⟨before, observed, s, comes, failure, rfl, max, delay, policy, room, spent⟩
      obtain ⟨number, failures⟩ := counted plain comes.2
      rw [failuresSince_of_failure failure] at spent
      exact ⟨before, observed, s, comes, failure, number.symm, max, delay, policy, by omega,
        by omega⟩
  · rw [exit_iff plain unstopped rfl]
    simp only [decides_overflow]
    constructor
    · rintro ⟨before, observed, s, comes, ⟨error, failure⟩, max, delay, policy, full⟩
      obtain ⟨-, failures⟩ := counted plain comes.2
      have within := failures_le policy comes.2
      refine ⟨before, observed, s, comes, ⟨error, failure⟩, max, delay, policy, by omega, ?_⟩
      rw [failuresSince_of_failure failure]
      omega
    · rintro ⟨before, observed, s, comes, ⟨error, failure⟩, max, delay, policy, -, spent⟩
      obtain ⟨-, failures⟩ := counted plain comes.2
      rw [failuresSince_of_failure failure] at spent
      exact ⟨before, observed, s, comes, ⟨error, failure⟩, max, delay, policy, by omega⟩
  · intro abortPolicy maximumChildren state after tick turn choice reached here step there
    exact Supervised.children_between_ticks reached here step there

end Result

/-- A failure, a panic and a `Stop`, with room for one of each. -/
theorem recurring_semantics_restarted :
    (RecurringSpec.runFrom ⟨.tick, everySecond, .continue 1 0, .restart ⟨1, 60, 0⟩⟩ 9000000000 0
      (.first 0 0) [plainTick (.finished (.error 7)), plainTick (.factoryPanicked "tick panic"),
        plainTick (.finished (.ok (.stop 1)))]).exit = some (.completed 1) := by
  obtain ⟨-, -, completed, -⟩ := recurring_semantics (T := Nat) (E := Nat)
    (show (⟨.tick, everySecond, .continue 1 0, .restart ⟨1, 60, 0⟩⟩ : RecurringSpec Rat).operation =
      .tick from rfl) 9000000000 0 0
    [plainTick (.finished (.error 7)), plainTick (.factoryPanicked "tick panic"),
      plainTick (.finished (.ok (.stop 1)))] (by simp [plainTick])
  exact (completed 1).2
    ⟨[plainTick (.finished (.error 7)), plainTick (.factoryPanicked "tick panic")],
    plainTick (.finished (.ok (.stop 1))), _, ⟨⟨[], rfl⟩, rfl⟩, rfl⟩

/-! ### A budget of `u32::MAX` -/

/-- Every failure is continued, up to `u32::MAX` in a row. -/
def patient : RecurringSpec Rat :=
  ⟨.tick, everySecond, .continue Checked.u32Max 0, .stop⟩

def failingTick : TickObserved Nat Nat := plainTick (.finished (.error 7))

theorem step_patient {t : Instant} {k f : Nat} (room : f < Checked.u32Max)
    (number : k < Checked.u64Max) :
    (recurringLoop patient 9000000000 0 0).step ⟨t, k, 0, f, [], 0⟩ failingTick =
      some ⟨1000000000, k + 1, 0, f + 1, [], 0⟩ := by
  have counted : Checked.add Checked.u32Max f 1 = some (f + 1) :=
    Checked.add_eq_some.2 ⟨room, rfl⟩
  have numbered : Checked.add Checked.u64Max k 1 = some (k + 1) :=
    Checked.add_eq_some.2 ⟨number, rfl⟩
  have within : ¬ Checked.u32Max < f + 1 := Nat.not_lt.2 room
  have decided : patient.decideTick 9000000000 ⟨t, k, 0, f, [], 0⟩ failingTick (.failure 7) =
      .continued (f + 1) := by
    simp only [RecurringSpec.decideTick, RecurringSpec.afterFailure, patient, counted,
      if_neg within]
    rfl
  have advanced : patient.advance 9000000000 0 ⟨t, k, 0, f + 1, [], 0⟩ failingTick =
      .ok ⟨1000000000, k + 1, 0, f + 1, [], 0⟩ := by
    simp only [RecurringSpec.advance, numbered]
    rfl
  have unstopped : failingTick.stopBefore = none := rfl
  have ran : runTick patient.operation 9000000000 failingTick = some (.failure 7) := rfl
  refine step_recurringLoop.2 ?_
  simp only [RecurringSpec.pass, unstopped, ran, decided, advanced]
  rfl

theorem exec_patient {n : Nat} (room : n ≤ Checked.u32Max) :
    ∃ t, (recurringLoop patient 9000000000 0 0).exec
      (recurringLoop (T := Nat) (E := Nat) patient 9000000000 0 0).init
        (List.replicate n failingTick) = some ⟨t, n + 1, 0, n, [], 0⟩ := by
  induction n with
  | zero => exact ⟨0, rfl⟩
  | succ n ih =>
    obtain ⟨t, run⟩ := ih (Nat.le_of_succ_le room)
    refine ⟨1000000000, ?_⟩
    rw [List.replicate_succ']
    refine System.exec_snoc run (step_patient room ?_)
    exact Nat.lt_of_lt_of_le (Nat.succ_lt_succ room) (by decide)

/-- The failure that is one more than a budget of `u32::MAX` is reported as an overflow. -/
theorem exceeded_budget_overflows :
    ∃ ticks : List (TickObserved Nat Nat),
      (∀ observed ∈ ticks, observed.stopBefore = none ∧ observed.future.run = .failure 7) ∧
      failuresSince ticks = Checked.u32Max + 1 ∧
      (patient.runFrom 9000000000 0 (.first 0 0) ticks).exit =
        some (.failed (.recurring (.counterOverflow "consecutive_failures"))) := by
  obtain ⟨t, run⟩ := exec_patient (Nat.le_refl _)
  refine ⟨List.replicate Checked.u32Max failingTick ++ [failingTick], ?_, ?_, ?_⟩
  · intro observed member
    have same : observed = failingTick := by
      rcases List.mem_append.1 member with before | last
      · exact List.eq_of_mem_replicate before
      · exact List.mem_singleton.1 last
    exact same ▸ ⟨rfl, rfl⟩
  · have counts (n : Nat) : failuresSince (List.replicate n failingTick) = n := by
      induction n with
      | zero => rfl
      | succ n ih =>
        rw [List.replicate_succ', failuresSince_of_not_continues rfl, ih]
        rfl
    rw [← List.replicate_succ', counts]
  · have ends : (patient.pass 9000000000 0 ⟨t, Checked.u32Max + 1, 0, Checked.u32Max, [], 0⟩
        failingTick).next =
          .error (some (.failed (.recurring (.counterOverflow "consecutive_failures"))), []) := rfl
    exact (exit_of_exec run).trans (exit_of_pass ends)

end BusyBeaver
