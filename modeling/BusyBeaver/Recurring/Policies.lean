import BusyBeaver.Recurring.Run
import BusyBeaver.Retry.Loop

/-!
# The policies of a tick, in its two forms

A tick of `RecurringBuilder::new` hands its failures and panics to the policies of the loop.
A tick of `from_retry` hands over the exit of its `run_retry`, and every exit but a success
ends the execution.  `from_retry_obeys_policies_iff` says when this makes no difference.
-/

namespace BusyBeaver

variable {T E F : Type}

/-! ## The statement -/

/-- The future of an attempt that does what the future of the tick does. -/
def TickFuture.attempt : TickFuture T E → AttemptRun (TickOutcome T) E
  | .factoryPanicked message => .factoryPanicked message
  | .finished result => .finished result
  | .panicked message => .panicked message
  | .lost => .lost

/-- The attempt of a retry meets what the tick meets, and nothing is stopped. -/
structure TickObserved.SameOperation (observed : TickObserved T E) : Prop where
  attempt : ∃ attempt rest, observed.attempts = attempt :: rest ∧
    attempt.run = observed.future.attempt ∧ attempt.stopBefore = none ∧
    attempt.stopDuring = none ∧ attempt.stopClosing = none
  before : observed.stopBefore = none
  failing : observed.failurePause.stop = none
  restarting : observed.restartPause.stop = none
  pausing : observed.pause.stop = none

/-- The same ticks, each continued and restarted alike, and an exit of the same kind. -/
def RecurringRun.Alike (run other : RecurringRun T E) : Prop :=
  run.events = other.events ∧ run.exit.map TaskExit.summary = other.exit.map TaskExit.summary

/-- The first tick that does not return `Continue`, if the schedule comes to it, does not
depend on a policy other than to stop, nor on the timer in its factory. -/
def RecurringSpec.Indifferent [FloatOps F] (spec : RecurringSpec F) (maxInstant anchor : Instant) :
    RecurringLoop → List (TickObserved T E) → Prop
  | _, [] => True
  | s, observed :: rest =>
    match observed.future with
    | .finished (.ok .continue) =>
      match spec.advance maxInstant anchor s observed with
      | .ok s => spec.Indifferent maxInstant anchor s rest
      | .error _ => True
    | .finished (.ok (.stop _)) => True
    | .finished (.error _) => spec.failurePolicy = .stop
    | .factoryPanicked message =>
      isTimerUnavailableMessage message = false ∧ spec.panicPolicy = .stop
    | .panicked message => isTimerUnavailableMessage message = true ∨ spec.panicPolicy = .stop
    | .lost => True

/-! ## What is built -/

section Build

variable [FloatOps F] {builder spec : RecurringSpec F} {maxInstant now : Instant}

theorem RecurringSpec.eq_of_build (built : builder.build maxInstant now = .ok spec) :
    spec = builder ∧ builder.failurePolicy.check = .ok () ∧ builder.panicPolicy.check = .ok () := by
  unfold RecurringSpec.build at built
  cases plan : builder.schedule.plan.check with
  | error error =>
    rw [plan] at built
    cases built
  | ok =>
    cases failure : builder.failurePolicy.check with
    | error error =>
      rw [plan, failure] at built
      cases built
    | ok =>
      cases panic : builder.panicPolicy.check with
      | error error =>
        rw [plan, failure, panic] at built
        cases built
      | ok =>
        rw [plan, failure, panic] at built
        cases jitter : builder.schedule.checkJitter with
        | error error =>
          rw [jitter] at built
          cases built
        | ok =>
          cases delay : builder.schedule.checkInitialDelay maxInstant now with
          | error error =>
            rw [jitter, delay] at built
            cases built
          | ok =>
            rw [jitter, delay] at built
            exact ⟨(Except.ok.inj built).symm, rfl, rfl⟩

end Build

/-! ## One attempt -/

/-- How a retry of one attempt exits. -/
def TickFuture.retryExit : TickFuture T E → TaskExit (TickOutcome T) E
  | .factoryPanicked message => panicExit .factory message
  | .finished (.ok value) => .completed value
  | .finished (.error error) => .failed (.retry (.exhausted error))
  | .panicked message => panicExit .workFuture message
  | .lost => .executorStopped .runtimeUnavailable

section Tick

variable [FloatOps F] {spec : RecurringSpec F} {retry : RetrySpec F} {maxInstant anchor : Instant}
  {observed : TickObserved T E} {s : RecurringLoop}

theorem runTick_retry (maxInstant : Instant) (single : retry.maxAttempts = 1)
    (endless : retry.deadline = .none) (same : observed.SameOperation) :
    runTick (.retry retry) maxInstant observed = some (.ofRetry observed.future.retryExit) := by
  obtain ⟨attempt, rest, attempts, run, before, during, closing⟩ := same.attempt
  have unmarked : attempt.stop = none := by
    rw [RetryAttempt.stop, run, during, closing]
    cases observed.future <;> rfl
  have judged : judge retry 1 none attempt.run.outcome attempt.verdict =
      .exit observed.future.retryExit := by
    rw [run]
    cases observed.future with
    | factoryPanicked message =>
      simp only [TickFuture.attempt, AttemptRun.outcome, panickedOutcome, TickFuture.retryExit,
        panicExit]
      split <;> rfl
    | panicked message =>
      simp only [TickFuture.attempt, AttemptRun.outcome, panickedOutcome, TickFuture.retryExit,
        panicExit]
      split <;> rfl
    | finished result =>
      cases result with
      | ok value => rfl
      | error error =>
        simp only [TickFuture.attempt, AttemptRun.outcome, judge, single, if_true]
        rfl
    | lost => rfl
  have exit : (runRetry retry maxInstant none observed.attempts).exit =
      some observed.future.retryExit := by
    rw [runRetry, attempts, retryFrom]
    simp only [single, lt_irrefl, if_false, Option.any_none, Bool.false_eq_true, before,
      selectedStopExit, unmarked, judged]
    rfl
  have accepted : retry.deadlineAt maxInstant observed.acceptedAt = some none := by
    rw [RetrySpec.deadlineAt, endless]
  simp only [runTick, accepted, exit, Option.map_some]

/-! ## The two loops -/

theorem RecurringRun.alike_after {event : RecurringEvent} {run other : RecurringRun T E} :
    (run.after event).Alike (other.after event) ↔ run.Alike other := by
  simp [RecurringRun.Alike, RecurringRun.after]

/-- A run that is continued or restarted is not alike one that has ended. -/
theorem RecurringRun.not_alike_ends {event : RecurringEvent} {run : RecurringRun T E}
    {exit : TaskExit T E} {logged : List String} :
    ¬ (run.after event).Alike (.ends exit logged) := by
  rintro ⟨events, -⟩
  cases events

theorem RecurringRun.alike_ends {exit other : TaskExit T E} {logged logged' : List String} :
    (RecurringRun.ends exit logged).Alike (.ends other logged') ↔ exit.summary = other.summary := by
  simp [RecurringRun.Alike, RecurringRun.ends]

theorem Pause.sleep_cases {pause : Pause} (unstopped : pause.stop = none) (duration : Duration) :
    pause.sleep maxInstant duration = .ok () ∨ pause.sleep maxInstant duration = .error none := by
  unfold Pause.sleep
  split
  · rw [unstopped]
    exact Or.inr rfl
  · exact Or.inl rfl

theorem RecurringSpec.kept_of_advance {observed : TickObserved T E} {next : RecurringLoop}
    (advanced : spec.advance maxInstant anchor s observed = .ok next) :
    next.consecutiveFailures = s.consecutiveFailures ∧ next.restarts = s.restarts := by
  unfold RecurringSpec.advance at advanced
  split at advanced
  · cases advanced
  · cases advanced
  · split at advanced
    · cases advanced
    · split at advanced
      · cases advanced
      · split at advanced
        · cases advanced
        · obtain rfl := Except.ok.inj advanced
          exact ⟨rfl, rfl⟩

omit [FloatOps F] in
/-- With a budget, the first failure is continued, or its sleep ends the execution. -/
theorem RecurringSpec.afterFailure_cases (budget : spec.failurePolicy.check = .ok ())
    (first : s.consecutiveFailures = 0) {pause : Pause} (unstopped : pause.stop = none)
    (error : E) :
    (spec.failurePolicy = .stop ∧ (spec.afterFailure maxInstant s error pause :
      TickDecision T E) = .exit (.failed (.recurring (.tickFailed s.tick error)))) ∨
    spec.failurePolicy ≠ .stop ∧
      ((spec.afterFailure maxInstant s error pause : TickDecision T E) = .continued 1 ∨
        (spec.afterFailure maxInstant s error pause : TickDecision T E) =
          .exit (.executorStopped .runnerCancelled)) := by
  unfold RecurringSpec.afterFailure
  cases policy : spec.failurePolicy with
  | stop => exact Or.inl ⟨rfl, rfl⟩
  | «continue» maxConsecutiveFailures delay =>
    rw [policy, TickFailurePolicy.check] at budget
    have positive : maxConsecutiveFailures ≠ 0 := by
      intro zero
      rw [if_pos zero] at budget
      cases budget
    have counted : Checked.add Checked.u32Max s.consecutiveFailures 1 = some 1 := by
      rw [first]
      rfl
    refine Or.inr ⟨by simp, ?_⟩
    simp only [counted]
    rw [if_neg (by omega)]
    rcases Pause.sleep_cases unstopped delay with slept | refused
    · rw [slept]
      exact Or.inl rfl
    · rw [refused]
      exact Or.inr rfl

omit [FloatOps F] in
/-- With a budget, the first panic is restarted, or its sleep ends the execution. -/
theorem RecurringSpec.afterPanic_cases (budget : spec.panicPolicy.check = .ok ())
    (first : s.restarts = []) {pause : Pause} (unstopped : pause.stop = none)
    (source : PanicSource) (message : String) (now : Instant) :
    (spec.panicPolicy = .stop ∧ (spec.afterPanic maxInstant s source message now pause :
      TickDecision T E) = .exit (.panicked source message)) ∨
    spec.panicPolicy ≠ .stop ∧
      ((∃ restarts, (spec.afterPanic maxInstant s source message now pause : TickDecision T E) =
          .restarted restarts) ∨
        (spec.afterPanic maxInstant s source message now pause : TickDecision T E) =
          .exit (.executorStopped .runnerCancelled)) := by
  unfold RecurringSpec.afterPanic
  cases policy : spec.panicPolicy with
  | stop => exact Or.inl ⟨rfl, rfl⟩
  | restart restart =>
    rw [policy, PanicPolicy.check] at budget
    have positive : restart.maximumRestarts ≠ 0 := by
      intro zero
      rw [if_pos zero] at budget
      cases budget
    refine Or.inr ⟨by simp, ?_⟩
    simp only [first, List.dropWhile_nil, List.length_nil, List.nil_append]
    rw [if_neg (by omega)]
    rcases Pause.sleep_cases unstopped restart.backoff with slept | refused
    · rw [slept]
      exact Or.inl ⟨_, rfl⟩
    · rw [refused]
      exact Or.inr rfl

theorem runFrom_alike_iff (maxInstant anchor : Instant) (factory : spec.operation = .tick)
    (failureBudget : spec.failurePolicy.check = .ok ())
    (panicBudget : spec.panicPolicy.check = .ok ()) (single : retry.maxAttempts = 1)
    (endless : retry.deadline = .none) (ticks : List (TickObserved T E))
    (same : ∀ observed ∈ ticks, observed.SameOperation) (failures : s.consecutiveFailures = 0)
    (restarts : s.restarts = []) :
    (spec.runFrom maxInstant anchor s ticks).Alike
        (RecurringSpec.runFrom { spec with operation := .retry retry } maxInstant anchor s ticks) ↔
      spec.Indifferent maxInstant anchor s ticks := by
  induction ticks generalizing s with
  | nil => exact ⟨fun _ => trivial, fun _ => ⟨rfl, rfl⟩⟩
  | cons observed rest ih =>
    have own := same observed List.mem_cons_self
    have ih := fun s => ih (s := s) fun other member => same other (List.mem_cons_of_mem _ member)
    have retried := runTick_retry maxInstant single endless own
    have ticked : runTick spec.operation maxInstant observed = some observed.future.run := by
      rw [factory, runTick]
    unfold RecurringSpec.runFrom RecurringSpec.Indifferent
    rw [own.before]
    simp only [retried, ticked]
    rw [RecurringRun.alike_after]
    have reset : { s with consecutiveFailures := 0 } = s := by
      rw [← failures]
    cases future : observed.future with
    | finished result =>
      cases result with
      | ok outcome =>
        cases outcome with
        | «continue» =>
          simp only [TickFuture.run, TickFuture.retryExit, TickRun.ofRetry,
            RecurringSpec.decideTick, reset]
          have shared : (RecurringSpec.advance { spec with operation := .retry retry } maxInstant
            anchor s observed : Except (TaskExit T E × List String) RecurringLoop) =
              spec.advance maxInstant anchor s observed := rfl
          rw [shared]
          cases advanced : spec.advance maxInstant anchor s observed with
          | error stopped => exact ⟨fun _ => trivial, fun _ => ⟨rfl, rfl⟩⟩
          | ok next =>
            obtain ⟨sameFailures, sameRestarts⟩ := RecurringSpec.kept_of_advance advanced
            exact ih next (sameFailures.trans failures) (sameRestarts.trans restarts)
        | stop value => exact ⟨fun _ => trivial, fun _ => ⟨rfl, rfl⟩⟩
      | error error =>
        simp only [TickFuture.run, TickFuture.retryExit, TickRun.ofRetry, RecurringSpec.decideTick,
          mapTickExit]
        rcases RecurringSpec.afterFailure_cases failureBudget failures own.failing error with
          ⟨stops, exits⟩ | ⟨goes, continued | refused⟩
        · rw [exits]
          exact ⟨fun _ => stops, fun _ => RecurringRun.alike_ends.2 rfl⟩
        · rw [continued]
          exact ⟨fun alike => absurd alike RecurringRun.not_alike_ends,
            fun stops => absurd stops goes⟩
        · rw [refused]
          refine ⟨fun alike => ?_, fun stops => absurd stops goes⟩
          cases RecurringRun.alike_ends.1 alike
    | factoryPanicked message =>
      simp only [TickFuture.run, TickFuture.retryExit, panicExit]
      cases timer : isTimerUnavailableMessage message with
      | true =>
        refine ⟨fun alike => ?_, fun indifferent => by cases indifferent.1⟩
        simp only [RecurringSpec.decideTick, TickRun.ofRetry, if_true, mapTickExit] at alike
        rcases RecurringSpec.afterPanic_cases panicBudget restarts own.restarting .factory message
          observed.restartNow with ⟨-, exits⟩ | ⟨-, ⟨restarts', restarted⟩ | refused⟩
        · rw [exits] at alike
          cases RecurringRun.alike_ends.1 alike
        · rw [restarted] at alike
          exact absurd alike RecurringRun.not_alike_ends
        · rw [refused] at alike
          cases RecurringRun.alike_ends.1 alike
      | false =>
        simp only [RecurringSpec.decideTick, TickRun.ofRetry, Bool.false_eq_true, if_false,
          mapTickExit, true_and]
        rcases RecurringSpec.afterPanic_cases panicBudget restarts own.restarting .factory message
          observed.restartNow with ⟨stops, exits⟩ | ⟨goes, ⟨restarts', restarted⟩ | refused⟩
        · rw [exits]
          exact ⟨fun _ => stops, fun _ => RecurringRun.alike_ends.2 rfl⟩
        · rw [restarted]
          exact ⟨fun alike => absurd alike RecurringRun.not_alike_ends,
            fun stops => absurd stops goes⟩
        · rw [refused]
          refine ⟨fun alike => ?_, fun stops => absurd stops goes⟩
          cases RecurringRun.alike_ends.1 alike
    | panicked message =>
      simp only [TickFuture.run, TickFuture.retryExit, panicExit]
      cases timer : isTimerUnavailableMessage message with
      | true => exact ⟨fun _ => Or.inl rfl, fun _ => ⟨rfl, rfl⟩⟩
      | false =>
        simp only [RecurringSpec.decideTick, TickRun.ofRetry, Bool.false_eq_true, if_false,
          mapTickExit, false_or]
        rcases RecurringSpec.afterPanic_cases panicBudget restarts own.restarting .workFuture
          message observed.restartNow with ⟨stops, exits⟩ | ⟨goes, ⟨restarts', restarted⟩ | refused⟩
        · rw [exits]
          exact ⟨fun _ => stops, fun _ => RecurringRun.alike_ends.2 rfl⟩
        · rw [restarted]
          exact ⟨fun alike => absurd alike RecurringRun.not_alike_ends,
            fun stops => absurd stops goes⟩
        · rw [refused]
          refine ⟨fun alike => ?_, fun stops => absurd stops goes⟩
          cases RecurringRun.alike_ends.1 alike
    | lost => exact ⟨fun _ => trivial, fun _ => ⟨rfl, rfl⟩⟩

end Tick

section Forms

variable [FloatOps F] {schedule : Schedule F} {failurePolicy : TickFailurePolicy}
  {panicPolicy : PanicPolicy} {retry : RetrySpec F} {spec retrySpec : RecurringSpec F}
  {maxInstant now : Instant}

/-- **The two forms of a recurrence.**  Over the same operation, in one attempt without a
deadline, they run alike exactly when no policy is called upon other than to stop. -/
theorem from_retry_obeys_policies_iff
    (built : RecurringSpec.build ⟨.tick, schedule, failurePolicy, panicPolicy⟩ maxInstant now =
      .ok spec)
    (builtRetry : RecurringSpec.build ⟨.retry retry, schedule, failurePolicy, panicPolicy⟩
      maxInstant now = .ok retrySpec)
    (single : retry.maxAttempts = 1) (endless : retry.deadline = .none)
    (ticks : List (TickObserved T E)) (same : ∀ observed ∈ ticks, observed.SameOperation)
    (initial : Pause) (anchor : Instant) (resumeEpoch : Nat) :
    (spec.run maxInstant initial anchor resumeEpoch ticks).Alike
        (retrySpec.run maxInstant initial anchor resumeEpoch ticks) ↔
      (spec.sleepInitially maxInstant initial = .ok () →
        spec.Indifferent maxInstant anchor (.first anchor resumeEpoch) ticks) := by
  obtain ⟨rfl, failureBudget, panicBudget⟩ := RecurringSpec.eq_of_build built
  obtain ⟨rfl, -, -⟩ := RecurringSpec.eq_of_build builtRetry
  unfold RecurringSpec.run
  have shared : RecurringSpec.sleepInitially ⟨.retry retry, schedule, failurePolicy, panicPolicy⟩
      maxInstant initial = RecurringSpec.sleepInitially
        ⟨.tick, schedule, failurePolicy, panicPolicy⟩ maxInstant initial := rfl
  rw [shared]
  cases slept : RecurringSpec.sleepInitially ⟨.tick, schedule, failurePolicy, panicPolicy⟩
      maxInstant initial with
  | error stop => exact ⟨fun _ absurd => (by cases absurd), fun _ => ⟨rfl, rfl⟩⟩
  | ok =>
    have alike_iff := runFrom_alike_iff (s := .first anchor resumeEpoch) maxInstant anchor rfl
      failureBudget panicBudget single endless ticks same rfl rfl
    exact ⟨fun alike _ => alike_iff.1 alike, fun indifferent => alike_iff.2 (indifferent rfl)⟩

end Forms

/-! ### A failing tick -/

/-- One attempt. -/
def oneAttempt : RetrySpec Rat where
  predicate := false
  retryAllErrors := false
  maxAttempts := 1
  delays := ⟨.zero, none, none, 0⟩
  attemptTimeout := none
  retryTimedOutAttempts := false
  deadline := .none

def everySecond : Schedule Rat where
  initialDelay := 0
  plan := .fixed 1000000000 .fixedDelay
  missedTickPolicy := .skip
  resumePolicy := .continue
  jitter := none

/-- A tick at the origin of time, and an attempt that does the same. -/
def plainTick (future : TickFuture Nat Nat) : TickObserved Nat Nat where
  stopBefore := none
  future := future
  acceptedAt := 0
  attempts := [⟨0, none, none, none, none, future.attempt, none, 0⟩]
  failurePause := ⟨0, none⟩
  restartNow := 0
  restartPause := ⟨0, none⟩
  finishedAt := 0
  resumeEpoch := 0
  targetNow := 0
  delayNow := 0
  pause := ⟨0, none⟩
  resumed := none

theorem plainTick_sameOperation (future : TickFuture Nat Nat) :
    (plainTick future).SameOperation where
  attempt := ⟨_, [], rfl, rfl, rfl, rfl, rfl⟩
  before := rfl
  failing := rfl
  restarting := rfl
  pausing := rfl

/-- Where a failure stops the recurrence, the two forms fail in the same tick. -/
theorem from_retry_obeys_policies_stop :
    (RecurringSpec.run ⟨.tick, everySecond, .stop, .stop⟩ 9000000000 ⟨0, none⟩ 0 0
      [plainTick (.finished (.ok .continue)), plainTick (.finished (.error 7))]).Alike
    (RecurringSpec.run ⟨.retry oneAttempt, everySecond, .stop, .stop⟩ 9000000000 ⟨0, none⟩ 0 0
      [plainTick (.finished (.ok .continue)), plainTick (.finished (.error 7))]) := by
  have built : RecurringSpec.build ⟨.tick, everySecond, .stop, .stop⟩ 9000000000 0 =
    .ok ⟨.tick, everySecond, .stop, .stop⟩ := rfl
  have builtRetry : RecurringSpec.build ⟨.retry oneAttempt, everySecond, .stop, .stop⟩
    9000000000 0 = .ok ⟨.retry oneAttempt, everySecond, .stop, .stop⟩ := rfl
  refine (from_retry_obeys_policies_iff built builtRetry rfl rfl _ ?_ _ _ _).2 ?_
  · intro observed member
    rcases List.mem_pair.1 member with rfl | rfl <;> exact plainTick_sameOperation _
  · exact fun _ => rfl

/-- Where three failures may be continued, the retry form ends with the first. -/
theorem from_retry_drops_failure_policy :
    ∃ (spec retrySpec : RecurringSpec Rat) (ticks : List (TickObserved Nat Nat)),
      RecurringSpec.build ⟨.tick, everySecond, .continue 3 0, .stop⟩ 9000000000 0 = .ok spec ∧
      RecurringSpec.build ⟨.retry oneAttempt, everySecond, .continue 3 0, .stop⟩ 9000000000 0 =
        .ok retrySpec ∧
      (∀ observed ∈ ticks, observed.SameOperation) ∧
      ¬ (spec.run 9000000000 ⟨0, none⟩ 0 0 ticks).Alike
        (retrySpec.run 9000000000 ⟨0, none⟩ 0 0 ticks) := by
  refine ⟨_, _, [plainTick (.finished (.error 7)), plainTick (.finished (.ok (.stop 1)))], rfl, rfl,
    ?_, ?_⟩
  · intro observed member
    rcases List.mem_pair.1 member with rfl | rfl <;> exact plainTick_sameOperation _
  · rintro ⟨events, -⟩
    cases events

end BusyBeaver
