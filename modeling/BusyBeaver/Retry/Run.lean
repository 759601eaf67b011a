import BusyBeaver.Lib.Checked
import BusyBeaver.Retry.Delay
import BusyBeaver.Supervision.State

/-!
# A typed retry

`RetryBuilder::build` and `run_retry` (`src/retry.rs`).  What one attempt meets is a
`RetryAttempt`: how its future ends, when it begins and pauses, what the predicate answers,
and the stop that is accepted in each part of it.  The loop is a function of these.

An attempt is judged after its stop has been looked at; the error of an attempt that is
retried is kept, and is what a deadline or a timeout reports.
-/

namespace BusyBeaver

open Iterators

/-! ## The builder -/

/-- What a builder holds besides the factory; of the predicate, whether there is one. -/
structure RetryBuilder (F : Type) : Type where
  predicate : Bool := false
  retryAllErrors : Bool := false
  maxAttempts : Nat := 1
  backoff : Backoff F := .none
  jitter : Option (Jitter F) := none
  attemptTimeout : Option Duration := none
  retryTimedOutAttempts : Bool := false
  deadline : Option Instant := none
  overallTimeout : Option Duration := none

inductive DeadlineConfig : Type
  | none
  | absolute (deadline : Instant)
  | overall (timeout : Duration)

structure RetrySpec (F : Type) : Type where
  predicate : Bool
  retryAllErrors : Bool
  maxAttempts : Nat
  delays : DelayPlan F
  attemptTimeout : Option Duration
  retryTimedOutAttempts : Bool
  deadline : DeadlineConfig

/-- `MAX_ATTEMPTS`. -/
def maxRetryAttempts : Nat := 1000000

namespace RetryBuilder

variable {F : Type}

/-- The clock cannot reach the end of the timeout. -/
def overflows (maxInstant now : Instant) (timeout : Option Duration) : Bool :=
  timeout.any fun timeout => (Checked.add maxInstant now timeout).isNone

/-- `build`, at the instant `now`. -/
def build [FloatOps F] (builder : RetryBuilder F) (maxInstant now : Instant) :
    Except RetryBuildError (RetrySpec F) :=
  if builder.maxAttempts = 0 then .error .invalidAttemptCount
  else if builder.maxAttempts > maxRetryAttempts then .error .attemptCountTooLarge
  else if builder.maxAttempts > 1 ∧ builder.predicate = false ∧ builder.retryAllErrors = false then
    .error .retryPolicyRequired
  else if builder.deadline.isSome ∧ builder.overallTimeout.isSome then .error .conflictingDeadline
  else if builder.attemptTimeout = some 0 then .error .zeroAttemptTimeout
  else if overflows maxInstant now builder.attemptTimeout then .error .durationOverflow
  else if overflows maxInstant now builder.overallTimeout then .error .durationOverflow
  else do
    let delays ← DelayPlan.build builder.backoff (builder.maxAttempts - 1) builder.jitter
    let deadline ←
      match builder.deadline, builder.overallTimeout with
      | some deadline, none => .ok (DeadlineConfig.absolute deadline)
      | none, some timeout => .ok (.overall timeout)
      | none, none => .ok .none
      | some _, some _ => .error .conflictingDeadline
    return {
      predicate := builder.predicate
      retryAllErrors := builder.retryAllErrors
      maxAttempts := builder.maxAttempts
      delays := delays
      attemptTimeout := builder.attemptTimeout
      retryTimedOutAttempts := builder.retryTimedOutAttempts
      deadline := deadline }

end RetryBuilder

/-- `deadline_at`; `none` when the clock cannot reach it. -/
def RetrySpec.deadlineAt {F : Type} (spec : RetrySpec F) (maxInstant acceptedAt : Instant) :
    Option (Option Instant) :=
  match spec.deadline with
  | .none => some none
  | .absolute deadline => some (some deadline)
  | .overall timeout => (Checked.add maxInstant acceptedAt timeout).map some

/-! ## One attempt -/

/-- How the future of an attempt, and the await on it, end. -/
inductive AttemptRun (T E : Type) : Type
  | factoryPanicked (message : String)
  | finished (result : Except E T)
  | panicked (message : String)
  /-- The runtime has dropped the task. -/
  | lost
  /-- The timer of `attempt_timeout` fires, or its end is not representable. -/
  | expired
  /-- The timer of the deadline fires. -/
  | deadline

inductive AttemptOutcome (T E : Type) : Type
  | completed (value : T)
  | failed (error : E)
  | timedOut
  | deadline
  | panicked (source : PanicSource) (message : String)
  | executorStopped
  | timerUnavailable
  deriving DecidableEq

variable {T E F : Type}

/-- A caught panic of an attempt. -/
def panickedOutcome (source : PanicSource) (message : String) : AttemptOutcome T E :=
  if isTimerUnavailableMessage message then .timerUnavailable else .panicked source message

/-- The factory, and `wait_attempt`. -/
def AttemptRun.outcome : AttemptRun T E → AttemptOutcome T E
  | .factoryPanicked message => panickedOutcome .factory message
  | .finished (.ok value) => .completed value
  | .finished (.error error) => .failed error
  | .panicked message => panickedOutcome .workFuture message
  | .lost => .executorStopped
  | .expired => .timedOut
  | .deadline => .deadline

/-- What one attempt meets. -/
structure RetryAttempt (T E : Type) : Type where
  startedAt : Instant
  /-- Stops accepted before the attempt, while its future runs, while its children end, and
  in the pause after it. -/
  stopBefore : Option StopCauseSummary
  stopDuring : Option StopCauseSummary
  stopClosing : Option StopCauseSummary
  stopPausing : Option StopCauseSummary
  run : AttemptRun T E
  /-- The answer of the predicate; `none` is a panic. -/
  verdict : Option Bool
  pausedAt : Instant

inductive RetryEvent : Type
  | started (number : Nat)
  | paused (delay : Duration)
  deriving DecidableEq, Repr

/-- `selected_stop_exit`. -/
def selectedStopExit (stop : Option StopCauseSummary) (lastError : Option E) :
    Option (TaskExit T E) :=
  match stop with
  | some (.cancel reason) => some (.cancelled reason)
  | some .deadline => some (.failed (.deadlineExceeded lastError))
  | none => none

/-- What is done with an attempt: its end, or one more after a pause. -/
inductive RetryVerdict (T E : Type) : Type
  | exit (exit : TaskExit T E)
  | again (previousError : Option E)
  /-- `BB-RETRY-PREDICATE-MISSING`. -/
  | predicateMissing

/-- The match on the outcome. -/
def judge (spec : RetrySpec F) (number : Nat) (previousError : Option E)
    (outcome : AttemptOutcome T E) (verdict : Option Bool) : RetryVerdict T E :=
  match outcome with
  | .completed value => .exit (.completed value)
  | .panicked source message => .exit (.panicked source message)
  | .executorStopped => .exit (.executorStopped .runtimeUnavailable)
  | .timerUnavailable => .exit (.failed .timerUnavailable)
  | .deadline => .exit (.failed (.deadlineExceeded previousError))
  | .timedOut =>
    if spec.retryTimedOutAttempts = false ∨ number = spec.maxAttempts then
      .exit (.failed (.retry (.attemptTimedOut number previousError true)))
    else .again previousError
  | .failed error =>
    if number = spec.maxAttempts then .exit (.failed (.retry (.exhausted error)))
    else if spec.retryAllErrors then .again (some error)
    else if spec.predicate = false then .predicateMissing
    else
      match verdict with
      | some false => .exit (.failed (.retry (.nonRetryable error)))
      | some true => .again (some error)
      | none => .exit (.failed (.policyPanicked .predicate (some error)))

/-- The stop cause once the children of the attempt are closed: the first one stays, and the
timer of the deadline marks it before the task is aborted. -/
def RetryAttempt.stop (attempt : RetryAttempt T E) : Option StopCauseSummary :=
  attempt.stopDuring.or
    ((match attempt.run with
      | .deadline => some StopCauseSummary.deadline
      | _ => none).or attempt.stopClosing)

/-! ## The loop -/

structure RetryLoop (F E : Type) : Type where
  number : Nat
  previousError : Option E
  delays : DelayIter F

/-- What a run shows; a run that is not over has no exit. -/
structure RetryRun (T E : Type) : Type where
  events : List RetryEvent
  exit : Option (TaskExit T E)
  logged : List String

namespace RetryRun

def ends (exit : TaskExit T E) : RetryRun T E := ⟨[], some exit, []⟩

/-- An internal error. -/
def breaks (code : String) : RetryRun T E :=
  ⟨[], some (.executorStopped .internalInvariantViolation), [code]⟩

def after (event : RetryEvent) (rest : RetryRun T E) : RetryRun T E :=
  { rest with events := event :: rest.events }

end RetryRun

/-- The pause after an attempt that is retried; `next` is the loop from there on. -/
def pauseAfter [FloatOps F] (maxInstant : Instant) (attempt : RetryAttempt T E)
    (previousError : Option E) (delays : DelayIter F)
    (next : DelayIter F → RetryRun T E) : RetryRun T E :=
  match delays.next with
  | none => .breaks "BB-RETRY-DELAY-MISSING"
  | some (.error _, _) => .breaks "BB-RETRY-DELAY-INVALID"
  | some (.ok delay, delays) =>
    if delay ≠ 0 ∧ Checked.add maxInstant attempt.pausedAt delay = none then
      match selectedStopExit attempt.stopPausing previousError with
      | some exit => .ends exit
      | none => .ends (.failed (.policyPanicked .backoff previousError))
    else
      match selectedStopExit attempt.stopPausing previousError with
      -- a stop interrupts the sleep, and is looked at after a yield
      | some exit => if delay = 0 then .after (.paused delay) (.ends exit) else .ends exit
      | none => .after (.paused delay) (next delays)

/-- `run_retry`, from the head of its loop on. -/
def retryFrom [FloatOps F] (spec : RetrySpec F) (maxInstant : Instant) (deadline : Option Instant) :
    RetryLoop F E → List (RetryAttempt T E) → RetryRun T E
  | s, attempts =>
    if spec.maxAttempts < s.number then .breaks "BB-RETRY-LOOP-FELL-THROUGH"
    else
      match attempts with
      | [] => ⟨[], none, []⟩
      | attempt :: attempts =>
        if deadline.any fun deadline => decide (deadline ≤ attempt.startedAt) then
          .ends (.failed (.deadlineExceeded s.previousError))
        else
          match selectedStopExit attempt.stopBefore s.previousError with
          | some exit => .ends exit
          | none =>
            .after (.started s.number)
              (match selectedStopExit attempt.stop s.previousError with
              | some exit => .ends exit
              | none =>
                match judge spec s.number s.previousError attempt.run.outcome attempt.verdict with
                | .exit exit => .ends exit
                | .predicateMissing => .breaks "BB-RETRY-PREDICATE-MISSING"
                | .again previousError =>
                  pauseAfter maxInstant attempt previousError s.delays fun delays =>
                    retryFrom spec maxInstant deadline ⟨s.number + 1, previousError, delays⟩
                      attempts)

/-- `run_retry`. -/
def runRetry [FloatOps F] (spec : RetrySpec F) (maxInstant : Instant) (deadline : Option Instant)
    (attempts : List (RetryAttempt T E)) : RetryRun T E :=
  retryFrom spec maxInstant deadline ⟨1, none, spec.delays.iter⟩ attempts

end BusyBeaver
