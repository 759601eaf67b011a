import Mathlib.Tactic.Common

/-!
# Execution states, exits and their redacted summaries

The data an execution reads and publishes (`src/execution.rs`, with the typed
failures of `src/retry.rs`, `src/recurring.rs` and `src/service.rs`).  Identifiers
are UUIDs in the source; here they are natural numbers, and "fresh" is a side
condition of the step that creates one.  Instants and durations are nanosecond
counts.
-/

namespace BusyBeaver

abbrev ExecutionId : Type := Nat
abbrev TaskSpecId : Type := Nat
abbrev Instant : Type := Nat

/-- Why cooperative cancellation was requested. -/
inductive CancelReason : Type
  | userRequested
  | executorShutdown
  | laneClosing
  | scopeCancelled
  | replaced
  | other (reason : String)
  deriving DecidableEq, Repr

/-- The first lifecycle stop cause accepted by an execution. -/
inductive StopCauseSummary : Type
  | cancel (reason : CancelReason)
  | deadline
  deriving DecidableEq, Repr

/-- Public execution state. -/
inductive TaskState : Type
  | queued
  | running (attempt : Nat)
  | sleeping (attempt : Nat) (wakeAt : Instant)
  | stopping (cause : StopCauseSummary)
  | completed
  | failed
  | cancelled
  | aborted
  | panicked
  | executorStopped
  deriving DecidableEq, Repr

/-- `TaskState::is_terminal`. -/
def TaskState.isTerminal : TaskState → Bool
  | .completed | .failed | .cancelled | .aborted | .panicked | .executorStopped => true
  | _ => false

/-- The states a body reports about itself: the only arguments the source ever
passes to `set_active_state`. -/
inductive ActiveState : Type
  | running (attempt : Nat)
  | sleeping (attempt : Nat) (wakeAt : Instant)
  deriving DecidableEq, Repr

def ActiveState.toTaskState : ActiveState → TaskState
  | .running attempt => .running attempt
  | .sleeping attempt wakeAt => .sleeping attempt wakeAt

@[simp] theorem ActiveState.isTerminal_toTaskState (next : ActiveState) :
    next.toTaskState.isTerminal = false := by
  cases next <;> rfl

/-- Source of a caught unwind. -/
inductive PanicSource : Type
  | factory
  | workFuture
  | child
  | schedule
  | restartPolicy
  | serviceBody
  | shutdownHook
  deriving DecidableEq, Repr

/-- Why an execution could not complete after its runtime disappeared. -/
inductive ExecutorStopReason : Type
  | runtimeUnavailable
  | runnerCancelled
  | internalInvariantViolation
  deriving DecidableEq, Repr

inductive RetryPolicyStage : Type
  | predicate
  | backoff
  deriving DecidableEq, Repr

/-- Typed retry-specific business failure. -/
inductive RetryFailure (E : Type) : Type
  | nonRetryable (error : E)
  | exhausted (lastError : E)
  | attemptTimedOut (attempt : Nat) (previousError : Option E) (mayHaveSideEffects : Bool)
  deriving DecidableEq, Repr

inductive RecurringFailure (E : Type) : Type
  | tickFailed (tick : Nat) (error : E)
  | consecutiveFailuresExceeded (tick : Nat) (error : E)
  | scheduleEnded
  | scheduleOverflow (code : String)
  | counterOverflow (counter : String)
  | restartLimitExceeded
  deriving DecidableEq, Repr

inductive ServiceFailure (E : Type) : Type
  | bodyFailed (generation : Nat) (error : E)
  | restartLimitExceeded (generation : Nat) (lastError : Option E)
  | generationOverflow
  | counterOverflow (code : String) (lastError : Option E)
  deriving DecidableEq, Repr

/-- Typed business failure. -/
inductive TaskFailure (E : Type) : Type
  | operation (error : E)
  | retry (failure : RetryFailure E)
  | recurring (failure : RecurringFailure E)
  | service (failure : ServiceFailure E)
  | deadlineExceeded (lastError : Option E)
  | policyPanicked (stage : RetryPolicyStage) (lastError : Option E)
  | childFailed
  | timerUnavailable
  deriving DecidableEq, Repr

/-- The unique terminal outcome of an execution. -/
inductive TaskExit (T E : Type) : Type
  | completed (value : T)
  | failed (failure : TaskFailure E)
  | cancelled (reason : CancelReason)
  | aborted (precedingStop : Option StopCauseSummary)
  | panicked (source : PanicSource) (message : String)
  | executorStopped (reason : ExecutorStopReason)
  deriving DecidableEq, Repr

/-- Redacted terminal information: no value, no error, no panic text. -/
inductive TaskExitSummary : Type
  | completed
  | failed
  | cancelled (reason : CancelReason)
  | aborted (precedingStop : Option StopCauseSummary)
  | panicked (source : PanicSource)
  | executorStopped (reason : ExecutorStopReason)
  deriving DecidableEq, Repr

/-- `TaskExit::summary`. -/
def TaskExit.summary {T E : Type} : TaskExit T E → TaskExitSummary
  | .completed _ => .completed
  | .failed _ => .failed
  | .cancelled reason => .cancelled reason
  | .aborted precedingStop => .aborted precedingStop
  | .panicked source _ => .panicked source
  | .executorStopped reason => .executorStopped reason

/-- `matches!(exit, TaskExit::Aborted { .. })`. -/
def TaskExit.isAborted {T E : Type} : TaskExit T E → Bool
  | .aborted _ => true
  | _ => false

/-- `matches!(exit, TaskExit::Failed(TaskFailure::DeadlineExceeded { .. }))`. -/
def TaskExit.isDeadlineExceeded {T E : Type} : TaskExit T E → Bool
  | .failed (.deadlineExceeded _) => true
  | _ => false

/-- The failure owns an error of the user's type, whose destructor is user code. -/
def TaskFailure.ownsError {E : Type} : TaskFailure E → Bool
  | .operation _ => true
  | .retry (.nonRetryable _) | .retry (.exhausted _) => true
  | .retry (.attemptTimedOut _ previousError _) => previousError.isSome
  | .recurring (.tickFailed _ _) | .recurring (.consecutiveFailuresExceeded _ _) => true
  | .recurring _ => false
  | .service (.bodyFailed _ _) => true
  | .service (.restartLimitExceeded _ lastError) | .service (.counterOverflow _ lastError) =>
    lastError.isSome
  | .service .generationOverflow => false
  | .deadlineExceeded lastError | .policyPanicked _ lastError => lastError.isSome
  | .childFailed | .timerUnavailable => false

/-- Dropping the exit runs a destructor of user code. -/
def TaskExit.ownsUserValue {T E : Type} : TaskExit T E → Bool
  | .completed _ => true
  | .failed failure => failure.ownsError
  | .cancelled _ | .aborted _ | .panicked _ _ | .executorStopped _ => false

/-- `TaskExitSummary::state`. -/
def TaskExitSummary.state : TaskExitSummary → TaskState
  | .completed => .completed
  | .failed => .failed
  | .cancelled _ => .cancelled
  | .aborted _ => .aborted
  | .panicked _ => .panicked
  | .executorStopped _ => .executorStopped

@[simp] theorem TaskExitSummary.isTerminal_state (summary : TaskExitSummary) :
    summary.state.isTerminal = true := by
  cases summary <;> rfl

/-- Result of submitting a cooperative cancellation request. -/
inductive CancelRequestOutcome : Type
  | requested
  | alreadyStopping
  | alreadyTerminal
  deriving DecidableEq, Repr

/-- The part of an execution guarded by its state mutex. -/
structure CoreState : Type where
  publicState : TaskState
  stopCause : Option StopCauseSummary
  terminal : Option TaskExitSummary
  deriving DecidableEq, Repr

/-- `ExecutionCore::new`: queued, not stopped, not terminal. -/
def CoreState.new : CoreState := ⟨.queued, none, none⟩

end BusyBeaver
