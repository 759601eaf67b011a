import BusyBeaver.Lib.Checked
import BusyBeaver.Execution.State

/-!
# The shutdown process

`ShutdownProcess` (`src/shutdown.rs`) is what every handle of a shutdown shares: its options
and two watch channels, the grace outcome and the final result.  The publishing functions
write at most one channel at a time; each definition here is one such write.
-/

namespace BusyBeaver

inductive ExecutionKind : Type
  | finite
  | recurring
  | service
  deriving DecidableEq, Repr

/-- `TaskSnapshot`; nothing here reads the ids of its spec and scope. -/
structure TaskSnapshot : Type where
  executionId : ExecutionId
  state : TaskState
  stopCause : Option StopCauseSummary
  finalExit : Option TaskExitSummary
  kind : ExecutionKind
  laneId : Option Nat
  deriving DecidableEq, Repr

/-! ## Options and reports -/

inductive ShutdownTimeoutAction : Type
  | reportAndKeepTracked
  | abortAllowed
  | wait
  deriving DecidableEq, Repr

inductive ShutdownMode : Type
  | cancelAll
  | drainFinite
  deriving DecidableEq, Repr

/-- `ShutdownOptions`, with its `Default`. -/
structure ShutdownOptions : Type where
  mode : ShutdownMode := .cancelAll
  gracePeriod : Nat := 5_000_000_000
  onTimeout : ShutdownTimeoutAction := .reportAndKeepTracked
  deriving DecidableEq, Repr

inductive CleanupPhase : Type
  | trackedChildren
  | legacyCallback
  | shutdownHook
  | workerJoin
  deriving DecidableEq, Repr

def CleanupPhase.text : CleanupPhase → String
  | .trackedChildren => "TrackedChildren"
  | .legacyCallback => "LegacyCallback"
  | .shutdownHook => "ShutdownHook"
  | .workerJoin => "WorkerJoin"

inductive CleanupOutcome : Type
  | notRequired
  | completed
  | failed (message : String)
  | forcedCancelled (callbackInvoked : Bool)
  deriving DecidableEq, Repr

inductive CleanupProgress : Type
  | notRequired
  | pending (phase : CleanupPhase)
  | finished (outcome : CleanupOutcome)
  deriving DecidableEq, Repr

/-- The cleanup of a progress record. -/
def CleanupProgress.reported (progress : CleanupProgress) (isTerminal : Bool) : CleanupProgress :=
  match progress with
  | .notRequired => if isTerminal then .finished .notRequired else .pending .workerJoin
  | progress => progress

/-- `final_cleanup_outcome`. -/
def CleanupProgress.finalOutcome : CleanupProgress → CleanupOutcome
  | .notRequired => .notRequired
  | .finished outcome => outcome
  | .pending phase => .failed ("cleanup remained pending in phase " ++ phase.text)

structure TaskShutdownProgressRecord : Type where
  executionId : ExecutionId
  snapshotAtStart : TaskSnapshot
  graceDeadlineExceeded : Bool
  forcedCancellationRequested : Bool
  finalExit : Option TaskExitSummary
  cleanup : CleanupProgress
  deriving DecidableEq, Repr

structure TaskShutdownRecord : Type where
  executionId : ExecutionId
  snapshotAtStart : TaskSnapshot
  graceDeadlineExceeded : Bool
  forcedCancellationRequested : Bool
  finalExit : TaskExitSummary
  cleanup : CleanupOutcome
  deriving DecidableEq, Repr

structure ShutdownReportSnapshot : Type where
  tasks : List TaskShutdownProgressRecord
  callbackFailures : List String
  workerFailures : List String
  elapsed : Nat
  deriving DecidableEq, Repr

structure ShutdownReport : Type where
  tasks : List TaskShutdownRecord
  callbackFailures : List String
  workerFailures : List String
  elapsed : Nat
  deriving DecidableEq, Repr

/-! ## The process -/

inductive GraceCompletion : Type
  | timedOut (snapshot : ShutdownReportSnapshot) (pending : List ExecutionId)
  | stopped (report : ShutdownReport)
  | timerUnavailable
  | failed (message : String)
  deriving DecidableEq, Repr

/-- `BeaverError::WorkerFailed` of the final result is its message. -/
structure ShutdownProcess : Type where
  id : Nat
  options : ShutdownOptions
  acceptedAt : Instant
  graceDeadline : Instant
  grace : Option GraceCompletion
  finalReport : Option (Except String ShutdownReport)

namespace ShutdownProcess

/-- `ShutdownProcess::validate_options`; `maxInstant` is the last instant of the clock. -/
def validateOptions (maxInstant : Instant) (options : ShutdownOptions) (now : Instant) : Bool :=
  (Checked.add maxInstant now options.gracePeriod).isSome

/-- `ShutdownProcess::new`. -/
def new (maxInstant : Instant) (id : Nat) (options : ShutdownOptions) (now : Instant) :
    Option ShutdownProcess :=
  (Checked.add maxInstant now options.gracePeriod).map fun graceDeadline =>
    { id := id
      options := options
      acceptedAt := now
      graceDeadline := graceDeadline
      grace := none
      finalReport := none }

/-- `publish_timeout`. -/
def publishTimeout (process : ShutdownProcess) (snapshot : ShutdownReportSnapshot)
    (pending : List ExecutionId) : ShutdownProcess :=
  { process with grace := some (.timedOut snapshot pending) }

/-- A grace outcome is published if there is none: `publish_timer_unavailable`, and the first
half of `publish_final` and of `publish_failure`. -/
def settleGrace (process : ShutdownProcess) (completion : GraceCompletion) : ShutdownProcess :=
  { process with grace := process.grace.or (some completion) }

/-- The second half of `publish_final` and of `publish_failure`. -/
def settleFinal (process : ShutdownProcess) (result : Except String ShutdownReport) :
    ShutdownProcess :=
  { process with finalReport := some result }

/-- The final report, if the final result is `Ok`. -/
def report (process : ShutdownProcess) : Option ShutdownReport :=
  match process.finalReport with
  | some (.ok report) => some report
  | _ => none

theorem report_eq_some {process : ShutdownProcess} {report : ShutdownReport} :
    process.report = some report ↔ process.finalReport = some (.ok report) := by
  unfold ShutdownProcess.report
  split
  · rename_i found
    simp [found]
  · rename_i other
    constructor
    · intro absurd
      cases absurd
    · intro found
      exact (other report found).elim

end ShutdownProcess

/-! ## What the waiters get -/

inductive ShutdownOutcome : Type
  | stopped (report : ShutdownReport)
  | timedOut (snapshot : ShutdownReportSnapshot) (pending : List ExecutionId)
  deriving DecidableEq, Repr

inductive ShutdownWaitError : Type
  | supervisorFailed (message : String)
  | timerUnavailable
  deriving DecidableEq, Repr

namespace ShutdownProcess

/-- One turn of the loop of `wait_grace_outcome`; `none` awaits a change. -/
def waitGraceOutcome (process : ShutdownProcess) :
    Option (Except ShutdownWaitError ShutdownOutcome) :=
  process.grace.map fun
    | .timedOut snapshot pending => .ok (.timedOut snapshot pending)
    | .stopped report => .ok (.stopped report)
    | .timerUnavailable => .error .timerUnavailable
    | .failed message => .error (.supervisorFailed message)

/-- One turn of the loop of `wait_final`. -/
def waitFinal (process : ShutdownProcess) : Option (Except ShutdownWaitError ShutdownReport) :=
  process.finalReport.map (Except.mapError .supervisorFailed)

end ShutdownProcess

/-- The answers of `destroy` once a process is there. -/
inductive DestroyError : Type
  | workerFailed (message : String)
  | shutdownTimedOut
  deriving DecidableEq, Repr

/-- `ShutdownWaitError`'s `Display`. -/
def ShutdownWaitError.text : ShutdownWaitError → String
  | .supervisorFailed message => "shutdown failed: " ++ message
  | .timerUnavailable =>
    "Tokio time driver is unavailable; shutdown continues without a grace timer"

/-- What `destroy` does with the outcome it waits for. -/
def ShutdownProcess.destroy (process : ShutdownProcess) : Option (Except DestroyError Unit) :=
  process.waitGraceOutcome.map fun
    | .ok (.stopped report) =>
      match report.workerFailures with
      | failure :: _ => .error (.workerFailed failure)
      | [] => .ok ()
    | .ok (.timedOut _ _) => .error .shutdownTimedOut
    | .error error => .error (.workerFailed error.text)

end BusyBeaver
