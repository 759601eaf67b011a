import BusyBeaver.Retry.Run
import BusyBeaver.Service.State
import Mathlib.Data.UInt

/-!
# A recurring execution

`RecurringBuilder::build`, `run_recurring` and `next_target` (`src/recurring.rs`).  The two
forms of a tick share the loop: `TickRun` is what the operation hands to it, from the
future of a factory or from a whole `run_retry`.  What one tick meets (the instants that are
read, the stops that are accepted, how its future or its attempts end) is a `TickObserved`.
-/

namespace BusyBeaver

/-! ## The schedule -/

/-- `TickOutcome`. -/
inductive TickOutcome (T : Type) : Type
  | continue
  | stop (value : T)
  deriving DecidableEq, Repr

inductive ScheduleMode : Type
  | fixedDelay
  | fixedRate

inductive MissedTickPolicy : Type
  | burst
  | skip
  | delay

inductive ResumePolicy : Type
  | continue
  | runImmediately
  | skipMissed
  deriving DecidableEq

structure ScheduleDecisionContext : Type where
  completedTicks : Nat
  lastStartedAt : Instant
  lastFinishedAt : Instant
  observedMissedTicks : Nat
  resumeObserved : Bool

/-- A dynamic schedule is a function of the user's; its error is the message of a panic. -/
inductive SchedulePlan : Type
  | fixed (interval : Duration) (mode : ScheduleMode)
  | steps (delays : List Duration) (repeatLast : Bool)
  | dynamic (function : ScheduleDecisionContext → Except String (Option Duration))

structure Schedule (F : Type) : Type where
  initialDelay : Duration
  plan : SchedulePlan
  missedTickPolicy : MissedTickPolicy
  resumePolicy : ResumePolicy
  jitter : Option (Jitter F)

inductive TickFailurePolicy : Type
  | stop
  | continue (maxConsecutiveFailures : Nat) (delay : Duration)

inductive PanicPolicy : Type
  | stop
  | restart (policy : RestartPolicy)

inductive RecurringBuildError : Type
  | emptySchedule
  | zeroFailureBudget
  | zeroRestartBudget
  | zeroRestartWindow
  | durationOverflow
  | invalidJitterRatio
  deriving DecidableEq, Repr

/-- What a tick runs: the factory of `RecurringBuilder::new`, or a retry. -/
inductive TickOperation (F : Type) : Type
  | tick
  | retry (spec : RetrySpec F)

/-- `RecurringBuilder`, and the `RecurringSpec` of the same fields that it builds. -/
structure RecurringSpec (F : Type) : Type where
  operation : TickOperation F
  schedule : Schedule F
  failurePolicy : TickFailurePolicy
  panicPolicy : PanicPolicy

variable {F : Type}

/-- The checks of `build`, in its order. -/
def SchedulePlan.check : SchedulePlan → Except RecurringBuildError Unit
  | .steps [] _ => .error .emptySchedule
  | _ => .ok ()

def TickFailurePolicy.check : TickFailurePolicy → Except RecurringBuildError Unit
  | .continue maxConsecutiveFailures _ =>
    if maxConsecutiveFailures = 0 then .error .zeroFailureBudget else .ok ()
  | .stop => .ok ()

def PanicPolicy.check : PanicPolicy → Except RecurringBuildError Unit
  | .restart policy =>
    if policy.maximumRestarts = 0 then .error .zeroRestartBudget
    else if policy.window = 0 then .error .zeroRestartWindow
    else .ok ()
  | .stop => .ok ()

def Schedule.checkJitter [FloatOps F] (schedule : Schedule F) : Except RecurringBuildError Unit :=
  if schedule.jitter.any fun jitter => !jitter.isValid then .error .invalidJitterRatio else .ok ()

def Schedule.checkInitialDelay (schedule : Schedule F) (maxInstant now : Instant) :
    Except RecurringBuildError Unit :=
  if Checked.add maxInstant now schedule.initialDelay = none then .error .durationOverflow
  else .ok ()

/-- `build`, at the instant `now`. -/
def RecurringSpec.build [FloatOps F] (builder : RecurringSpec F) (maxInstant now : Instant) :
    Except RecurringBuildError (RecurringSpec F) := do
  builder.schedule.plan.check
  builder.failurePolicy.check
  builder.panicPolicy.check
  builder.schedule.checkJitter
  builder.schedule.checkInitialDelay maxInstant now
  return builder

/-- `u128::MAX`. -/
def u128Max : Nat := 340282366920938463463374607431768211455

/-- `duration_from_nanos`. -/
def durationFromNanos (nanos : Nat) : Option Duration :=
  if nanos / 1000000000 ≤ Checked.u64Max then some nanos else none

/-- Why there is no next target: the code of an overflow, or a panic of the function. -/
inductive TargetError : Type
  | overflow (code : String)
  | panicked (message : String)

def orOverflow {α : Type} (code : String) : Option α → Except TargetError α
  | some value => .ok value
  | none => .error (.overflow code)

/-- The target after a tick of a fixed-rate schedule that was missed. -/
def missedTarget (maxInstant : Instant) (interval : Duration) (policy : MissedTickPolicy)
    (lastFinishedAt target now : Instant) : Except TargetError (Option (Instant × Nat)) :=
  match policy with
  | .burst => .ok (some (target, 1))
  | .delay => do
    let at_ ← orOverflow "BB-SCHEDULE-MISSED-DELAY-OVERFLOW"
      (Checked.add maxInstant lastFinishedAt interval)
    return some (at_, 1)
  | .skip => do
    let skipped ← orOverflow "BB-SCHEDULE-MISSED-COUNT-OVERFLOW"
      (Checked.add Checked.u64Max ((now - target) / interval) 1)
    let nanos ← orOverflow "BB-SCHEDULE-MISSED-ADVANCE-OVERFLOW"
      (Checked.mul u128Max interval skipped)
    let advance ← orOverflow "BB-SCHEDULE-MISSED-DURATION-OVERFLOW" (durationFromNanos nanos)
    let target ← orOverflow "BB-SCHEDULE-MISSED-INSTANT-OVERFLOW"
      (Checked.add maxInstant target advance)
    return some (target, skipped)

/-- `next_target`; `now` is the instant it reads. -/
def nextTarget (schedule : Schedule F) (maxInstant anchor : Instant) (completedTicks : Nat)
    (lastStartedAt lastFinishedAt : Instant) (previousMissed : Nat) (resumeObserved : Bool)
    (now : Instant) : Except TargetError (Option (Instant × Nat)) :=
  if resumeObserved && schedule.resumePolicy = .runImmediately then .ok (some (now, 0))
  else
    match schedule.plan with
    | .fixed interval .fixedDelay => do
      let at_ ← orOverflow "BB-SCHEDULE-FIXED-DELAY-OVERFLOW"
        (Checked.add maxInstant lastFinishedAt interval)
      return some (at_, 0)
    | .fixed interval .fixedRate => do
      let nanos ← orOverflow "BB-SCHEDULE-FIXED-RATE-MULTIPLY-OVERFLOW"
        (Checked.mul u128Max interval completedTicks)
      let elapsed ← orOverflow "BB-SCHEDULE-FIXED-RATE-DURATION-OVERFLOW"
        (durationFromNanos nanos)
      let target ← orOverflow "BB-SCHEDULE-FIXED-RATE-INSTANT-OVERFLOW"
        (Checked.add maxInstant anchor elapsed)
      if now < target then return some (target, 0)
      else if interval = 0 then return some (now, 0)
      else
        let policy :=
          if resumeObserved && schedule.resumePolicy = .skipMissed then .skip
          else schedule.missedTickPolicy
        missedTarget maxInstant interval policy lastFinishedAt target now
    | .steps delays repeatLast => do
      let step ← orOverflow "BB-SCHEDULE-STEP-COUNTER-UNDERFLOW" (Checked.sub completedTicks 1)
      match delays[step]?.or (if repeatLast then delays.getLast? else none) with
      | none => return none
      | some delay =>
        let at_ ← orOverflow "BB-SCHEDULE-STEP-INSTANT-OVERFLOW"
          (Checked.add maxInstant lastFinishedAt delay)
        return some (at_, 0)
    | .dynamic function =>
      match function ⟨completedTicks, lastStartedAt, lastFinishedAt, previousMissed,
        resumeObserved⟩ with
      | .error message => .error (.panicked message)
      | .ok none => .ok none
      | .ok (some delay) => do
        let at_ ← orOverflow "BB-SCHEDULE-DYNAMIC-INSTANT-OVERFLOW"
          (Checked.add maxInstant lastFinishedAt delay)
        return some (at_, 0)

/-- `Jitter::apply`. -/
def Jitter.apply [FloatOps F] (jitter : Jitter F) (delay : Duration) (streamIndex : Nat) :
    Option Duration :=
  if jitter.isValid then
    let state := jitter.seed ^^^ (UInt64.ofNat streamIndex * 0x9E3779B97F4A7C15)
    FloatOps.tryFromSecs
      (FloatOps.mul (FloatOps.asSecs delay) (Jitter.factor jitter.ratio (Jitter.advance state)))
  else none

/-! ## One tick -/

variable {T E : Type}

/-- How the future of a tick, and the await on it, end. -/
inductive TickFuture (T E : Type) : Type
  | factoryPanicked (message : String)
  | finished (result : Except E (TickOutcome T))
  | panicked (message : String)
  /-- The runtime has dropped the task. -/
  | lost

/-- An instant that is read, and the stop accepted up to the end of the sleep that follows. -/
structure Pause : Type where
  at_ : Instant
  stop : Option StopCauseSummary

/-- `WorkContext::sleep`; the error is what is read as the stop cause. -/
def Pause.sleep (pause : Pause) (maxInstant : Instant) (duration : Duration) :
    Except (Option StopCauseSummary) Unit :=
  if pause.stop.isSome ∨ Checked.add maxInstant pause.at_ duration = none then .error pause.stop
  else .ok ()

/-- What one tick meets. -/
structure TickObserved (T E : Type) : Type where
  stopBefore : Option StopCauseSummary
  /-- How the future of a factory ends. -/
  future : TickFuture T E
  /-- When a retry is accepted, and what its attempts meet. -/
  acceptedAt : Instant
  attempts : List (RetryAttempt (TickOutcome T) E)
  /-- The sleep after a failure. -/
  failurePause : Pause
  /-- What the limiter of the restarts reads as the present, and the sleep after a panic. -/
  restartNow : Instant
  restartPause : Pause
  finishedAt : Instant
  resumeEpoch : Nat
  /-- What `next_target` reads as the present. -/
  targetNow : Instant
  /-- What the delay is counted from. -/
  delayNow : Instant
  /-- The sleep until the next tick, and a resume notification that comes before its end. -/
  pause : Pause
  resumed : Option (Nat × Instant)

/-- `TickRun`. -/
inductive TickRun (T E : Type) : Type
  | outcome (outcome : TickOutcome T)
  | failure (error : E)
  | exit (exit : TaskExit (TickOutcome T) E)
  | panicked (source : PanicSource) (message : String)

/-- `run_tick` on a factory. -/
def TickFuture.run : TickFuture T E → TickRun T E
  | .factoryPanicked message => .panicked .factory message
  | .finished (.ok outcome) => .outcome outcome
  | .finished (.error error) => .failure error
  | .panicked message =>
    if isTimerUnavailableMessage message then .exit (.failed .timerUnavailable)
    else .panicked .workFuture message
  | .lost => .exit (.executorStopped .runtimeUnavailable)

/-- The match on the exit of `run_retry`. -/
def TickRun.ofRetry : TaskExit (TickOutcome T) E → TickRun T E
  | .completed value => .outcome value
  | other => .exit other

/-- `run_tick`; `none` while a retry is not over. -/
def runTick [FloatOps F] (operation : TickOperation F) (maxInstant : Instant)
    (observed : TickObserved T E) : Option (TickRun T E) :=
  match operation with
  | .tick => some observed.future.run
  | .retry spec =>
    match spec.deadlineAt maxInstant observed.acceptedAt with
    | none => some (.exit (.failed (.deadlineExceeded none)))
    | some deadline => (runRetry spec maxInstant deadline observed.attempts).exit.map .ofRetry

/-- `map_tick_exit`. -/
def mapTickExit : TaskExit (TickOutcome T) E → TaskExit T E
  | .completed (.stop value) => .completed value
  | .completed .continue => .failed (.recurring .scheduleEnded)
  | .failed failure => .failed failure
  | .cancelled reason => .cancelled reason
  | .aborted precedingStop => .aborted precedingStop
  | .panicked source message => .panicked source message
  | .executorStopped reason => .executorStopped reason

/-- `cancelled_exit`. -/
def cancelledExit : Option StopCauseSummary → TaskExit T E
  | some (.cancel reason) => .cancelled reason
  | some .deadline => .failed (.deadlineExceeded none)
  | none => .executorStopped .runnerCancelled

/-! ## The loop -/

/-- The variables of the loop; the oldest restart comes first. -/
structure RecurringLoop : Type where
  scheduledAt : Instant
  tick : Nat
  observedMissedTicks : Nat
  consecutiveFailures : Nat
  restarts : List Instant
  resumeEpoch : Nat

/-- What is done with a tick: its execution ends, another tick is scheduled, after a failure
or not, or the same tick is run again. -/
inductive TickDecision (T E : Type) : Type
  | exit (exit : TaskExit T E)
  | schedule
  | continued (consecutiveFailures : Nat)
  | restarted (restarts : List Instant)

/-- The policy for a failure. -/
def RecurringSpec.afterFailure (spec : RecurringSpec F) (maxInstant : Instant)
    (s : RecurringLoop) (error : E) (pause : Pause) : TickDecision T E :=
  match spec.failurePolicy with
  | .stop => .exit (.failed (.recurring (.tickFailed s.tick error)))
  | .continue maxConsecutiveFailures delay =>
    match Checked.add Checked.u32Max s.consecutiveFailures 1 with
    | none => .exit (.failed (.recurring (.counterOverflow "consecutive_failures")))
    | some failures =>
      if maxConsecutiveFailures < failures then
        .exit (.failed (.recurring (.consecutiveFailuresExceeded s.tick error)))
      else
        match pause.sleep maxInstant delay with
        | .error stop => .exit (cancelledExit stop)
        | .ok () => .continued failures

/-- The policy for a panic. -/
def RecurringSpec.afterPanic (spec : RecurringSpec F) (maxInstant : Instant) (s : RecurringLoop)
    (source : PanicSource) (message : String) (now : Instant) (pause : Pause) :
    TickDecision T E :=
  match spec.panicPolicy with
  | .stop => .exit (.panicked source message)
  | .restart policy =>
    let recent := s.restarts.dropWhile fun at_ => decide (policy.window < now - at_)
    if policy.maximumRestarts ≤ recent.length then
      .exit (.failed (.recurring .restartLimitExceeded))
    else
      match pause.sleep maxInstant policy.backoff with
      | .error stop => .exit (cancelledExit stop)
      | .ok () => .restarted (recent ++ [now])

/-- The match on the outcome of a tick. -/
def RecurringSpec.decideTick (spec : RecurringSpec F) (maxInstant : Instant) (s : RecurringLoop)
    (observed : TickObserved T E) : TickRun T E → TickDecision T E
  | .outcome (.stop value) => .exit (.completed value)
  | .outcome .continue => .schedule
  | .failure error => spec.afterFailure maxInstant s error observed.failurePause
  | .exit exit => .exit (mapTickExit exit)
  | .panicked source message =>
    spec.afterPanic maxInstant s source message observed.restartNow observed.restartPause

/-- The exit for want of a target, with what is logged. -/
def targetExit : TargetError → TaskExit T E × List String
  | .overflow code => (.failed (.recurring (.scheduleOverflow code)), [code])
  | .panicked message =>
    (if isTimerUnavailableMessage message then .failed .timerUnavailable
      else .panicked .schedule message, [])

/-- The delay with its jitter, and when the next tick is due. -/
def RecurringSpec.plan [FloatOps F] (spec : RecurringSpec F) (maxInstant : Instant) (tick : Nat)
    (target now : Instant) : Except String (Duration × Instant) :=
  match spec.schedule.jitter with
  | none => .ok (target - now, target)
  | some jitter =>
    match jitter.apply (target - now) tick with
    | none => .error "schedule jitter overflow"
    | some delay =>
      match Checked.add maxInstant now delay with
      | none => .error "schedule jitter Instant overflow"
      | some due => .ok (delay, due)

/-- The await on the next tick: the resume epoch, when it is due and the missed ticks, or the
stop. -/
def RecurringSpec.await (spec : RecurringSpec F) (maxInstant : Instant)
    (observed : TickObserved T E) (delay : Duration) (due : Instant) (missed : Nat) :
    Except (Option StopCauseSummary) (Nat × Instant × Nat) :=
  let slept := (observed.pause.sleep maxInstant delay).map fun _ =>
    (observed.resumeEpoch, due, missed)
  if spec.schedule.resumePolicy = .runImmediately ∧ delay ≠ 0 then
    match observed.resumed with
    | some (epoch, now) => .ok (epoch, now, 0)
    | none => slept
  else slept

/-- From the end of a tick to the head of the loop. -/
def RecurringSpec.advance [FloatOps F] (spec : RecurringSpec F) (maxInstant anchor : Instant)
    (s : RecurringLoop) (observed : TickObserved T E) :
    Except (TaskExit T E × List String) RecurringLoop :=
  match nextTarget spec.schedule maxInstant anchor s.tick s.scheduledAt observed.finishedAt
      s.observedMissedTicks (observed.resumeEpoch ≠ s.resumeEpoch) observed.targetNow with
  | .error error => .error (targetExit error)
  | .ok none => .error (.failed (.recurring .scheduleEnded), [])
  | .ok (some (target, missed)) =>
    match spec.plan maxInstant s.tick target observed.delayNow with
    | .error message => .error (.panicked .schedule message, [])
    | .ok (delay, due) =>
      match spec.await maxInstant observed delay due missed with
      | .error stop => .error (cancelledExit stop, [])
      | .ok (epoch, due, missed) =>
        match Checked.add Checked.u64Max s.tick 1 with
        | none => .error (.failed (.recurring (.counterOverflow "tick")), [])
        | some tick =>
          .ok { s with
            scheduledAt := due, tick := tick, observedMissedTicks := missed, resumeEpoch := epoch }

inductive RecurringEvent : Type
  | ran (tick : Nat)
  | continued (tick : Nat)
  | restarted (tick : Nat)
  deriving DecidableEq, Repr

/-- What a run shows; a run that is not over has no exit. -/
structure RecurringRun (T E : Type) : Type where
  events : List RecurringEvent
  exit : Option (TaskExit T E)
  logged : List String

namespace RecurringRun

def waits : RecurringRun T E := ⟨[], none, []⟩

def ends (exit : TaskExit T E) (logged : List String) : RecurringRun T E :=
  ⟨[], some exit, logged⟩

def after (event : RecurringEvent) (rest : RecurringRun T E) : RecurringRun T E :=
  { rest with events := event :: rest.events }

end RecurringRun

/-- `run_recurring`, from the head of its loop on. -/
def RecurringSpec.runFrom [FloatOps F] (spec : RecurringSpec F) (maxInstant anchor : Instant) :
    RecurringLoop → List (TickObserved T E) → RecurringRun T E
  | _, [] => .waits
  | s, observed :: rest =>
    match observed.stopBefore with
    | some stop => .ends (cancelledExit (some stop)) []
    | none =>
      .after (.ran s.tick)
        (match runTick spec.operation maxInstant observed with
        | none => .waits
        | some tickRun =>
          match spec.decideTick maxInstant s observed tickRun with
          | .exit exit => .ends exit []
          | .schedule =>
            match spec.advance maxInstant anchor { s with consecutiveFailures := 0 } observed with
            | .error (exit, logged) => .ends exit logged
            | .ok s => spec.runFrom maxInstant anchor s rest
          | .continued failures =>
            .after (.continued s.tick)
              (match spec.advance maxInstant anchor { s with consecutiveFailures := failures }
                observed with
              | .error (exit, logged) => .ends exit logged
              | .ok s => spec.runFrom maxInstant anchor s rest)
          | .restarted restarts =>
            .after (.restarted s.tick)
              (spec.runFrom maxInstant anchor { s with restarts := restarts } rest))

/-- The sleep before the first tick. -/
def RecurringSpec.sleepInitially (spec : RecurringSpec F) (maxInstant : Instant)
    (initial : Pause) : Except (Option StopCauseSummary) Unit :=
  if spec.schedule.initialDelay = 0 then .ok ()
  else initial.sleep maxInstant spec.schedule.initialDelay

/-- The variables at the first tick. -/
def RecurringLoop.first (anchor : Instant) (resumeEpoch : Nat) : RecurringLoop where
  scheduledAt := anchor
  tick := 1
  observedMissedTicks := 0
  consecutiveFailures := 0
  restarts := []
  resumeEpoch := resumeEpoch

/-- `run_recurring`. -/
def RecurringSpec.run [FloatOps F] (spec : RecurringSpec F) (maxInstant : Instant)
    (initial : Pause) (anchor : Instant) (resumeEpoch : Nat)
    (ticks : List (TickObserved T E)) : RecurringRun T E :=
  match spec.sleepInitially maxInstant initial with
  | .error stop => .ends (cancelledExit stop) []
  | .ok () => spec.runFrom maxInstant anchor (.first anchor resumeEpoch) ticks

end BusyBeaver
