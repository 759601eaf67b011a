import BusyBeaver.Lib.Checked
import Mathlib.Data.Finset.Basic

/-!
# Dams and their workers

A `Dam` (`src/dam.rs`) is a bounded channel with one background worker, which runs the tasks
it receives one after the other, each as a runtime task of its own (`run_loop_msg`,
`run_task`).  Cancellation reaches a task that waits through the watermark and one that runs
through the `current` slot.

The calls on a dam are cut at every atomic access and every lock: `DamStep` names the
sections, and `DamStep.step` says what one of them does and which follow.  The worker and the
task it has spawned take steps of their own.
-/

namespace BusyBeaver

/-! ## Tasks -/

/-- `Task`, with what its loop reads. -/
inductive LegacyTask : Type
  | timeInterval (intervals : List Nat)
  | rangeInterval (totalRetries : Nat)
  | fixedCount (count : Nat)
  | periodic (initialDelay : Bool)
  deriving DecidableEq, Repr

/-- The shape of the loops of `run_task`: how often they run, whether an attempt waits or
reports progress first, and whether they look for a cancellation once more before they call
`work.execute()`. -/
structure LegacyLoop : Type where
  limit : Option Nat
  sleeps : Nat → Bool
  progress : Bool
  rechecks : Bool

/-- `run_time_interval`. -/
def runTimeInterval (intervals : List Nat) : LegacyLoop where
  limit := some intervals.length
  sleeps := fun _ => true
  progress := false
  rechecks := false

/-- `run_range_interval`. -/
def runRangeInterval (totalRetries : Nat) : LegacyLoop where
  limit := some totalRetries
  sleeps := fun attempt => attempt != 0
  progress := false
  rechecks := false

/-- `run_fixed_count`; its counter starts at 1. -/
def runFixedCount (count : Nat) : LegacyLoop where
  limit := some count
  sleeps := fun _ => false
  progress := true
  rechecks := true

/-- `run_periodic`. -/
def runPeriodic (initialDelay : Bool) : LegacyLoop where
  limit := none
  sleeps := fun attempt => attempt != 0 || initialDelay
  progress := false
  rechecks := true

/-- `run_task`. -/
def LegacyTask.loop : LegacyTask → LegacyLoop
  | .timeInterval intervals => runTimeInterval intervals
  | .rangeInterval totalRetries => runRangeInterval totalRetries
  | .fixedCount count => runFixedCount count
  | .periodic initialDelay => runPeriodic initialDelay

/-- `matches!(task, Task::Periodic(_))`. -/
def LegacyTask.isPeriodic : LegacyTask → Bool
  | .periodic _ => true
  | _ => false

/-- Where `run_task` stands.  The last three are how the runtime task ended. -/
inductive RunTask : Type
  | checking (attempt : Nat)
  | sleeping (attempt : Nat)
  | progressing (attempt : Nat)
  | rechecking (attempt : Nat)
  /-- The last check has passed, and `work.execute()` is called next. -/
  | starting (attempt : Nat)
  | executing (attempt : Nat)
  | executed (attempt : Nat) (needRetry : Bool)
  | exhausting (attempt : Nat)
  | completing
  | interrupting
  | returned
  | panicked (message : String)
  | dropped
  deriving DecidableEq, Repr

/-- What the user's code, a timer or the runtime does in a step. -/
inductive DamEvent : Type
  | proceed
  | result (needRetry : Bool)
  | callback (failure : Option String)
  | panic (message : String)
  | drop
  deriving DecidableEq, Repr

namespace RunTask

/-- The runtime task has ended. -/
def hasEnded : RunTask → Bool
  | .returned | .panicked _ | .dropped => true
  | _ => false

/-- `work.execute()` is being polled. -/
def isExecuting : RunTask → Bool
  | .executing _ => true
  | _ => false

/-- The runtime can drop the task here; a new task has not been polled. -/
def suspended : RunTask → Bool
  | .checking 0 | .sleeping _ | .executing _ => true
  | _ => false

/-- What follows the delay of an attempt. -/
def awake (loop : LegacyLoop) (attempt : Nat) : RunTask :=
  if loop.progress then .progressing attempt
  else if loop.rechecks then .rechecking attempt
  else .starting attempt

/-- The next section of `run_task`, given the execution's flag. -/
def step (loop : LegacyLoop) (cancelled : Bool) (run : RunTask) (event : DamEvent) :
    Option RunTask :=
  match run, event with
  | .checking attempt, .proceed =>
    if loop.limit.any fun limit => decide (limit ≤ attempt) then some .returned
    else if cancelled then some .interrupting
    else if loop.sleeps attempt then some (.sleeping attempt)
    else some (awake loop attempt)
  | .sleeping attempt, .proceed =>
    if cancelled then some .interrupting else some (awake loop attempt)
  -- a timer without a time driver
  | .sleeping _, .panic message => some (.panicked message)
  | .progressing attempt, .callback _ =>
    if loop.rechecks then some (.rechecking attempt) else some (.starting attempt)
  | .rechecking attempt, .proceed =>
    if cancelled then some .interrupting else some (.starting attempt)
  | .starting attempt, .proceed => some (.executing attempt)
  | .executing attempt, .result needRetry => some (.executed attempt needRetry)
  | .executing _, .panic message => some (.panicked message)
  | .executed attempt needRetry, .proceed =>
    if cancelled then some .interrupting
    else if !needRetry then some .completing
    else if loop.limit = some (attempt + 1) then some (.exhausting attempt)
    else some (.checking (attempt + 1))
  | .exhausting attempt, .callback _ => some (.checking (attempt + 1))
  | .completing, .callback _ => some .returned
  | .interrupting, .callback _ => some .returned
  | _, .drop => if run.suspended then some .dropped else none
  | _, _ => none

end RunTask

/-! ## The dam -/

/-- A task in the channel, with the identity of its `LegacyExecution`. -/
structure Splash : Type where
  execution : Nat
  task : LegacyTask
  seq : Nat
  deriving DecidableEq, Repr

/-- Where the background worker stands. -/
inductive DamWorker : Type
  | receiving
  /-- The first read of the watermark is next. -/
  | received (splash : Splash)
  /-- The `current` slot is written next. -/
  | publishing (splash : Splash)
  /-- The second read of the watermark is next. -/
  | published (splash : Splash)
  | spawning (splash : Splash)
  | joining (splash : Splash)
  /-- A periodic task panicked and sleeps before it is run again. -/
  | healing (splash : Splash)
  | clearing (splash : Splash)
  | exited (failure : Option String)
  deriving DecidableEq, Repr

def DamWorker.hasExited : DamWorker → Bool
  | .exited _ => true
  | _ => false

/-- The runtime can drop the worker here. -/
def DamWorker.suspended : DamWorker → Bool
  | .receiving | .joining _ | .healing _ => true
  | _ => false

/-- A `Dam` with its worker and the task the worker has spawned.  `cancelled` and
`interruptNotified` are the flags of its executions; `dropped` says that its `Drop` has
begun. -/
structure Dam : Type where
  capacity : Nat
  sender : Bool
  queue : List Splash
  current : Option Nat
  releaseFlag : Bool
  enqueueSeq : Nat
  cancelWatermark : Nat
  handle : Bool
  callbackFailures : List String
  cancelled : Finset Nat
  interruptNotified : Finset Nat
  worker : DamWorker
  task : Option (Splash × RunTask)
  dropped : Bool
  deriving DecidableEq

/-- `Dam::with_handle`. -/
def Dam.withHandle (capacity : Nat) : Dam where
  capacity := capacity
  sender := true
  queue := []
  current := none
  releaseFlag := false
  enqueueSeq := 0
  cancelWatermark := 0
  handle := true
  callbackFailures := []
  cancelled := ∅
  interruptNotified := ∅
  worker := .receiving
  task := none
  dropped := false

/-- The errors of the legacy calls. -/
inductive LegacyError : Type
  | executorShuttingDown
  | noDam
  | damReleased
  | queueFull
  deriving DecidableEq, Repr

/-- The sections of `enqueue`, `cancel_all`, `release` and `drop`. -/
inductive DamStep : Type
  | checkRelease (task : LegacyTask)
  | stamp (task : LegacyTask)
  | send (splash : Splash)
  | loadSeq
  | raise (watermark : Nat)
  | setReleased
  | storeMax
  | cancelCurrent
  | closeSender
  deriving DecidableEq, Repr

namespace Dam

/-- `Dam::enqueue`. -/
def enqueue (task : LegacyTask) : List DamStep := [.checkRelease task]

/-- `Dam::cancel_all`. -/
def cancelAll : List DamStep := [.loadSeq, .cancelCurrent]

/-- `Dam::release`, and `drop`, which ends with the drop of the sender. -/
def release : List DamStep := [.setReleased, .storeMax, .cancelCurrent, .closeSender]

/-- `LegacyExecution::cancel`. -/
def cancel (dam : Dam) (execution : Nat) : Dam :=
  { dam with cancelled := insert execution dam.cancelled }

/-- `LegacyExecution::notify_interrupt`; the callback runs once. -/
def notifyInterrupt (dam : Dam) (execution : Nat) (failure : Option String) : Dam :=
  { dam.cancel execution with
    interruptNotified := insert execution dam.interruptNotified
    callbackFailures :=
      if execution ∈ dam.interruptNotified then dam.callbackFailures
      else dam.callbackFailures ++ failure.toList }

def recordCallbackFailure (dam : Dam) (failure : Option String) : Dam :=
  { dam with callbackFailures := dam.callbackFailures ++ failure.toList }

/-- One section of a call, with the sections it puts before the rest; `fresh` is the
identity of the execution it may create. -/
def step (dam : Dam) (fresh : Nat) : DamStep → Except LegacyError (Dam × List DamStep)
  | .checkRelease task => if dam.releaseFlag then .error .damReleased else .ok (dam, [.stamp task])
  | .stamp task =>
    .ok ({ dam with enqueueSeq := (dam.enqueueSeq + 1) % (Checked.u64Max + 1) },
      [.send ⟨fresh, task, dam.enqueueSeq⟩])
  | .send splash =>
    if !dam.sender then .error .damReleased
    else if dam.worker.hasExited ∨ dam.capacity ≤ dam.queue.length then .error .queueFull
    else .ok ({ dam with queue := dam.queue ++ [splash] }, [])
  | .loadSeq => .ok (dam, [.raise dam.enqueueSeq])
  | .raise watermark => .ok ({ dam with cancelWatermark := max dam.cancelWatermark watermark }, [])
  | .setReleased => .ok ({ dam with releaseFlag := true }, [])
  | .storeMax => .ok ({ dam with cancelWatermark := Checked.u64Max }, [])
  | .cancelCurrent => .ok (dam.current.elim dam dam.cancel, [])
  | .closeSender => .ok ({ dam with sender := false }, [])

/-! ## The worker -/

/-- What the worker does once its task is joined. -/
def joined (dam : Dam) (splash : Splash) (run : RunTask) (event : DamEvent) : Option Dam :=
  let joined := { dam with task := none }
  match run, event with
  | .returned, .proceed | .dropped, .proceed => some { joined with worker := .clearing splash }
  | .panicked _, .callback failure =>
    -- `on_error`, and only a periodic task that was not interrupted is run again
    some { joined.recordCallbackFailure failure with
      worker :=
        if splash.task.isPeriodic && decide (splash.execution ∉ dam.cancelled) then .healing splash
        else .clearing splash }
  | _, _ => none

/-- The next section of the worker. -/
def workerStep (dam : Dam) (event : DamEvent) : Option Dam :=
  match dam.worker, event with
  | .receiving, .proceed =>
    match dam.queue with
    | splash :: queue => some { dam with queue := queue, worker := .received splash }
    | [] => if dam.sender then none else some { dam with worker := .exited none }
  | .received splash, .callback failure =>
    if splash.seq < dam.cancelWatermark then
      some { dam.notifyInterrupt splash.execution failure with worker := .receiving }
    else none
  | .received splash, .proceed =>
    if splash.seq < dam.cancelWatermark then none
    else some { dam with worker := .publishing splash }
  | .publishing splash, .proceed =>
    some { dam with current := some splash.execution, worker := .published splash }
  | .published splash, .callback failure =>
    if splash.seq < dam.cancelWatermark then
      some { dam.notifyInterrupt splash.execution failure with worker := .clearing splash }
    else none
  | .published splash, .proceed =>
    if splash.seq < dam.cancelWatermark then none
    else some { dam with worker := .spawning splash }
  | .spawning splash, .proceed =>
    some { dam with task := some (splash, .checking 0), worker := .joining splash }
  | .joining splash, event =>
    match dam.task, event with
    | some (_, run), event =>
      if event = .drop then some { dam with worker := .exited (some "task was cancelled") }
      else dam.joined splash run event
    | none, _ => none
  | .healing splash, .proceed =>
    if splash.execution ∈ dam.cancelled then none else some { dam with worker := .spawning splash }
  | .healing splash, .callback failure =>
    if splash.execution ∈ dam.cancelled then
      some { dam.notifyInterrupt splash.execution failure with worker := .clearing splash }
    else none
  | .healing _, .panic message => some { dam with worker := .exited (some message) }
  | .clearing _, .proceed => some { dam with current := none, worker := .receiving }
  | worker, .drop =>
    if worker.suspended then some { dam with worker := .exited (some "task was cancelled") }
    else none
  | _, _ => none

/-- The next section of the task the worker has spawned. -/
def taskStep (dam : Dam) (event : DamEvent) : Option Dam :=
  match dam.task with
  | none => none
  | some (splash, run) =>
    (run.step splash.task.loop (decide (splash.execution ∈ dam.cancelled)) event).map fun run' =>
      let moved := { dam with task := some (splash, run') }
      match run, event with
      | .interrupting, .callback failure => moved.notifyInterrupt splash.execution failure
      | _, .callback failure => moved.recordCallbackFailure failure
      | _, _ => moved

/-- A `work.execute()` of the dam is running. -/
def isExecuting (dam : Dam) : Bool := dam.task.any fun task => task.2.isExecuting

/-- The worker has exited and no task of it is left. -/
def isFinished (dam : Dam) : Bool :=
  dam.worker.hasExited && dam.task.all fun task => task.2.hasEnded

end Dam

end BusyBeaver
