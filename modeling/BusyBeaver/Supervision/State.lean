import BusyBeaver.Lib.Transition
import BusyBeaver.Lib.Checked
import BusyBeaver.Execution.Core
import BusyBeaver.Supervision.Children
import Mathlib.Data.Finset.Basic

/-!
# The tasks behind one execution

An execution is carried by a runner task (the `runner` blocks of `prepare_spec`,
`prepare_exit_future` and `prepare_future_internal`) which spawns a body task, installs
its abort handle and awaits it.  The body of a one-shot execution is the user's future;
the body of a retry, recurring or service execution is `run_retry`, `run_recurring` or
`run_service`, which spawns the user's futures as further tasks, here called jobs.

Both tasks are cut at every lock they take and at every await.  What a clock, a policy
or the user's code decides is a `Choice` of the step; an abort takes effect only where
the body is suspended.  A job in `jobs` is a task whose future exists and may be polled.
The context's reports of its active state and the acceptance of stop requests are actions
of their own, since any clone of the context or of the handle makes them.
-/

namespace BusyBeaver

open Transition

inductive AbortPolicy : Type
  | cooperativeOnly
  | allowed
  deriving DecidableEq, Repr

/-- `RecurringOperation`. -/
inductive RecurringOperation : Type
  | tick
  | retry (maxAttempts : Nat)
  deriving DecidableEq, Repr

/-- What is executed, with the part of its specification that shapes the run. -/
inductive Kind : Type
  | spec
  | future (panicSource : PanicSource) (cancelDropsFuture : Bool)
  | retry (maxAttempts : Nat)
  | recurring (operation : RecurringOperation)
  | service (shutdownHook : Bool)
  deriving DecidableEq, Repr

namespace Kind

/-- `spec.max_attempts` of the `run_retry` the execution runs, if it runs one. -/
def maxAttempts : Kind → Nat
  | .retry maxAttempts | .recurring (.retry maxAttempts) => maxAttempts
  | _ => 0

/-- A factory or a supervisor is given a `WorkContext`; a bare future is not. -/
def hasContext : Kind → Bool
  | .future _ _ => false
  | _ => true

/-- The source named when the body task itself panics. -/
def panicSource : Kind → PanicSource
  | .future panicSource _ => panicSource
  | _ => .workFuture

def dropsFuture : Kind → Bool
  | .future _ cancelDropsFuture => cancelDropsFuture
  | _ => false

end Kind

/-! ## The supervisors' loops -/

/-- `u32::try_from(number).map_or(u32::MAX, ..)`. -/
def saturateU32 (number : Nat) : Nat := min number Checked.u32Max

/-- One iteration of a supervisor's loop.  An attempt inside a recurring tick carries the
tick; `stopping` marks the generation that saw the cancellation. -/
inductive Iteration : Type
  | attempt (number : Nat) (tick : Option Nat)
  | tick (number : Nat)
  | generation (number : Nat) (stopping : Bool)
  deriving DecidableEq, Repr

namespace Iteration

/-- The attempt number of the iteration's `WorkContext`. -/
def contextAttempt : Iteration → Nat
  | .attempt number _ => number
  | .tick number => saturateU32 number
  | .generation number _ => saturateU32 number

/-- The iteration holds its job through `AbortOnDrop`, not through a plain `JoinHandle`. -/
def guarded : Iteration → Bool
  | .generation _ _ => true
  | _ => false

/-- The next iteration; `none` when the `u64` counter overflows. -/
def next : Iteration → Option Iteration
  | .attempt number outer => some (.attempt (number + 1) outer)
  | .tick number => (Checked.add Checked.u64Max number 1).map .tick
  | .generation number _ => (Checked.add Checked.u64Max number 1).map (.generation · false)

end Iteration

/-- Where a body stands.  The suspended phases are its awaits; the others lie between two
locks of one poll. -/
inductive Phase : Type
  | spawned
  | user
  | delaying
  | entering (turn : Iteration)
  | begun (turn : Iteration)
  | driving (turn : Iteration) (job : Nat)
  | reaping (turn : Iteration) (job : Nat)
  | stopping (turn : Iteration) (job : Nat)
  | hooking (turn : Iteration) (job hook : Nat)
  | joining (turn : Iteration) (job : Nat)
  | leaving (turn : Iteration)
  | closing (turn : Iteration) (pending : List Nat)
  | decided (turn : Iteration)
  | sleeping (turn : Iteration)
  deriving DecidableEq, Repr

namespace Phase

/-- An abort can take effect here. -/
def suspended : Phase → Bool
  | .spawned | .user | .delaying | .driving _ _ | .reaping _ _ | .hooking _ _ _
  | .joining _ _ | .closing _ (_ :: _) | .sleeping _ => true
  | _ => false

/-- Code that may unwind runs here: the user's, or a timer without a time driver. -/
def unwinds : Phase → Bool
  | .user | .delaying | .driving (.attempt _ _) _ | .hooking _ _ _ | .sleeping _ => true
  | _ => false

/-- The jobs that are aborted when the body is dropped here. -/
def guardedJobs : Phase → Finset Nat
  | .driving turn job | .joining turn job => if turn.guarded then {job} else ∅
  | .hooking turn job hook => if turn.guarded then {job, hook} else {hook}
  | _ => ∅

/-- The child controls a closer has taken and not yet seen terminal. -/
def pending : Phase → List Nat
  | .closing _ pending => pending
  | _ => []

end Phase

/-- What a supervisor returns.  None of them constructs `TaskExit::Aborted`: the arm of
`map_tick_exit` for it passes on what `run_retry` returned. -/
structure Returned (T E : Type) : Type where
  exit : TaskExit T E
  notAborted : exit.isAborted = false

/-- `deadline_exit`. -/
def deadlineExit {T E : Type} (lastError : Option E) : Returned T E :=
  ⟨.failed (.deadlineExceeded lastError), rfl⟩

/-- How the body task ended, as its join handle reports it. -/
inductive Joined (T E : Type) : Type
  | returned (returned : Returned T E)
  | panicked (message : String)
  | cancelled

inductive BodyTask (T E : Type) : Type
  | absent
  | running (phase : Phase)
  | ended (joined : Joined T E)

namespace BodyTask

variable {T E : Type}

def isRunning : BodyTask T E → Bool
  | .running _ => true
  | _ => false

def isCancelled : BodyTask T E → Bool
  | .ended .cancelled => true
  | _ => false

def pending : BodyTask T E → List Nat
  | .running phase => phase.pending
  | _ => []

end BodyTask

/-- Where the runner stands.  `joined none` is the runner of a dropped child future. -/
inductive RunnerTask (T E : Type) : Type
  | waiting
  | refused
  | claimed
  | installing
  | joining
  | dropping
  | joined (result : Option (Joined T E))
  | cleared (result : Option (Joined T E))
  | exiting (exit : TaskExit T E)
  | closing (exit : TaskExit T E) (pending : List Nat)
  | committed
  | retired

def RunnerTask.pending {T E : Type} : RunnerTask T E → List Nat
  | .closing _ pending => pending
  | _ => []

/-- One execution with its tasks.  `context` says that a `WorkContext` was handed out;
`inFlight` counts the forced requests that hold a clone of the abort handle, and
`accepted` says that the one which set the flag has not called `abort` yet; `asked` are
the children that were sent a cancellation. -/
structure Supervised (T E : Type) : Type where
  kind : Kind
  abortPolicy : AbortPolicy
  maximumChildren : Nat
  core : CoreState
  children : ChildSet
  abortHandle : Bool
  forcedCancellationRequested : Bool
  inFlight : Nat
  accepted : Bool
  abortCalled : Bool
  context : Bool
  runner : RunnerTask T E
  body : BodyTask T E
  jobs : Finset Nat
  aborting : Finset Nat
  nextJob : Nat
  live : Finset Nat
  asked : Finset Nat
  nextChild : Nat

/-- What the environment decides in a step. -/
inductive Choice (T E : Type) : Type
  | proceed
  | exit (exit : Returned T E)
  | panic (message : String)
  | deadline (lastError : Option E)
  | expire
  | detach
  | sleep
  | restart

inductive SupervisedAction (T E : Type) : Type
  | dropStart
  | runner (choice : Choice T E)
  | body (choice : Choice T E)
  | unwind (message : String)
  | abortBody
  | jobEnds (job : Nat)
  | jobDropped (job : Nat)
  | requestStop (cause : StopCauseSummary)
  | report (next : ActiveState)
  | checkForced
  | swapForced
  | callAbort
  | spawnChild (attempt : Nat) (available : Bool)
  | childEnds (child : Nat)

/-- `ForcedCancellationOutcome`. -/
inductive ForcedCancellationOutcome : Type
  | requested
  | alreadyRequested
  | alreadyTerminal
  deriving DecidableEq, Repr

/-- `ForcedCancellationError`. -/
inductive ForcedCancellationError : Type
  | notAllowed
  | noTrackedFuture
  deriving DecidableEq, Repr

/-- `is_timer_unavailable_message`. -/
def isTimerUnavailableMessage (message : String) : Bool :=
  message.contains "timers are disabled" || message.contains "no reactor running" ||
    message.contains "must be called from the context of a Tokio"

variable {T E : Type}

/-- `panic_exit`. -/
def panicExit (source : PanicSource) (message : String) : TaskExit T E :=
  if isTimerUnavailableMessage message then .failed .timerUnavailable
  else .panicked source message

@[simp] theorem isAborted_panicExit (source : PanicSource) (message : String) :
    (panicExit source message : TaskExit T E).isAborted = false := by
  unfold panicExit
  split <;> rfl

namespace Supervised

/-- An execution as `prepare_*` leaves it. -/
def new (kind : Kind) (abortPolicy : AbortPolicy) (maximumChildren : Nat) :
    Supervised T E where
  kind := kind
  abortPolicy := abortPolicy
  maximumChildren := maximumChildren
  core := .new
  children := .new
  abortHandle := false
  forcedCancellationRequested := false
  inFlight := 0
  accepted := false
  abortCalled := false
  context := false
  runner := .waiting
  body := .absent
  jobs := ∅
  aborting := ∅
  nextJob := 0
  live := ∅
  asked := ∅
  nextChild := 0

/-! ## What a body step is made of -/

def moveTo (state : Supervised T E) (phase : Phase) : Supervised T E :=
  { state with body := .running phase }

def markDeadline (state : Supervised T E) : Supervised T E :=
  { state with core := (state.core.requestStop .deadline).2 }

/-- `tokio::spawn` of a user future; the new task is `state.nextJob`. -/
def spawnJob (state : Supervised T E) : Supervised T E :=
  { state with jobs := insert state.nextJob state.jobs, nextJob := state.nextJob + 1 }

def abortJob (state : Supervised T E) (job : Nat) : Supervised T E :=
  { state with aborting := insert job state.aborting }

/-- The supervisor of this iteration returns; inside a tick that is the end of the tick's
operation. -/
def finish (state : Supervised T E) (turn : Iteration) (exit : Returned T E) : Supervised T E :=
  match turn with
  | .attempt _ (some tick) => state.moveTo (.leaving (.tick tick))
  | _ => { state with body := .ended (.returned exit) }

/-- The section of `close_attempt_children_and_wait` up to its first await. -/
def closeAttempt (state : Supervised T E) (turn : Iteration) : Supervised T E :=
  let (children, controls) := state.children.closeAttemptChildren turn.contextAttempt
  { state with
    children := children
    asked := state.asked ∪ controls.toFinset
    body := .running (.closing turn controls) }

/-! ## The body, phase by phase -/

/-- The first poll of the body. -/
def start (state : Supervised T E) : Supervised T E :=
  state.moveTo
    (match state.kind with
    | .spec | .future _ _ => .user
    | .retry _ => .entering (.attempt 1 none)
    | .recurring _ => .delaying
    | .service _ => .entering (.generation 1 false))

/-- Head of a loop, up to `begin_attempt`.  A retry loop past its last attempt falls
through; a recurring loop first looks at its cancellation. -/
def enter (state : Supervised T E) (turn : Iteration) : Choice T E → Option (Supervised T E)
  | .proceed =>
    match turn with
    | .attempt number _ =>
      if number ≤ state.kind.maxAttempts then
        some { state with
          children := state.children.beginAttempt turn.contextAttempt
          body := .running (.begun turn) }
      else none
    | _ =>
      some { state with
        children := state.children.beginAttempt turn.contextAttempt
        body := .running (.begun turn) }
  | .exit exit =>
    match turn with
    | .attempt number _ =>
      if state.kind.maxAttempts < number then some (state.finish turn exit) else none
    | .tick _ => some (state.finish turn exit)
    | .generation _ _ => none
  | _ => none

/-- From `begin_attempt` to the await on the user's future. -/
def launch (state : Supervised T E) (turn : Iteration) (choice : Choice T E) :
    Option (Supervised T E) :=
  match turn with
  | .attempt _ _ =>
    match choice with
    | .deadline lastError => some (state.markDeadline.finish turn (deadlineExit lastError))
    | .exit exit => some (state.finish turn exit)
    | .panic _ => some (state.moveTo (.leaving turn))
    | .proceed => some (state.spawnJob.moveTo (.driving turn state.nextJob))
    -- `attempt_timeout` overflows the clock: the plain handle is dropped
    | .detach => some (state.spawnJob.moveTo (.leaving turn))
    | _ => none
  | .tick number =>
    match state.kind, choice with
    | .recurring (.retry _), .proceed =>
      some (state.moveTo (.entering (.attempt 1 (some number))))
    -- `deadline_at` overflows the clock
    | .recurring (.retry _), .deadline _ => some (state.moveTo (.leaving turn))
    | .recurring .tick, .panic _ => some (state.moveTo (.leaving turn))
    | .recurring .tick, .proceed =>
      some (state.spawnJob.moveTo (.driving turn state.nextJob))
    | _, _ => none
  | .generation _ _ =>
    match choice with
    -- the factory unwound: the service ends, or sleeps in `admit_restart`
    | .exit exit => some (state.finish turn exit)
    | .sleep => some (state.moveTo (.sleeping turn))
    | .proceed => some (state.spawnJob.moveTo (.driving turn state.nextJob))
    | _ => none

/-- The select on the user's future. -/
def drive (state : Supervised T E) (turn : Iteration) (job : Nat) :
    Choice T E → Option (Supervised T E)
  | .proceed => if job ∈ state.jobs then none else some (state.moveTo (.leaving turn))
  | .deadline _ =>
    match turn with
    | .attempt _ _ => some ((state.markDeadline.abortJob job).moveTo (.reaping turn job))
    | _ => none
  | .expire =>
    match turn with
    | .attempt _ _ => some ((state.abortJob job).moveTo (.reaping turn job))
    | .tick _ => none
    | .generation number _ =>
      if state.core.stopCause.isSome then
        some (state.moveTo (.stopping (.generation number true) job))
      else none
  | _ => none

/-- The await on an aborted attempt. -/
def reap (state : Supervised T E) (turn : Iteration) (job : Nat) :
    Choice T E → Option (Supervised T E)
  | .proceed => if job ∈ state.jobs then none else some (state.moveTo (.leaving turn))
  | _ => none

/-- `run_shutdown_hook` up to its await. -/
def callHook (state : Supervised T E) (turn : Iteration) (job : Nat) :
    Choice T E → Option (Supervised T E)
  | .proceed =>
    match state.kind with
    | .service true => some (state.spawnJob.moveTo (.hooking turn job state.nextJob))
    | _ => some (state.moveTo (.joining turn job))
  | .panic _ =>
    match state.kind with
    | .service true => some (state.moveTo (.joining turn job))
    | _ => none
  | _ => none

/-- The await on the shutdown hook; a hook that is timed out is aborted and not awaited. -/
def awaitHook (state : Supervised T E) (turn : Iteration) (job hook : Nat) :
    Choice T E → Option (Supervised T E)
  | .proceed => if hook ∈ state.jobs then none else some (state.moveTo (.joining turn job))
  | .expire => some ((state.abortJob hook).moveTo (.joining turn job))
  | _ => none

/-- The await on the body of a service that is stopping. -/
def join (state : Supervised T E) (turn : Iteration) (job : Nat) :
    Choice T E → Option (Supervised T E)
  | .proceed => if job ∈ state.jobs then none else some (state.moveTo (.leaving turn))
  | _ => none

/-- The awaits of `close_attempt_children_and_wait`, one child after the other. -/
def awaitChildren (state : Supervised T E) (turn : Iteration) :
    List Nat → Choice T E → Option (Supervised T E)
  | [], .proceed => some (state.moveTo (.decided turn))
  | child :: pending, .proceed =>
    if child ∈ state.live then none else some (state.moveTo (.closing turn pending))
  | _, _ => none

/-- What a supervisor does with the outcome of an iteration. -/
def decide (state : Supervised T E) (turn : Iteration) : Choice T E → Option (Supervised T E)
  | .exit exit => some (state.finish turn exit)
  | .deadline lastError =>
    match turn with
    | .attempt _ _ => some (state.markDeadline.finish turn (deadlineExit lastError))
    | _ => none
  | .sleep =>
    match turn with
    | .generation _ true => none
    | _ => some (state.moveTo (.sleeping turn))
  | _ => none

/-- The await between two iterations.  A tick sleeps twice when a failure delay precedes
its schedule, and is run again after a restarted panic. -/
def wake (state : Supervised T E) (turn : Iteration) : Choice T E → Option (Supervised T E)
  | .exit exit => some (state.finish turn exit)
  | .proceed => turn.next.map fun following => state.moveTo (.entering following)
  | .sleep =>
    match turn with
    | .tick _ => some (state.moveTo (.sleeping turn))
    | _ => none
  | .restart =>
    match turn with
    | .tick _ => some (state.moveTo (.entering turn))
    | _ => none
  | _ => none

/-- One step of the body. -/
def bodyStep (state : Supervised T E) (choice : Choice T E) : Option (Supervised T E) :=
  match state.body with
  | .running phase =>
    match phase with
    | .spawned => some state.start
    | .user =>
      match choice with
      | .exit exit => some { state with body := .ended (.returned exit) }
      | _ => none
    | .delaying =>
      match choice with
      | .proceed => some (state.moveTo (.entering (.tick 1)))
      | .exit exit => some { state with body := .ended (.returned exit) }
      | _ => none
    | .entering turn => state.enter turn choice
    | .begun turn => state.launch turn choice
    | .driving turn job => state.drive turn job choice
    | .reaping turn job => state.reap turn job choice
    | .stopping turn job => state.callHook turn job choice
    | .hooking turn job hook => state.awaitHook turn job hook choice
    | .joining turn job => state.join turn job choice
    | .leaving turn => some (state.closeAttempt turn)
    | .closing turn pending => state.awaitChildren turn pending choice
    | .decided turn => state.decide turn choice
    | .sleeping turn => state.wake turn choice
  | _ => none

/-- The body's future is dropped at `phase`, with the guards it holds. -/
def dropBody (state : Supervised T E) (phase : Phase) (joined : Joined T E) :
    Supervised T E :=
  { state with body := .ended joined, aborting := state.aborting ∪ phase.guardedJobs }

/-! ## The runner -/

/-- `ExecutionCore::commit`.  The result cell is empty until the first commit. -/
def commit (state : Supervised T E) (exit : TaskExit T E) : Supervised T E :=
  match state.core.commit none exit with
  | some written => { state with core := written.core }
  | none => state

/-- The exit a runner proposes for what its join handle reported. -/
def exitOf (state : Supervised T E) : Option (Joined T E) → TaskExit T E
  | none => .executorStopped .runnerCancelled
  | some (.returned returned) => returned.exit
  | some (.panicked message) => panicExit state.kind.panicSource message
  | some .cancelled =>
    if state.forcedCancellationRequested then .aborted state.core.stopCause
    else .executorStopped .runtimeUnavailable

/-- One step of the runner. -/
def runnerStep (state : Supervised T E) (choice : Choice T E) : Option (Supervised T E) :=
  match state.runner with
  | .waiting =>
    match state.core.claimStart with
    | some core =>
      some { state with core := core, context := state.kind.hasContext, runner := .claimed }
    | none => some { state with runner := .refused }
  | .refused =>
    some { state.commit (.executorStopped .runnerCancelled) with runner := .retired }
  | .claimed =>
    match choice, state.kind with
    | .panic message, .spec => some { state with runner := .exiting (.panicked .factory message) }
    | .proceed, _ => some { state with body := .running .spawned, runner := .installing }
    | _, _ => none
  | .installing => some { state with abortHandle := true, runner := .joining }
  | .joining =>
    match choice, state.body with
    | .proceed, .ended result => some { state with runner := .joined (some result) }
    | .expire, _ =>
      if state.kind.dropsFuture && state.core.stopCause.isSome then
        some { state with abortCalled := true, runner := .dropping }
      else none
    | _, _ => none
  | .dropping =>
    match state.body with
    | .ended _ => some { state with runner := .joined none }
    | _ => none
  | .joined result => some { state with abortHandle := false, runner := .cleared result }
  | .cleared result => some { state with runner := .exiting (state.exitOf result) }
  | .exiting exit =>
    let (children, controls) := state.children.closeChildren
    some { state with
      children := children
      asked := state.asked ∪ controls.toFinset
      runner := .closing exit controls }
  | .closing exit [] => some { state.commit exit with runner := .committed }
  | .closing exit (child :: pending) =>
    if child ∈ state.live then none
    else some { state with runner := .closing exit pending }
  | .committed | .retired => none

/-! ## The callers -/

/-- `request_forced_cancellation` up to its clone of the abort handle; `ok none` goes on. -/
def checkForced (state : Supervised T E) :
    Except ForcedCancellationError (Option ForcedCancellationOutcome) :=
  if state.core.publicState.isTerminal then .ok (some .alreadyTerminal)
  else if state.abortPolicy ≠ .allowed then .error .notAllowed
  else if !state.abortHandle then .error .noTrackedFuture
  else .ok none

/-- Its `swap` of the flag. -/
def swapForced (state : Supervised T E) : ForcedCancellationOutcome × Supervised T E :=
  if state.forcedCancellationRequested then
    (.alreadyRequested, { state with inFlight := state.inFlight - 1 })
  else
    (.requested,
      { state with
        inFlight := state.inFlight - 1, forcedCancellationRequested := true,
        accepted := true })

/-- `spawn_child` on a context of the given attempt. -/
def spawnChild (state : Supervised T E) (attempt : Nat) (available : Bool) :
    Except SpawnChildError (Supervised T E) :=
  match state.children.spawnChild state.maximumChildren attempt available state.nextChild with
  | .ok children =>
    .ok { state with
      children := children
      live := insert state.nextChild state.live
      nextChild := state.nextChild + 1 }
  | .error error => .error error

def step (state : Supervised T E) : SupervisedAction T E → Option (Supervised T E)
  | .dropStart =>
    match state.runner with
    | .waiting =>
      some { state.commit (.executorStopped .runnerCancelled) with runner := .retired }
    | _ => none
  | .runner choice => state.runnerStep choice
  | .body choice => state.bodyStep choice
  | .unwind message =>
    match state.body with
    | .running phase =>
      if phase.unwinds then some (state.dropBody phase (.panicked message)) else none
    | _ => none
  | .abortBody =>
    match state.body with
    | .running phase =>
      if state.abortCalled && phase.suspended then some (state.dropBody phase .cancelled)
      else none
    | _ => none
  | .jobEnds job =>
    if job ∈ state.jobs then some { state with jobs := state.jobs.erase job } else none
  | .jobDropped job =>
    if job ∈ state.jobs ∧ job ∈ state.aborting then
      some { state with jobs := state.jobs.erase job }
    else none
  | .requestStop cause => some { state with core := (state.core.requestStop cause).2 }
  | .report next =>
    if state.context then
      some { state with core := (state.core.setActiveState next).getD state.core }
    else none
  | .checkForced =>
    match state.checkForced with
    | .ok none => some { state with inFlight := state.inFlight + 1 }
    | _ => some state
  | .swapForced => if 0 < state.inFlight then some state.swapForced.2 else none
  | .callAbort =>
    if state.accepted then some { state with accepted := false, abortCalled := true } else none
  | .spawnChild attempt available =>
    if state.context then
      match state.spawnChild attempt available with
      | .ok after => some after
      | .error _ => some state
    else none
  | .childEnds child =>
    if child ∈ state.live then some { state with live := state.live.erase child } else none

end Supervised

/-- All runs of one execution. -/
def supervision (T E : Type) (kind : Kind) (abortPolicy : AbortPolicy)
    (maximumChildren : Nat) : System (Supervised T E) (SupervisedAction T E) :=
  ⟨.new kind abortPolicy maximumChildren, Supervised.step⟩

end BusyBeaver
