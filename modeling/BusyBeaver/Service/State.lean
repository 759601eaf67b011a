import BusyBeaver.Supervision.State

/-!
# The status of a service

`run_service` (`src/service.rs`) publishes what it does on a watch channel.  The execution
behind it is the one of `Supervised`, with the kind `service`: a step of `ServiceRun` is a
step of that execution, chosen by what the factory, the body, the hook and the clock do,
together with what `run_service` writes in the same section.

`ServiceContext::ready` and `ServiceContext::set_health` check first and publish later, on
any clone of a context that was handed out, and so they are two actions.
-/

namespace BusyBeaver

open Transition Checked

inductive HealthStatus : Type
  | healthy
  | degraded (reason : String)
  | unhealthy (reason : String)
  deriving DecidableEq, Repr

inductive HookOutcome : Type
  | notRequired
  | completed
  | failed (message : String)
  | panicked
  | timedOut
  deriving DecidableEq, Repr

inductive ServiceStatus : Type
  | starting (generation : Nat)
  | ready (generation : Nat) (health : HealthStatus)
  | stopping (generation : Nat)
  | restarting (generation restart : Nat)
  | stopped (generation : Nat) (hook : HookOutcome)
  deriving DecidableEq, Repr

def ServiceStatus.isStopped : ServiceStatus → Bool
  | .stopped _ _ => true
  | _ => false

inductive ServiceWaitError : Type
  | stoppedBeforeReady
  | supervisorUnavailable
  deriving DecidableEq, Repr

/-- One turn of the loop of `ServiceHandle::wait_ready`; `none` awaits a change.  The handle
keeps the sender of the channel alive. -/
def ServiceStatus.waitReady : ServiceStatus → Option (Except ServiceWaitError Nat)
  | .ready generation _ => some (.ok generation)
  | .stopped _ _ => some (.error .stoppedBeforeReady)
  | _ => none

inductive RestartTrigger : Type
  | never
  | onFailure
  | onPanic
  | onFailureOrPanic
  deriving DecidableEq, Repr

/-- `RestartTrigger::failure`. -/
def RestartTrigger.failure : RestartTrigger → Bool
  | .onFailure | .onFailureOrPanic => true
  | _ => false

/-- `RestartTrigger::panic`. -/
def RestartTrigger.panic : RestartTrigger → Bool
  | .onPanic | .onFailureOrPanic => true
  | _ => false

structure RestartPolicy : Type where
  maximumRestarts : Nat
  window : Nat
  backoff : Nat
  deriving DecidableEq, Repr

/-- `RestartPolicy::new`: a window of a minute, no back-off. -/
def RestartPolicy.new (maximumRestarts : Nat) : RestartPolicy where
  maximumRestarts := maximumRestarts
  window := 60_000_000_000
  backoff := 0

structure ServiceBuilder : Type where
  shutdownHook : Bool
  hookTimeout : Nat
  restartTrigger : RestartTrigger
  restartPolicy : Option RestartPolicy
  abortPolicy : AbortPolicy
  deriving DecidableEq, Repr

/-- `ServiceBuilder::new`. -/
def ServiceBuilder.new : ServiceBuilder where
  shutdownHook := false
  hookTimeout := 5_000_000_000
  restartTrigger := .never
  restartPolicy := none
  abortPolicy := .cooperativeOnly

/-- A `ServiceSpec`, with the four checks of `ServiceBuilder::build`; the user's code is not part
of it. -/
structure ServiceSpec : Type extends ServiceBuilder where
  required : restartTrigger ≠ .never → restartPolicy ≠ none
  budget : ∀ policy ∈ restartPolicy, policy.maximumRestarts ≠ 0
  window : ∀ policy ∈ restartPolicy, policy.window ≠ 0
  timeout : hookTimeout ≠ 0

/-- How a spawned future of the user ended, as its join handle reports it. -/
inductive JobResult (T E : Type) : Type
  | returned (value : T)
  | failed (error : E)
  | panicked (message : String)
  | lost
  deriving DecidableEq, Repr

/-- Why `admit_restart` was called. -/
inductive RestartCause (E : Type) : Type
  | factory
  | failure (error : E)
  | panic
  deriving DecidableEq, Repr

def RestartCause.lastError {E : Type} : RestartCause E → Option E
  | .failure error => some error
  | _ => none

/-- A service: its execution, the channel, the generation cell, and the locals of
`run_service`.  `contexts` is the last generation whose context was handed out, `reports`
are the statuses that a context has checked and not yet published. -/
structure ServiceRun (T E : Type) : Type where
  execution : Supervised T E
  status : ServiceStatus
  generation : Nat
  contexts : Nat
  reports : List ServiceStatus
  restartTimes : List Instant
  restartCount : Nat
  joined : Option (JobResult T E)
  hook : HookOutcome
  cause : Option (RestartCause E)

inductive ServiceAction (T E : Type) : Type
  /-- the head of the loop of `run_service` -/
  | enter
  /-- the factory returns a future, or unwinds -/
  | factory (panic : Option String) (now : Instant)
  /-- the select finds the body joined -/
  | bodyJoined (result : JobResult T E)
  /-- the select finds the service cancelled -/
  | cancelled
  /-- the hook returns a future, or unwinds -/
  | callHook (panics : Bool)
  /-- the hook is joined, or timed out -/
  | awaitHook (result : Option (JobResult Unit String))
  /-- a body that is stopping is joined -/
  | join (result : JobResult T E)
  /-- what follows `close_attempt_children_and_wait` -/
  | decide (now : Instant)
  /-- the end of the back-off, or its interruption -/
  | wake (interrupted : Bool)
  /-- `ready`, or `set_health`, on a context of the generation: the check -/
  | check (generation : Nat) (health : HealthStatus)
  /-- a call that passed its check publishes -/
  | report (status : ServiceStatus)
  /-- everything else that happens to the execution -/
  | execution (action : SupervisedAction T E)

namespace ServiceRun

variable {T E : Type}

/-- `prepare_service`. -/
def new (spec : ServiceSpec) (maximumChildren : Nat) : ServiceRun T E where
  execution := .new (.service spec.shutdownHook) spec.abortPolicy maximumChildren
  status := .starting 1
  generation := 1
  contexts := 0
  reports := []
  restartTimes := []
  restartCount := 0
  joined := none
  hook := .notRequired
  cause := none

/-- `WorkContext::is_cancelled`. -/
def isCancelled (run : ServiceRun T E) : Bool := run.execution.core.stopCause.isSome

/-- `cancel_reason`. -/
def cancelReason (run : ServiceRun T E) : CancelReason :=
  match run.execution.core.stopCause with
  | some (.cancel reason) => reason
  | _ => .executorShutdown

/-- The next step of the execution, and what `run_service` writes with it. -/
def proceed (run : ServiceRun T E) (choice : Choice T E) : Option (ServiceRun T E) :=
  (run.execution.step (.body choice)).map fun execution => { run with execution := execution }

/-- `run_service` returns with the final status in place, if there is one. -/
def finish (run : ServiceRun T E) (status : Option ServiceStatus) (exit : Returned T E) :
    Option (ServiceRun T E) :=
  { run with status := status.getD run.status }.proceed (.exit exit)

/-- What `admit_restart` finds, up to its sleep. -/
inductive Admission : Type
  | rejected
  | counterOverflow
  | backoff (restartTimes : List Instant) (restartCount : Nat)
  deriving DecidableEq, Repr

/-- `admit_restart`, up to its sleep. -/
def admitRestart (spec : ServiceSpec) (run : ServiceRun T E) (now : Instant) : Admission :=
  match spec.restartPolicy with
  | none => .rejected
  | some policy =>
    let recent := run.restartTimes.dropWhile fun time => decide (policy.window < now - time)
    if policy.maximumRestarts ≤ recent.length ∨ run.isCancelled then .rejected
    else
      match Checked.add u32Max run.restartCount 1 with
      | none => .counterOverflow
      | some restartCount => .backoff (recent ++ [now]) restartCount

/-- The exit of a restart that is refused. -/
def refusedExit (generation : Nat) (lastError : Option E) : Returned T E :=
  ⟨.failed (.service (.restartLimitExceeded generation lastError)), rfl⟩

def overflowExit (lastError : Option E) : Returned T E :=
  ⟨.failed (.service (.counterOverflow "BB-SERVICE-RESTART-COUNT-OVERFLOW" lastError)), rfl⟩

/-- The status of a service that ends when a restart is refused: the path from the factory
does not publish one. -/
def refusedStatus (generation : Nat) : RestartCause E → Option ServiceStatus
  | .factory => none
  | _ => some (.stopped generation .notRequired)

/-- `admit_restart` and what its caller does with a refusal. -/
def restart (spec : ServiceSpec) (run : ServiceRun T E) (generation : Nat)
    (cause : RestartCause E) (now : Instant) : Option (ServiceRun T E) :=
  match admitRestart spec run now with
  | .rejected =>
    run.finish (refusedStatus generation cause) (refusedExit generation cause.lastError)
  | .counterOverflow => run.finish (refusedStatus generation cause) (overflowExit cause.lastError)
  | .backoff restartTimes restartCount =>
    { run with
      status := .restarting generation restartCount
      restartTimes := restartTimes
      restartCount := restartCount
      cause := some cause }.proceed .sleep

/-- A panic of the factory or of the body. -/
def panicked (spec : ServiceSpec) (run : ServiceRun T E) (generation : Nat) (source : PanicSource)
    (cause : RestartCause E) (message : String) (now : Instant) : Option (ServiceRun T E) :=
  if isTimerUnavailableMessage message ∨ spec.restartTrigger.panic = false then
    run.finish (some (.stopped generation .notRequired))
      ⟨panicExit source message, isAborted_panicExit source message⟩
  else run.restart spec generation cause now

/-- The exit of a service that was cancelled, from what its body returned. -/
def stoppedExit (run : ServiceRun T E) (generation : Nat) : JobResult T E → Returned T E
  | .returned value => ⟨.completed value, rfl⟩
  | .failed error => ⟨.failed (.service (.bodyFailed generation error)), rfl⟩
  | .panicked message =>
    ⟨panicExit .serviceBody message, isAborted_panicExit .serviceBody message⟩
  | .lost => ⟨.cancelled run.cancelReason, rfl⟩

/-- The outcome of `run_shutdown_hook` once its task is spawned. -/
def hookOutcome : Option (JobResult Unit String) → HookOutcome
  | none => .timedOut
  | some (.returned ()) => .completed
  | some (.failed message) => .failed message
  | some (.panicked _) => .panicked
  | some .lost => .failed "hook runtime unavailable"

/-- What follows `close_attempt_children_and_wait`, the body not being stopped. -/
def afterBody (spec : ServiceSpec) (run : ServiceRun T E) (generation : Nat) (now : Instant)
    (result : JobResult T E) : Option (ServiceRun T E) :=
  let stopped := some (.stopped generation .notRequired)
  if run.isCancelled then run.finish stopped ⟨.cancelled run.cancelReason, rfl⟩
  else
    match result with
    | .returned value => run.finish stopped ⟨.completed value, rfl⟩
    | .failed error =>
      if spec.restartTrigger.failure then run.restart spec generation (.failure error) now
      else run.finish stopped ⟨.failed (.service (.bodyFailed generation error)), rfl⟩
    | .panicked message => run.panicked spec generation .serviceBody .panic message now
    | .lost => run.finish none ⟨.executorStopped .runtimeUnavailable, rfl⟩

/-- The actions of `run_service`, by the phase it is in. -/
def bodyStep (spec : ServiceSpec) (run : ServiceRun T E) (phase : Phase) :
    ServiceAction T E → Option (ServiceRun T E)
  | .enter =>
    match phase with
    | .entering (.generation generation _) =>
      { run with
        generation := generation
        contexts := generation
        status := .starting generation
        joined := none }.proceed .proceed
    | _ => none
  | .factory panic now =>
    match phase, panic with
    | .begun (.generation _ _), none => run.proceed .proceed
    | .begun (.generation generation _), some message =>
      run.panicked spec generation .factory .factory message now
    | _, _ => none
  | .bodyJoined result =>
    match phase with
    | .driving _ _ => { run with joined := some result }.proceed .proceed
    | _ => none
  | .cancelled =>
    match phase with
    | .driving (.generation generation _) _ =>
      { run with status := .stopping generation }.proceed .expire
    | _ => none
  | .callHook panics =>
    match phase with
    | .stopping _ _ =>
      if panics then { run with hook := .panicked }.proceed (.panic "")
      else { run with hook := .notRequired }.proceed .proceed
    | _ => none
  | .awaitHook result =>
    match phase with
    | .hooking _ _ _ =>
      { run with hook := hookOutcome result }.proceed (if result.isSome then .proceed else .expire)
    | _ => none
  | .join result =>
    match phase with
    | .joining _ _ => { run with joined := some result }.proceed .proceed
    | _ => none
  | .decide now =>
    match phase, run.joined with
    | .decided (.generation generation true), some result =>
      run.finish (some (.stopped generation run.hook)) (run.stoppedExit generation result)
    | .decided (.generation generation false), some result =>
      run.afterBody spec generation now result
    | _, _ => none
  | .wake interrupted =>
    match phase, run.cause with
    | .sleeping (.generation generation stopping), some cause =>
      if interrupted then
        run.finish (refusedStatus generation cause) (refusedExit generation cause.lastError)
      else
        match (Iteration.generation generation stopping).next with
        | some _ => run.proceed .proceed
        | none => run.finish none ⟨.failed (.service .generationOverflow), rfl⟩
    | _, _ => none
  | _ => none

/-- `ready` and `set_health` up to their check. -/
def checks (run : ServiceRun T E) (generation : Nat) : Bool :=
  decide (0 < generation ∧ generation ≤ run.contexts) && run.generation == generation &&
    !run.isCancelled

/-- What the execution does by itself: `run_service` decides nothing in it.  To call an
`async fn` does not unwind, and the runner of a service never drops its body. -/
def isForeign (run : ServiceRun T E) : SupervisedAction T E → Bool
  | .body .proceed =>
    match run.execution.body with
    | .running .spawned | .running (.leaving _) | .running (.closing _ _) => true
    | _ => false
  | .runner .proceed => true
  | .body _ | .runner _ => false
  | _ => true

def step (spec : ServiceSpec) (run : ServiceRun T E) :
    ServiceAction T E → Option (ServiceRun T E)
  | .check generation health =>
    if run.checks generation then
      some { run with reports := run.reports ++ [.ready generation health] }
    else none
  | .report status =>
    if status ∈ run.reports then
      some { run with status := status, reports := run.reports.erase status }
    else none
  | .execution action =>
    if run.isForeign action then
      (run.execution.step action).map fun execution => { run with execution := execution }
    else none
  | action =>
    match run.execution.body with
    | .running phase => run.bodyStep spec phase action
    | _ => none

end ServiceRun

/-- All runs of a service. -/
def service (T E : Type) (spec : ServiceSpec) (maximumChildren : Nat) :
    System (ServiceRun T E) (ServiceAction T E) :=
  ⟨.new spec maximumChildren, ServiceRun.step spec⟩

end BusyBeaver
