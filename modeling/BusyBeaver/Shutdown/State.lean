import BusyBeaver.Shutdown.Process
import BusyBeaver.Legacy.State
import BusyBeaver.Executor.State
import BusyBeaver.Supervision.State

/-!
# A `Beaver` and its shutdown

The typed executor, the dams and the shutdown of one `Beaver` (`src/beaver.rs`).  Calls of
`shutdown` and the supervisor they start are cut at every lock and at every await; the
executor and the legacy calls run beside them.  The `lifecycle` mutex is held over several
steps by a direct spawn and by the call that accepts the shutdown, the mutex of the process
slot by the latter.

Locks are never poisoned here, and the runtime handle is there.
-/

namespace BusyBeaver

open Transition

inductive BeaverLifecycle : Type
  | running
  | shuttingDown
  | stopped
  deriving DecidableEq, Repr

/-- Who holds the `lifecycle` mutex over more than one step. -/
inductive LifecycleHolder : Type
  | spawning (id : ExecutionId)
  | accepting (caller : Nat)
  deriving DecidableEq, Repr

/-- The dispatcher task of a lane; its guard runs `dispatcher_stopped` however it ends. -/
inductive DispatcherTask : Type
  | absent
  | running
  | leaving (failure : Option String)
  | exited (failure : Option String)
  deriving DecidableEq, Repr

/-- A worker the supervisor joins. -/
inductive ShutdownWorker : Type
  | dam (dam : Nat)
  | dispatcher (lane : LaneId)
  deriving DecidableEq, Repr

/-! ## The calls and the supervisor -/

inductive ShutdownError : Type
  | configConflict (existing : Nat) (effectiveOptions : ShutdownOptions)
  | invalidGracePeriod
  | lockPoisoned
  deriving DecidableEq, Repr

/-- A call of `shutdown`.  A handle is the id of its process. -/
inductive ShutdownCall : Type
  /-- The options are valid; the process slot is next. -/
  | validated (options : ShutdownOptions)
  /-- The slot is empty and held; the lifecycle section is next. -/
  | created (process : ShutdownProcess)
  /-- Accepted; `active_controls` is next, under the lifecycle lock. -/
  | accepted (process : ShutdownProcess)
  /-- The slot is written; the snapshots of `rest` are next. -/
  | preparing (id : Nat) (rest : List ExecutionId)
      (initial : List (ExecutionId × TaskSnapshot))
  | returned (result : Except ShutdownError Nat)

/-- Where the supervisor stands. -/
inductive ShutdownPhase : Type
  | spawned
  | draining
  | releasing (steps : List CallStep)
  | collecting
  | closing (lanes : List LaneId)
  | cancellingLane (controls : List ExecutionId) (lanes : List LaneId)
  | cancelling (rest : List (ExecutionId × TaskSnapshot))
  | taking
  | arming
  | timerUnavailable
  /-- In the select of the completion and the grace timer. -/
  | racing
  | filtering (rest : List (ExecutionId × TaskSnapshot))
  | forcing (rest : List ExecutionId)
  | recording (rest : List (ExecutionId × TaskSnapshot))
      (records : List TaskShutdownProgressRecord)
  | timingOut (snapshot : ShutdownReportSnapshot)
  /-- Awaiting the completion alone. -/
  | settling
  | reporting (rest : List (ExecutionId × TaskSnapshot)) (summaries : List TaskExitSummary)
      (records : List TaskShutdownRecord)
  | publishing (report : ShutdownReport)
  | publishingFinal (report : ShutdownReport)
  | finishing
  /-- In the drop of an armed guard. -/
  | failing
  | failingFinal
  | failingStopped
  | ended
  deriving DecidableEq, Repr

/-- The supervisor's locals.  `waiting`, `summaries`, `workers` and `failures` are those of
the future `completion`. -/
structure ShutdownSupervisor : Type where
  phase : ShutdownPhase
  initial : List (ExecutionId × TaskSnapshot)
  dams : List Nat
  lanes : List LaneId
  waiting : List ExecutionId
  summaries : List TaskExitSummary
  workers : List ShutdownWorker
  failures : List String
  pending : List ExecutionId
  exceeded : Finset ExecutionId
  forced : Finset ExecutionId
  deriving DecidableEq

/-- The completion has all its answers. -/
def ShutdownSupervisor.isComplete (supervisor : ShutdownSupervisor) : Bool :=
  supervisor.waiting.isEmpty && supervisor.workers.isEmpty

/-- The supervisor is awaiting something, or has not been polled. -/
def ShutdownPhase.suspended : ShutdownPhase → Bool
  | .spawned | .racing | .settling => true
  | _ => false

/-- The final result is being written, or the guard is being dropped: nothing here awaits
or unwinds. -/
def ShutdownPhase.isFinal : ShutdownPhase → Bool
  | .publishing _ | .publishingFinal _ | .finishing | .failing | .failingFinal
  | .failingStopped | .ended => true
  | _ => false

/-! ## The `Beaver` -/

structure BeaverConfig : Type extends ExecutorConfig where
  buffer : Nat
  maxInstant : Instant

structure Beaver : Type where
  executor : Executor
  kinds : ExecutionId → ExecutionKind
  cleanups : ExecutionId → CleanupProgress
  /-- Keys of the map `lanes`. -/
  laneMap : Finset LaneId
  dispatchers : LaneId → DispatcherTask
  /-- The lanes whose `dispatcher` handle has been taken. -/
  takenDispatchers : Finset LaneId
  legacy : Legacy
  lifecycle : BeaverLifecycle
  lifecycleHolder : Option LifecycleHolder
  shutdownProcess : Option ShutdownProcess
  slotHolder : Option Nat
  shutdownProcessCreations : Nat
  shutdowns : Pool ShutdownCall
  supervisor : Option ShutdownSupervisor

inductive LegacyAction : Type
  | enqueue (task : LegacyTask)
  | enqueueOnNewThread (task : LegacyTask) (name : String) (buffer : Nat) (longResident : Bool)
  | cancelAll (controls : List ExecutionId)
  | cancelNonLongResident
  | releaseThreadResourceByName (name : String)
  | cancelTyped (call : Nat)
  | advance (call : Nat) (dams : List Nat)
  | dropDam (dam : Nat)
  | worker (dam : Nat) (event : DamEvent)
  | task (dam : Nat) (event : DamEvent)

/-- What happens in a section of `shutdown`. -/
inductive ShutdownEvent : Type
  | proceed (now : Instant)
  | controls (controls : List ExecutionId)
  | spawn (available : Bool)

inductive SupervisorEvent : Type
  | proceed
  | drain (dams : List Nat)
  | collect (lanes : List LaneId)
  | controls (controls : List ExecutionId)
  | timer (available : Bool)
  | fire (now : Instant)
  | forced (answer : Except ForcedCancellationError ForcedCancellationOutcome)
  | elapsed (now : Instant)
  /-- The runtime drops the task. -/
  | cancel
  | panic

inductive BeaverAction : Type
  | executor (action : ExecutorAction)
  | spawn (id : ExecutionId) (kind : ExecutionKind) (tagTooLong : Bool)
  | submit (id : ExecutionId) (kind : ExecutionKind) (lane : LaneId) (options : SpawnOptions)
      (waiterTicket : Option Nat) (tagTooLong : Bool)
  | setCleanup (id : ExecutionId) (progress : CleanupProgress)
  | createLane (lane : LaneId)
  | dispatch (lane : LaneId)
  | loseDispatcher (lane : LaneId) (message : String)
  | stopDispatcher (lane : LaneId)
  | legacy (action : LegacyAction)
  | callShutdown (caller : Nat) (options : ShutdownOptions) (now : Instant)
  | shutdown (caller : Nat) (event : ShutdownEvent)
  | supervisor (event : SupervisorEvent)

namespace Beaver

/-! ## The typed executor -/

/-- What the executor may do by itself: the rest has locks, tasks or kinds of its own here. -/
def permits (s : Beaver) : ExecutorAction → Bool
  | .spawn _ _ | .submit .. | .closeAdmission | .dispatch _ | .dispatcherStopped _ => false
  | .requestClose lane | .newWaitingProducer lane | .finishWaitingProducer lane _ =>
    decide (lane ∈ s.laneMap)
  | _ => true

/-- A direct spawn gives the lifecycle lock back when it answers. -/
def releaseLifecycle (s : Beaver) : Beaver :=
  match s.lifecycleHolder with
  | some (.spawning id) =>
    match (s.executor.executions id).map Execution.admission with
    | some (.returned _) => { s with lifecycleHolder := none }
    | _ => s
  | _ => s

def runExecutor (config : BeaverConfig) (s : Beaver) (action : ExecutorAction) : Option Beaver :=
  if s.permits action then
    (s.executor.step config.toExecutorConfig action).map fun executor =>
      { s with executor := executor }.releaseLifecycle
  else none

/-- A submission to a lane up to `insert_prepared`, of the kind its `prepare_*` has set. -/
def submit (config : BeaverConfig) (s : Beaver) (id : ExecutionId) (kind : ExecutionKind)
    (lane : LaneId) (options : SpawnOptions) (waiterTicket : Option Nat) (tagTooLong : Bool) :
    Option Beaver :=
  if lane ∈ s.laneMap then
    (s.executor.step config.toExecutorConfig
      (.submit id lane options waiterTicket tagTooLong)).map fun executor =>
        { s with executor := executor, kinds := Function.update s.kinds id kind }
  else none

/-- `spawn`, `spawn_future`, `spawn_recurring` and `start_service` up to `register`. -/
def spawn (config : BeaverConfig) (s : Beaver) (id : ExecutionId) (kind : ExecutionKind)
    (tagTooLong : Bool) : Option Beaver :=
  if s.lifecycle = .running ∧ s.lifecycleHolder = none then
    (s.executor.step config.toExecutorConfig (.spawn id tagTooLong)).map fun executor =>
      { s with
        executor := executor
        kinds := Function.update s.kinds id kind
        lifecycleHolder := some (.spawning id) }
  else none

/-- `create_lane`, for a lane that is not there. -/
def createLane (s : Beaver) (lane : LaneId) : Option Beaver :=
  if s.lifecycle = .running ∧ s.lifecycleHolder = none ∧ s.executor.admitting = none ∧
      s.executor.admissionOpen ∧ lane ∉ s.laneMap then
    some { s with
      laneMap := insert lane s.laneMap
      dispatchers := Function.update s.dispatchers lane .running }
  else none

/-- One turn of `run_dispatcher`. -/
def dispatch (config : BeaverConfig) (s : Beaver) (lane : LaneId) : Option Beaver :=
  if s.dispatchers lane = .running then
    (s.executor.step config.toExecutorConfig (.dispatch lane)).map fun executor =>
      { s with
        executor := executor
        dispatchers :=
          if (executor.lanes lane).lane.shouldExit then
            Function.update s.dispatchers lane (.leaving none)
          else s.dispatchers }
  else none

/-- The drop of the `DispatcherGuard`. -/
def stopDispatcher (config : BeaverConfig) (s : Beaver) (lane : LaneId) : Option Beaver :=
  match s.dispatchers lane with
  | .leaving failure =>
    (s.executor.step config.toExecutorConfig (.dispatcherStopped lane)).map fun executor =>
      { s with
        executor := executor
        dispatchers := Function.update s.dispatchers lane (.exited failure) }
  | _ => none

/-- `control.cancel` up to its locked section; a request that is not accepted changes
nothing, and the sections after an accepted one are the executor's own steps. -/
def cancel (config : BeaverConfig) (s : Beaver) (id : ExecutionId) (reason : CancelReason) :
    Beaver :=
  match s.executor.step config.toExecutorConfig (.requestStop id (.cancel reason)) with
  | some executor => { s with executor := executor }
  | none => s

/-- `TaskControlHandle::snapshot`. -/
def snapshot (s : Beaver) (id : ExecutionId) : Option TaskSnapshot :=
  (s.executor.executions id).map fun x =>
    { executionId := id
      state := x.core.publicState
      stopCause := x.core.stopCause
      finalExit := x.core.terminal
      kind := s.kinds id
      laneId := x.lane }

/-- `control.state().is_terminal()`. -/
def isTerminal (s : Beaver) (id : ExecutionId) : Bool :=
  (s.executor.executions id).any fun x => x.core.publicState.isTerminal

/-- The answer of `control.wait`, once it has one. -/
def waited (s : Beaver) (id : ExecutionId) : Option TaskExitSummary :=
  (s.executor.executions id).bind fun x => if x.waited then x.core.terminal else none

/-! ## The legacy part -/

/-- The dams the supervisor holds. -/
def supervised (s : Beaver) : List Nat := s.supervisor.elim [] ShutdownSupervisor.dams

def runLegacy (config : BeaverConfig) (s : Beaver) (action : LegacyAction) : Option Beaver :=
  let running := decide (s.lifecycle = .running)
  let moved := Option.map fun legacy => { s with legacy := legacy }
  match action with
  | .enqueue task =>
    if s.lifecycleHolder = none then moved (some (s.legacy.enqueue running task)) else none
  | .enqueueOnNewThread task name buffer longResident =>
    if s.lifecycleHolder = none then
      moved (some (s.legacy.enqueueOnNewThread running task name buffer longResident))
    else none
  | .cancelAll controls =>
    if controls.Nodup ∧ controls.toFinset = s.executor.active then
      moved (some (s.legacy.cancelAll controls))
    else none
  | .cancelNonLongResident => moved (some s.legacy.cancelNonLongResident)
  | .releaseThreadResourceByName name => moved (some (s.legacy.releaseThreadResourceByName name))
  | .cancelTyped call =>
    match s.legacy.calls[call]? with
    | some ⟨.cancelTyped id :: rest, answer⟩ =>
      let cancelled := s.cancel config id .userRequested
      some { cancelled with legacy := s.legacy.setCall call ⟨rest, answer⟩ }
    | _ => none
  | .advance call dams => moved (s.legacy.advance call dams)
  | .dropDam dam => moved (s.legacy.dropDam s.supervised dam)
  | .worker dam event => moved (s.legacy.runDam dam fun found => found.workerStep event)
  | .task dam event => moved (s.legacy.runDam dam fun found => found.taskStep event)

/-! ## `shutdown` -/

def setShutdown (s : Beaver) (caller : Nat) (call : ShutdownCall) : Beaver :=
  { s with shutdowns := s.shutdowns.set caller call }

def callShutdown (config : BeaverConfig) (s : Beaver) (caller : Nat) (options : ShutdownOptions)
    (now : Instant) : Option Beaver :=
  if s.shutdowns caller = none then
    some (s.setShutdown caller
      (if ShutdownProcess.validateOptions config.maxInstant options now then .validated options
      else .returned (.error .invalidGracePeriod)))
  else none

/-- The section on the slot: an existing process answers, an empty slot gets one. -/
def lockSlot (config : BeaverConfig) (s : Beaver) (caller : Nat) (options : ShutdownOptions)
    (now : Instant) : Option Beaver :=
  if s.slotHolder = none then
    match s.shutdownProcess with
    | some existing =>
      if s.lifecycleHolder = none then
        some (s.setShutdown caller (.returned
          (if s.lifecycle = .stopped ∨ existing.options = options then .ok existing.id
          else .error (.configConflict existing.id existing.options))))
      else none
    | none =>
      match ShutdownProcess.new config.maxInstant s.shutdownProcessCreations options now with
      | none => some (s.setShutdown caller (.returned (.error .invalidGracePeriod)))
      | some process =>
        some ({ s with
          slotHolder := some caller
          shutdownProcessCreations := s.shutdownProcessCreations + 1 }.setShutdown caller
            (.created process))
  else none

/-- The section on the lifecycle, with the admission lock inside it. -/
def acceptShutdown (config : BeaverConfig) (s : Beaver) (caller : Nat)
    (process : ShutdownProcess) : Option Beaver :=
  if s.lifecycleHolder = none then
    match s.lifecycle with
    | .running =>
      (s.executor.step config.toExecutorConfig .closeAdmission).map fun executor =>
        { s with
          executor := executor
          lifecycle := .shuttingDown
          lifecycleHolder := some (.accepting caller) }.setShutdown caller (.accepted process)
    | _ =>
      some ({ s with slotHolder := none }.setShutdown caller (.returned (.error .lockPoisoned)))
  else none

/-- A supervisor with its guard armed. -/
def newSupervisor (phase : ShutdownPhase) (initial : List (ExecutionId × TaskSnapshot)) :
    ShutdownSupervisor where
  phase := phase
  initial := initial
  dams := []
  lanes := []
  waiting := []
  summaries := []
  workers := []
  failures := []
  pending := []
  exceeded := ∅
  forced := ∅

/-- The next section of a call of `shutdown`. -/
def shutdownStep (config : BeaverConfig) (s : Beaver) (caller : Nat) :
    ShutdownCall → ShutdownEvent → Option Beaver
  | .validated options, .proceed now => s.lockSlot config caller options now
  | .created process, .proceed _ => s.acceptShutdown config caller process
  | .accepted process, .controls controls =>
    if controls.Nodup ∧ controls.toFinset = s.executor.active then
      some ({ s with
        lifecycleHolder := none
        slotHolder := none
        shutdownProcess := some process }.setShutdown caller (.preparing process.id controls []))
    else none
  | .preparing id (control :: rest) initial, .proceed _ =>
    (s.snapshot control).map fun snapshot =>
      s.setShutdown caller (.preparing id rest (initial ++ [(control, snapshot)]))
  | .preparing id [] initial, .spawn available =>
    -- a runtime that is gone drops the future, and the guard with it
    some ({ s with
      supervisor := some (newSupervisor (if available then .spawned else .failing) initial)
      }.setShutdown caller (.returned (.ok id)))
  | _, _ => none

/-! ## The supervisor -/

def moveTo (s : Beaver) (supervisor : ShutdownSupervisor) (phase : ShutdownPhase) : Beaver :=
  { s with supervisor := some { supervisor with phase := phase } }

def publish (s : Beaver) (write : ShutdownProcess → ShutdownProcess) : Beaver :=
  { s with shutdownProcess := s.shutdownProcess.map write }

/-- `collect_callback_failures`. -/
def callbackFailures (s : Beaver) (supervisor : ShutdownSupervisor) : List String :=
  supervisor.dams.flatMap fun dam => s.legacy.dams[dam]?.elim [] Dam.callbackFailures

/-- The default dam is taken, and the map is drained in some order. -/
def drain (s : Beaver) (supervisor : ShutdownSupervisor) (dams : List Nat) : Option Beaver :=
  if dams.isPerm (s.legacy.named.map NamedEntry.dam) then
    let all := supervisor.dams ++ dams
    some ({ s with legacy := { s.legacy with named := [] } }.moveTo { supervisor with dams := all }
      (.releasing (all.flatMap (onDam · Dam.release))))
  else none

/-- A section of `dam.release()`. -/
def releaseDam (s : Beaver) (supervisor : ShutdownSupervisor) (rest : List CallStep) (dam : Nat)
    (step : DamStep) : Option Beaver :=
  (s.legacy.damStep dam step).map fun
    | .error _ => s.moveTo supervisor (.releasing rest)
    | .ok (legacy, steps) =>
      { s with legacy := legacy }.moveTo supervisor (.releasing (onDam dam steps ++ rest))

/-- `lane.request_close()`, or the first half of `lane.request_close_and_cancel()`. -/
def closeLane (config : BeaverConfig) (s : Beaver) (supervisor : ShutdownSupervisor) (lane : LaneId)
    (lanes : List LaneId) (mode : ShutdownMode) (controls : List ExecutionId) : Option Beaver :=
  if controls.Nodup ∧ controls.toFinset = (s.executor.lanes lane).lane.active then
    (s.executor.step config.toExecutorConfig (.requestClose lane)).map fun executor =>
      { s with executor := executor }.moveTo supervisor
        (match mode with
        | .cancelAll => .cancellingLane controls lanes
        | .drainFinite => .closing lanes)
  else none

/-- The controls that are not spared by the mode are cancelled. -/
def cancelInitial (config : BeaverConfig) (s : Beaver) (mode : ShutdownMode) (id : ExecutionId)
    (snapshot : TaskSnapshot) : Beaver :=
  match mode with
  | .cancelAll => s.cancel config id .executorShutdown
  | .drainFinite =>
    if snapshot.kind ≠ .finite then s.cancel config id .executorShutdown else s

/-- The workers are taken and the completion future is made. -/
def takeWorkers (s : Beaver) (supervisor : ShutdownSupervisor) : Beaver :=
  let dams := supervisor.dams.filter fun dam => s.legacy.dams[dam]?.any Dam.handle
  let lanes := supervisor.lanes.filter fun lane => decide (lane ∉ s.takenDispatchers)
  let taken : Legacy :=
    { s.legacy with
      dams := s.legacy.dams.mapIdx fun dam found =>
        if dam ∈ dams then { found with handle := false } else found }
  { s with
    legacy := taken
    takenDispatchers := s.takenDispatchers ∪ lanes.toFinset }.moveTo
      { supervisor with
        waiting := supervisor.initial.map Prod.fst
        workers := dams.map ShutdownWorker.dam ++ lanes.map ShutdownWorker.dispatcher } .arming

/-- What a join handle reports, once the worker has exited. -/
def workerResult (s : Beaver) : ShutdownWorker → Option (Option String)
  | .dam dam =>
    match s.legacy.dams[dam]?.map Dam.worker with
    | some (.exited failure) => some failure
    | _ => none
  | .dispatcher lane =>
    match s.dispatchers lane with
    | .exited failure => some failure
    | _ => none

/-- The next await of the completion that is ready. -/
def complete (s : Beaver) (supervisor : ShutdownSupervisor) : Option ShutdownSupervisor :=
  match supervisor.waiting, supervisor.workers with
  | control :: rest, _ =>
    (s.waited control).map fun summary =>
      { supervisor with waiting := rest, summaries := supervisor.summaries ++ [summary] }
  | [], worker :: rest =>
    (s.workerResult worker).map fun failure =>
      { supervisor with workers := rest, failures := supervisor.failures ++ failure.toList }
  | [], [] =>
    some { supervisor with phase := .reporting supervisor.initial supervisor.summaries [] }

/-! ## The supervisor, phase by phase -/

/-- The record of one execution at the timeout. -/
def progressRecord (s : Beaver) (supervisor : ShutdownSupervisor) (id : ExecutionId)
    (initial current : TaskSnapshot) : TaskShutdownProgressRecord where
  executionId := id
  snapshotAtStart := initial
  graceDeadlineExceeded := decide (id ∈ supervisor.exceeded)
  forcedCancellationRequested := decide (id ∈ supervisor.forced)
  finalExit := current.finalExit
  cleanup := (s.cleanups id).reported (s.isTerminal id)

/-- The record of one execution in the final report. -/
def shutdownRecord (s : Beaver) (supervisor : ShutdownSupervisor) (id : ExecutionId)
    (initial : TaskSnapshot) (finalExit : TaskExitSummary) : TaskShutdownRecord where
  executionId := id
  snapshotAtStart := initial
  graceDeadlineExceeded := decide (id ∈ supervisor.exceeded)
  forcedCancellationRequested := decide (id ∈ supervisor.forced)
  finalExit := finalExit
  cleanup := (s.cleanups id).finalOutcome

/-- The answers of `request_forced_cancellation` that count as a request. -/
def countsAsForced : Except ForcedCancellationError ForcedCancellationOutcome → Bool
  | .ok .requested | .ok .alreadyRequested => true
  | _ => false

/-- The answers `request_forced_cancellation` can give: it looks at the state first. -/
def mayAnswer (s : Beaver) (id : ExecutionId) :
    Except ForcedCancellationError ForcedCancellationOutcome → Bool
  | .ok .alreadyTerminal => s.isTerminal id
  | _ => !s.isTerminal id

/-- What the drop of an armed guard reports. -/
def cancelledMessage : String := "shutdown supervisor was cancelled by its runtime"

/-- The final report: the records are sorted by execution. -/
def finalReport (s : Beaver) (supervisor : ShutdownSupervisor) (acceptedAt now : Instant)
    (records : List TaskShutdownRecord) : ShutdownReport where
  tasks := records.mergeSort fun one other => decide (one.executionId ≤ other.executionId)
  callbackFailures := s.callbackFailures supervisor
  workerFailures := supervisor.failures
  elapsed := now - acceptedAt

/-- The writes at the end of `run_shutdown_supervisor`, and those of the guard's drop. -/
def settle (s : Beaver) (supervisor : ShutdownSupervisor) : ShutdownPhase → Option Beaver
  | .publishing report =>
    some ((s.publish fun process => process.settleGrace (.stopped report)).moveTo supervisor
      (.publishingFinal report))
  | .publishingFinal report =>
    some ((s.publish fun process => process.settleFinal (.ok report)).moveTo supervisor .finishing)
  | .finishing | .failingStopped =>
    if s.lifecycleHolder = none then
      some ({ s with lifecycle := .stopped }.moveTo supervisor .ended)
    else none
  | .failing =>
    some ((s.publish fun process => process.settleGrace (.failed cancelledMessage)).moveTo
      supervisor .failingFinal)
  | .failingFinal =>
    some ((s.publish fun process => process.settleFinal (.error cancelledMessage)).moveTo
      supervisor .failingStopped)
  | _ => none

/-- From the first poll to the completion future. -/
def begin (config : BeaverConfig) (s : Beaver) (process : ShutdownProcess)
    (supervisor : ShutdownSupervisor) : ShutdownPhase → SupervisorEvent → Option Beaver
  | .spawned, .proceed =>
    some ({ s with legacy := { s.legacy with default := none } }.moveTo
      { supervisor with dams := s.legacy.default.toList } .draining)
  | .draining, .drain dams => s.drain supervisor dams
  | .releasing (.work dam step :: rest), .proceed => s.releaseDam supervisor rest dam step
  | .releasing [], .proceed => some (s.moveTo supervisor .collecting)
  | .collecting, .collect lanes =>
    if lanes.Nodup ∧ lanes.toFinset = s.laneMap then
      some (s.moveTo { supervisor with lanes := lanes } (.closing lanes))
    else none
  | .closing (lane :: lanes), .controls controls =>
    s.closeLane config supervisor lane lanes process.options.mode controls
  | .closing [], .proceed => some (s.moveTo supervisor (.cancelling supervisor.initial))
  | .cancellingLane (control :: controls) lanes, .proceed =>
    some ((s.cancel config control .executorShutdown).moveTo supervisor
      (.cancellingLane controls lanes))
  | .cancellingLane [] lanes, .proceed => some (s.moveTo supervisor (.closing lanes))
  | .cancelling ((control, snapshot) :: rest), .proceed =>
    some ((s.cancelInitial config process.options.mode control snapshot).moveTo supervisor
      (.cancelling rest))
  | .cancelling [], .proceed => some (s.moveTo supervisor .taking)
  | .taking, .proceed => some (s.takeWorkers supervisor)
  | _, _ => none

/-- The handler of the grace timer. -/
def timeOut (s : Beaver) (process : ShutdownProcess) (supervisor : ShutdownSupervisor) :
    ShutdownPhase → SupervisorEvent → Option Beaver
  | .filtering ((control, _) :: rest), .proceed =>
    let pending :=
      if s.isTerminal control then supervisor.pending else supervisor.pending ++ [control]
    some (s.moveTo { supervisor with pending := pending } (.filtering rest))
  | .filtering [], .proceed =>
    some (s.moveTo { supervisor with exceeded := supervisor.pending.toFinset }
      (if process.options.onTimeout = .abortAllowed then .forcing supervisor.pending
      else .recording supervisor.initial []))
  | .forcing (control :: rest), .forced answer =>
    if s.mayAnswer control answer then
      let forced :=
        if countsAsForced answer then insert control supervisor.forced else supervisor.forced
      some (s.moveTo { supervisor with forced := forced } (.forcing rest))
    else none
  | .forcing [], .proceed => some (s.moveTo supervisor (.recording supervisor.initial []))
  | .recording ((control, initial) :: rest) records, .proceed =>
    (s.snapshot control).map fun current =>
      s.moveTo supervisor
        (.recording rest (records ++ [s.progressRecord supervisor control initial current]))
  | .recording [] records, .elapsed now =>
    some (s.moveTo supervisor (.timingOut
      { tasks := records
        callbackFailures := s.callbackFailures supervisor
        workerFailures := []
        elapsed := now - process.acceptedAt }))
  | .timingOut snapshot, .proceed =>
    some ((s.publish fun process => process.publishTimeout snapshot supervisor.pending).moveTo
      supervisor .settling)
  | _, _ => none

/-- The await of the completion, with the grace timer and without it. -/
def awaitCompletion (s : Beaver) (process : ShutdownProcess) (supervisor : ShutdownSupervisor) :
    ShutdownPhase → SupervisorEvent → Option Beaver
  | .arming, .timer available =>
    some (s.moveTo supervisor
      (if process.options.onTimeout = .wait then .settling
      else if available then .racing
      else .timerUnavailable))
  | .timerUnavailable, .proceed =>
    some ((s.publish fun process => process.settleGrace .timerUnavailable).moveTo supervisor
      .settling)
  | .racing, .proceed | .settling, .proceed =>
    (s.complete supervisor).map fun supervisor => { s with supervisor := some supervisor }
  | .racing, .fire now =>
    -- the select is biased: the timer is looked at when the completion is pending
    if process.graceDeadline ≤ now ∧ supervisor.isComplete = false then
      some (s.moveTo supervisor (.filtering supervisor.initial))
    else none
  | _, _ => none

/-- The final report, one record after the other. -/
def report (s : Beaver) (process : ShutdownProcess) (supervisor : ShutdownSupervisor) :
    ShutdownPhase → SupervisorEvent → Option Beaver
  | .reporting ((control, initial) :: rest) (summary :: summaries) records, .proceed =>
    some (s.moveTo supervisor (.reporting rest summaries
      (records ++ [s.shutdownRecord supervisor control initial summary])))
  | .reporting ((control, initial) :: rest) [] records, .proceed =>
    (s.waited control).map fun summary =>
      s.moveTo supervisor (.reporting rest []
        (records ++ [s.shutdownRecord supervisor control initial summary]))
  | .reporting [] _ records, .elapsed now =>
    some (s.moveTo supervisor
      (.publishing (s.finalReport supervisor process.acceptedAt now records)))
  | _, _ => none

/-- One step of the supervisor's task. -/
def supervisorStep (config : BeaverConfig) (s : Beaver) (process : ShutdownProcess)
    (supervisor : ShutdownSupervisor) (event : SupervisorEvent) : Option Beaver :=
  match event with
  | .cancel =>
    if supervisor.phase.suspended then some (s.moveTo supervisor .failing) else none
  | .panic => if supervisor.phase.isFinal then none else some (s.moveTo supervisor .failing)
  | event =>
    match supervisor.phase with
    | .spawned | .draining | .releasing _ | .collecting | .closing _ | .cancellingLane _ _
    | .cancelling _ | .taking => s.begin config process supervisor supervisor.phase event
    | .arming | .timerUnavailable | .racing | .settling =>
      s.awaitCompletion process supervisor supervisor.phase event
    | .filtering _ | .forcing _ | .recording _ _ | .timingOut _ =>
      s.timeOut process supervisor supervisor.phase event
    | .reporting _ _ _ => s.report process supervisor supervisor.phase event
    | phase =>
      match event with
      | .proceed => s.settle supervisor phase
      | _ => none

/-! ## The system -/

def step (config : BeaverConfig) (s : Beaver) : BeaverAction → Option Beaver
  | .executor action => s.runExecutor config action
  | .spawn id kind tagTooLong => s.spawn config id kind tagTooLong
  | .submit id kind lane options ticket tagTooLong =>
    s.submit config id kind lane options ticket tagTooLong
  | .setCleanup id progress => some { s with cleanups := Function.update s.cleanups id progress }
  | .createLane lane => s.createLane lane
  | .dispatch lane => s.dispatch config lane
  | .loseDispatcher lane message =>
    if s.dispatchers lane = .running then
      some { s with dispatchers := Function.update s.dispatchers lane (.leaving (some message)) }
    else none
  | .stopDispatcher lane => s.stopDispatcher config lane
  | .legacy action => s.runLegacy config action
  | .callShutdown caller options now => s.callShutdown config caller options now
  | .shutdown caller event =>
    (s.shutdowns caller).bind fun call => s.shutdownStep config caller call event
  | .supervisor event =>
    match s.shutdownProcess, s.supervisor with
    | some process, some supervisor => s.supervisorStep config process supervisor event
    | _, _ => none

end Beaver

/-- A `Beaver` as `build_with_handle` leaves it. -/
def beaver (config : BeaverConfig) : System Beaver BeaverAction where
  init :=
    { executor := (executor config.toExecutorConfig).init
      kinds := fun _ => .finite
      cleanups := fun _ => .notRequired
      laneMap := ∅
      dispatchers := fun _ => .absent
      takenDispatchers := ∅
      legacy := .new config.buffer
      lifecycle := .running
      lifecycleHolder := none
      shutdownProcess := none
      slotHolder := none
      shutdownProcessCreations := 0
      shutdowns := fun _ => none
      supervisor := none }
  step := Beaver.step config

end BusyBeaver
