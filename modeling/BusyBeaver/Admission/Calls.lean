import BusyBeaver.Lib.Guards
import BusyBeaver.Lane.State
import BusyBeaver.Scope.State
import BusyBeaver.Shutdown.State

/-!
# The admission calls and the submission they may drop

Every call that submits work (`src/beaver.rs`, `src/lane.rs`, `src/scope.rs`), cut down to the
mutexes that its thread locks and to the drop of the submission: of the parameter it came as,
after the guards among the locals, or of the `start` that was made of it.  Other threads run
between the sections, so each section reads a state of its own.

The mutexes of the execution itself are left out, since nothing is dropped under them, and so
are the `prepare_*`, which do not fail.
-/

namespace BusyBeaver

open Guarded

/-- The mutexes of the executor. -/
inductive ExecutorMutex : Type
  | lifecycle
  | admissionOpen
  | laneState
  /-- The map of the active executions. -/
  | registry
  | scopeState
  deriving DecidableEq, Repr

/-! ## The registry -/

/-- What `ExecutionRegistry::register` reads. -/
structure RegisterReadings : Type where
  tagTooLong : Bool
  active : Nat
  maxActiveExecutions : Nat

/-- `ExecutionRegistry::register`; it answers the resource that is used up. -/
def register (readings : RegisterReadings) : Guarded ExecutorMutex (Option String) :=
  if readings.tagTooLong then return some "tag bytes"
  else
    locking .registry
      (pure (if readings.maxActiveExecutions ≤ readings.active then some "active executions"
        else none))

/-! ## Direct spawns -/

/-- The errors of a direct spawn. -/
inductive BeaverError : Type
  | lockPoisoned
  | executorShuttingDown
  | workerFailed (message : String)
  | resourceLimitExceeded (resource : String)
  deriving DecidableEq, Repr

structure SpawnReadings : Type where
  poisoned : Bool
  lifecycle : BeaverLifecycle
  /-- There is a runtime handle. -/
  runtime : Bool
  registering : RegisterReadings

/-- What the direct spawns share: the start is registered under the `lifecycle` lock. -/
def spawnStart (readings : SpawnReadings) : Guarded ExecutorMutex (Except BeaverError Unit) := do
  acquire .lifecycle
  if readings.poisoned then
    release .lifecycle
    destroy
    return .error .lockPoisoned
  else if readings.lifecycle ≠ .running then
    release .lifecycle
    destroy
    return .error .executorShuttingDown
  else if readings.runtime = false then
    release .lifecycle
    destroy
    return .error (.workerFailed "runtime handle missing")
  else
    match ← register readings.registering with
    | some resource =>
      -- `start` is a local of the callee, or one below the guard
      destroy
      release .lifecycle
      return .error (.resourceLimitExceeded resource)
    | none =>
      release .lifecycle
      return .ok ()

/-- `Beaver::spawn`, with `spawn_spec`. -/
def spawn (readings : SpawnReadings) : Guarded ExecutorMutex (Except BeaverError Unit) :=
  spawnStart readings

/-- `Beaver::spawn_future`, with `spawn_future_internal`. -/
def spawnFuture (readings : SpawnReadings) : Guarded ExecutorMutex (Except BeaverError Unit) :=
  spawnStart readings

/-- `Beaver::spawn_recurring`. -/
def spawnRecurring (readings : SpawnReadings) : Guarded ExecutorMutex (Except BeaverError Unit) :=
  spawnStart readings

/-- `Beaver::start_service`. -/
def startService (readings : SpawnReadings) : Guarded ExecutorMutex (Except BeaverError Unit) :=
  spawnStart readings

/-! ## Lanes -/

structure LaneReadings : Type where
  config : LaneConfig
  executionId : ExecutionId
  admissionOpen : Bool
  /-- The lane in the section of `check_try_admission_for`. -/
  checked : LaneState
  /-- The lane in the section of `insert_prepared`. -/
  inserting : LaneState
  registering : RegisterReadings
  /-- The lane in the section of `remove_queued`. -/
  removing : LaneState

namespace Lane

variable (readings : LaneReadings)

/-- `check_try_admission_for`: on success the guard of `admission_open` is the caller's. -/
def checkTryAdmissionFor (waiterTicket : Option Nat) :
    Guarded ExecutorMutex (Except SpawnError Unit) := do
  acquire .admissionOpen
  if readings.admissionOpen then
    match ← locking .laneState
        (pure (readings.checked.admissionError readings.config waiterTicket)) with
    | some error =>
      release .admissionOpen
      return .error error
    | none => return .ok ()
  else
    release .admissionOpen
    return .error .executorShuttingDown

/-- `remove_queued`: the entry is dropped after the section. -/
def removeQueued : Guarded ExecutorMutex Unit := do
  match ← locking .laneState (pure (readings.removing.removeQueued readings.executionId).2.1) with
  | some _ => destroy
  | none => return ()

/-- `insert_prepared`: a refused `start` is dropped after the section. -/
def insertPrepared (options : SpawnOptions) (waiterTicket : Option Nat) :
    Guarded ExecutorMutex (Except SpawnError Unit) := do
  match ← locking .laneState (pure (readings.inserting.insertPrepared readings.config
      readings.executionId options waiterTicket)) with
  | .error error =>
    destroy
    return .error error
  | .ok _ =>
    match ← register readings.registering with
    | some resource =>
      removeQueued readings
      return .error (.internal resource)
    | none => return .ok ()

/-- What the submissions without a deadline share. -/
def submitStart (options : SpawnOptions) (waiterTicket : Option Nat) :
    Guarded ExecutorMutex (Except SpawnError Unit) := do
  match ← checkTryAdmissionFor readings waiterTicket with
  | .error error =>
    destroy
    return .error error
  | .ok () =>
    let result ← insertPrepared readings options waiterTicket
    release .admissionOpen
    return result

def trySpawnWithOptionsFor (options : SpawnOptions) (waiterTicket : Option Nat) :
    Guarded ExecutorMutex (Except SpawnError Unit) :=
  submitStart readings options waiterTicket

def trySpawnWithOptions (options : SpawnOptions) :
    Guarded ExecutorMutex (Except SpawnError Unit) :=
  trySpawnWithOptionsFor readings options none

def trySpawn : Guarded ExecutorMutex (Except SpawnError Unit) := trySpawnWithOptions readings {}

def trySpawnFutureWithOptions (options : SpawnOptions) :
    Guarded ExecutorMutex (Except SpawnError Unit) :=
  submitStart readings options none

def trySpawnFuture : Guarded ExecutorMutex (Except SpawnError Unit) :=
  trySpawnFutureWithOptions readings {}

def trySpawnRecurringWithOptionsFor (options : SpawnOptions) (waiterTicket : Option Nat) :
    Guarded ExecutorMutex (Except SpawnError Unit) :=
  submitStart readings options waiterTicket

def trySpawnRecurringWithOptions (options : SpawnOptions) :
    Guarded ExecutorMutex (Except SpawnError Unit) :=
  trySpawnRecurringWithOptionsFor readings options none

def trySpawnRecurring : Guarded ExecutorMutex (Except SpawnError Unit) :=
  trySpawnRecurringWithOptions readings {}

def trySpawnScoped : Guarded ExecutorMutex (Except SpawnError Unit) :=
  submitStart readings {} none

def trySpawnFutureScoped : Guarded ExecutorMutex (Except SpawnError Unit) :=
  submitStart readings {} none

def trySpawnRecurringScoped : Guarded ExecutorMutex (Except SpawnError Unit) :=
  submitStart readings {} none

/-! ### Retries -/

/-- The deadline has passed. -/
def missed (deadline : Option Instant) (now : Instant) : Bool :=
  deadline.any fun deadline => decide (deadline ≤ now)

/-- `try_spawn_retry_at` looks at the clock before and after the admission check. -/
def trySpawnRetryAt (deadline : Option Instant) (before after : Instant)
    (waiterTicket : Option Nat) : Guarded ExecutorMutex (Except SpawnError Unit) := do
  if missed deadline before then
    destroy
    return .error .admissionDeadlineExceeded
  else
    match ← checkTryAdmissionFor readings waiterTicket with
    | .error error =>
      destroy
      return .error error
    | .ok () =>
      if missed deadline after then
        release .admissionOpen
        destroy
        return .error .admissionDeadlineExceeded
      else
        let result ← insertPrepared readings {} waiterTicket
        release .admissionOpen
        return result

/-- `try_spawn_retry`; `deadline` is what `deadline_at` answers. -/
def trySpawnRetry (deadline : Option (Option Instant)) (before after : Instant) :
    Guarded ExecutorMutex (Except SpawnError Unit) :=
  match deadline with
  | none => do
    destroy
    return .error .admissionDeadlineExceeded
  | some deadline => trySpawnRetryAt readings deadline before after none

/-- `try_spawn_retry_scoped` looks at the clock once. -/
def trySpawnRetryScoped (deadline : Option (Option Instant)) (before : Instant) :
    Guarded ExecutorMutex (Except SpawnError Unit) :=
  match deadline with
  | none => do
    destroy
    return .error .admissionDeadlineExceeded
  | some deadline =>
    if missed deadline before then do
      destroy
      return .error .admissionDeadlineExceeded
    else submitStart readings {} none

end Lane

/-! ## Scopes -/

/-- A `ScopeSpawnError`. -/
inductive ScopeAdmissionError : Type
  | refused (error : ScopeSpawnError)
  | lockPoisoned
  | lane (error : SpawnError)
  deriving DecidableEq, Repr

structure ScopeReadings : Type where
  world : ScopeWorld
  family : Nat
  generation : ScopeId
  poisoned : Bool
  lane : LaneReadings

namespace ScopeGeneration

variable (readings : ScopeReadings)

/-- What the calls of a generation share: the submission to the lane is moved into it, under
the state mutex of the scope. -/
def submit (submission : Guarded ExecutorMutex (Except SpawnError Unit)) :
    Guarded ExecutorMutex (Except ScopeAdmissionError Unit) :=
  match (readings.world.families readings.family).filter ScopeInner.alive with
  | none => do
    destroy
    return .error (.refused .scopeClosed)
  | some inner => do
    acquire .scopeState
    if readings.poisoned then
      release .scopeState
      destroy
      return .error .lockPoisoned
    else
      match readings.world.checkCurrent inner.state readings.generation with
      | some error =>
        release .scopeState
        destroy
        return .error (.refused error)
      | none =>
        let result ← submission
        release .scopeState
        return result.mapError .lane

def trySpawn : Guarded ExecutorMutex (Except ScopeAdmissionError Unit) :=
  submit readings (Lane.trySpawnScoped readings.lane)

def trySpawnFuture : Guarded ExecutorMutex (Except ScopeAdmissionError Unit) :=
  submit readings (Lane.trySpawnFutureScoped readings.lane)

def trySpawnRetry (deadline : Option (Option Instant)) (before : Instant) :
    Guarded ExecutorMutex (Except ScopeAdmissionError Unit) :=
  submit readings (Lane.trySpawnRetryScoped readings.lane deadline before)

def trySpawnRecurring : Guarded ExecutorMutex (Except ScopeAdmissionError Unit) :=
  submit readings (Lane.trySpawnRecurringScoped readings.lane)

end ScopeGeneration

/-! ## Every call -/

/-- A call of an admission entry point, with what it reads. -/
inductive AdmissionCall : Type
  | spawn (readings : SpawnReadings)
  | spawnFuture (readings : SpawnReadings)
  | spawnRecurring (readings : SpawnReadings)
  | startService (readings : SpawnReadings)
  | trySpawn (readings : LaneReadings)
  | trySpawnWithOptions (readings : LaneReadings) (options : SpawnOptions)
  | trySpawnWithOptionsFor (readings : LaneReadings) (options : SpawnOptions)
      (waiterTicket : Option Nat)
  | trySpawnFuture (readings : LaneReadings)
  | trySpawnFutureWithOptions (readings : LaneReadings) (options : SpawnOptions)
  | trySpawnRetry (readings : LaneReadings) (deadline : Option (Option Instant))
      (before after : Instant)
  | trySpawnRetryAt (readings : LaneReadings) (deadline : Option Instant) (before after : Instant)
      (waiterTicket : Option Nat)
  | trySpawnRecurring (readings : LaneReadings)
  | trySpawnRecurringWithOptions (readings : LaneReadings) (options : SpawnOptions)
  | trySpawnRecurringWithOptionsFor (readings : LaneReadings) (options : SpawnOptions)
      (waiterTicket : Option Nat)
  | scopeTrySpawn (readings : ScopeReadings)
  | scopeTrySpawnFuture (readings : ScopeReadings)
  | scopeTrySpawnRetry (readings : ScopeReadings) (deadline : Option (Option Instant))
      (before : Instant)
  | scopeTrySpawnRecurring (readings : ScopeReadings)

/-- What the thread holds each time the call drops the submission. -/
def AdmissionCall.drops : AdmissionCall → List (List ExecutorMutex)
  | .spawn readings => Guarded.drops (BusyBeaver.spawn readings)
  | .spawnFuture readings => Guarded.drops (BusyBeaver.spawnFuture readings)
  | .spawnRecurring readings => Guarded.drops (BusyBeaver.spawnRecurring readings)
  | .startService readings => Guarded.drops (BusyBeaver.startService readings)
  | .trySpawn readings => Guarded.drops (Lane.trySpawn readings)
  | .trySpawnWithOptions readings options =>
    Guarded.drops (Lane.trySpawnWithOptions readings options)
  | .trySpawnWithOptionsFor readings options waiterTicket =>
    Guarded.drops (Lane.trySpawnWithOptionsFor readings options waiterTicket)
  | .trySpawnFuture readings => Guarded.drops (Lane.trySpawnFuture readings)
  | .trySpawnFutureWithOptions readings options =>
    Guarded.drops (Lane.trySpawnFutureWithOptions readings options)
  | .trySpawnRetry readings deadline before after =>
    Guarded.drops (Lane.trySpawnRetry readings deadline before after)
  | .trySpawnRetryAt readings deadline before after waiterTicket =>
    Guarded.drops (Lane.trySpawnRetryAt readings deadline before after waiterTicket)
  | .trySpawnRecurring readings => Guarded.drops (Lane.trySpawnRecurring readings)
  | .trySpawnRecurringWithOptions readings options =>
    Guarded.drops (Lane.trySpawnRecurringWithOptions readings options)
  | .trySpawnRecurringWithOptionsFor readings options waiterTicket =>
    Guarded.drops (Lane.trySpawnRecurringWithOptionsFor readings options waiterTicket)
  | .scopeTrySpawn readings => Guarded.drops (ScopeGeneration.trySpawn readings)
  | .scopeTrySpawnFuture readings => Guarded.drops (ScopeGeneration.trySpawnFuture readings)
  | .scopeTrySpawnRetry readings deadline before =>
    Guarded.drops (ScopeGeneration.trySpawnRetry readings deadline before)
  | .scopeTrySpawnRecurring readings => Guarded.drops (ScopeGeneration.trySpawnRecurring readings)

end BusyBeaver
