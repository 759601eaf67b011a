import BusyBeaver.Lib.Transition
import BusyBeaver.Lib.Pool
import BusyBeaver.Slot.State
import Mathlib.Data.Finset.Option

/-!
# Runs of one task slot

The slot with the supervisor of every accepted transaction, interleaved at the points
where `src/slot.rs` releases the slot mutex or awaits.  The lane is an oracle here: an
admission answers with a fresh execution or an error, a parked supervisor may be woken
at any time, a live execution may finish at any time.

`SlotRun.Moved` lists every branch of a step once, with its guards; the invariants are
case analyses over it.
-/

namespace BusyBeaver

open Transition

/-- Where the supervisor of a transaction stands; from `monitoring` on it is its
monitor that runs. -/
inductive SupervisorPhase : Type
  | spawned
  | waiting (previous : ExecutionId)
  | trying
  | parked
  | admitted (executionId : ExecutionId)
  | published (executionId : ExecutionId)
  | monitoring (executionId : ExecutionId)
  | ended
  deriving DecidableEq, Repr

/-- The execution that is admitted and not yet published. -/
def SupervisorPhase.unpublished : SupervisorPhase → Option ExecutionId
  | .admitted executionId => some executionId
  | _ => none

/-- The task awaits, so the loss of the runtime can drop it here. -/
def SupervisorPhase.suspended : SupervisorPhase → Bool
  | .spawned | .waiting _ | .parked | .monitoring _ => true
  | _ => false

/-- One call of `run_replace`.  `admission` and `announced` are history: the execution
its `try_spawn` returned, and whether it entered the publication. -/
structure Supervisor : Type where
  revision : Nat
  specId : TaskSpecId
  policy : ReplacePolicy
  previous : Option ExecutionId
  phase : SupervisorPhase
  outcome : Option ReplaceOutcome
  admission : Option ExecutionId
  announced : Bool
  deriving DecidableEq, Repr

namespace Supervisor

def spawn (revision : Nat) (specId : TaskSpecId) (policy : ReplacePolicy)
    (previous : Option ExecutionId) : Supervisor where
  revision := revision
  specId := specId
  policy := policy
  previous := previous
  phase := .spawned
  outcome := none
  admission := none
  announced := false

/-- The predecessor that is cancelled and awaited before the admission. -/
def awaited (supervisor : Supervisor) : Option ExecutionId :=
  match supervisor.policy with
  | .strictSingleInstance => supervisor.previous
  | .availabilityFirst => none

/-- The predecessor that is cancelled after the publication. -/
def retired (supervisor : Supervisor) : Option ExecutionId :=
  match supervisor.policy with
  | .strictSingleInstance => none
  | .availabilityFirst => supervisor.previous

def moveTo (supervisor : Supervisor) (phase : SupervisorPhase) : Supervisor :=
  { supervisor with phase }

def answer (supervisor : Supervisor) (phase : SupervisorPhase) (outcome : ReplaceOutcome) :
    Supervisor :=
  { supervisor with phase, outcome := some outcome }

end Supervisor

/-- A slot, its supervisors by transaction, and the executions admitted through it:
those not yet terminal, all of them, and those a cancellation was requested of. -/
structure SlotRun : Type where
  slot : SlotState
  supervisors : Pool Supervisor
  live : Finset ExecutionId
  issued : Finset ExecutionId
  cancelled : Finset ExecutionId
  logged : List String

inductive SlotAction : Type
  | replace (path : List ExecutionId) (revision : Nat) (specId : TaskSpecId)
      (policy : ReplacePolicy)
  | start (transaction : Nat)
  | waited (transaction : Nat)
  | attempt (transaction : Nat) (answer : Except SpawnError ExecutionId)
  | wake (transaction : Nat)
  | publish (transaction : Nat)
  | deliver (transaction : Nat)
  | clear (transaction : Nat)
  | lose (transaction : Nat)
  | finish (executionId : ExecutionId)
  | cancelCurrent
  | close

namespace SlotRun

/-- A slot nothing was submitted to. -/
def new : SlotRun where
  slot := .new
  supervisors := fun _ => none
  live := ∅
  issued := ∅
  cancelled := ∅
  logged := []

def move (run : SlotRun) (transaction : Nat) (supervisor : Supervisor) : SlotRun :=
  { run with supervisors := run.supervisors.set transaction supervisor }

def cancel (run : SlotRun) (control : Option ExecutionId) : SlotRun :=
  { run with cancelled := run.cancelled ∪ control.toFinset }

def issue (run : SlotRun) (executionId : ExecutionId) : SlotRun :=
  { run with live := insert executionId run.live, issued := insert executionId run.issued }

/-- `TaskSlot::replace` with the spawn of its supervisor. -/
def replace (run : SlotRun) (path : List ExecutionId) (revision : Nat) (specId : TaskSpecId)
    (policy : ReplacePolicy) : SlotRun :=
  match run.slot.replace path revision specId policy with
  | (slot, .accepted transaction previous) =>
    { run with slot }.move transaction (.spawn revision specId policy previous)
  | (slot, _) => { run with slot }

/-- The beginning of `run_replace`, up to its first await or its loop. -/
def start (run : SlotRun) (transaction : Nat) (supervisor : Supervisor) : SlotRun :=
  match supervisor.awaited with
  | some previous =>
    (run.cancel (some previous)).move transaction (supervisor.moveTo (.waiting previous))
  | none => run.move transaction (supervisor.moveTo .trying)

/-- One turn of the loop of `run_replace`: the check and `try_spawn` under the slot
mutex, and what the loop does with the answer. -/
def attempt (run : SlotRun) (transaction : Nat) (supervisor : Supervisor)
    (answer : Except SpawnError ExecutionId) : Option SlotRun :=
  if run.slot.superseded transaction supervisor.revision then
    some (run.move transaction (supervisor.answer .ended (.superseded supervisor.revision)))
  else
    match answer with
    | .ok executionId =>
      if executionId ∈ run.issued then none
      else some ((run.issue executionId).move transaction
        { supervisor with phase := .admitted executionId, admission := some executionId })
    | .error .queueFull => some (run.move transaction (supervisor.moveTo .parked))
    | .error error =>
      some (run.move transaction
        (supervisor.answer .ended (.admissionFailed supervisor.revision error)))

/-- The second critical section of `run_replace`. -/
def publish (run : SlotRun) (transaction : Nat) (supervisor : Supervisor)
    (executionId : ExecutionId) : SlotRun :=
  if run.slot.superseded transaction supervisor.revision then
    (run.cancel (some executionId)).move transaction
      (supervisor.answer .ended (.superseded supervisor.revision))
  else
    { run with slot := run.slot.publish executionId }.move transaction
      { supervisor with phase := .published executionId, announced := true }

/-- The end of `run_replace`: the predecessor of an availability-first replacement is
cancelled, the monitor spawned and the handle answered. -/
def deliver (run : SlotRun) (transaction : Nat) (supervisor : Supervisor)
    (executionId : ExecutionId) : SlotRun :=
  (run.cancel supervisor.retired).move transaction
    (supervisor.answer (.monitoring executionId) (.replaced supervisor.revision executionId))

def step (run : SlotRun) : SlotAction → Option SlotRun
  | .replace path revision specId policy => some (run.replace path revision specId policy)
  | .start transaction =>
    (run.supervisors transaction).bind fun supervisor =>
      match supervisor.phase with
      | .spawned => some (run.start transaction supervisor)
      | _ => none
  | .waited transaction =>
    (run.supervisors transaction).bind fun supervisor =>
      match supervisor.phase with
      | .waiting previous =>
        if previous ∈ run.live then none
        else some (run.move transaction (supervisor.moveTo .trying))
      | _ => none
  | .attempt transaction answer =>
    (run.supervisors transaction).bind fun supervisor =>
      match supervisor.phase with
      | .trying => run.attempt transaction supervisor answer
      | _ => none
  | .wake transaction =>
    (run.supervisors transaction).bind fun supervisor =>
      match supervisor.phase with
      | .parked => some (run.move transaction (supervisor.moveTo .trying))
      | _ => none
  | .publish transaction =>
    (run.supervisors transaction).bind fun supervisor =>
      match supervisor.phase with
      | .admitted executionId => some (run.publish transaction supervisor executionId)
      | _ => none
  | .deliver transaction =>
    (run.supervisors transaction).bind fun supervisor =>
      match supervisor.phase with
      | .published executionId => some (run.deliver transaction supervisor executionId)
      | _ => none
  | .clear transaction =>
    (run.supervisors transaction).bind fun supervisor =>
      match supervisor.phase with
      | .monitoring executionId =>
        if executionId ∈ run.live then none
        else some ({ run with slot := run.slot.clear transaction executionId }.move transaction
          (supervisor.moveTo .ended))
      | _ => none
  | .lose transaction =>
    (run.supervisors transaction).bind fun supervisor =>
      if supervisor.phase.suspended then some (run.move transaction (supervisor.moveTo .ended))
      else none
  | .finish executionId =>
    if executionId ∈ run.live then some { run with live := run.live.erase executionId }
    else none
  | .cancelCurrent => some (run.cancel run.slot.current)
  | .close =>
    let (slot, current, codes) := run.slot.close
    some ({ run with slot, logged := run.logged ++ codes }.cancel current)

end SlotRun

/-- The runs of one slot. -/
def slotSystem : System SlotRun SlotAction where
  init := .new
  step := SlotRun.step

namespace SlotRun

/-! ## Every branch of a step -/

/-- `run` moves to `run'`: one constructor for each branch, with what the branch checks. -/
inductive Moved (run : SlotRun) : SlotAction → SlotRun → Prop
  | refused {path : List ExecutionId} {revision : Nat} {specId : TaskSpecId}
      {policy : ReplacePolicy} : Moved run (.replace path revision specId policy) run
  | accepted {path : List ExecutionId} {revision : Nat} {specId : TaskSpecId}
      {policy : ReplacePolicy} (accepts : run.slot.Accepts path revision specId policy) :
      Moved run (.replace path revision specId policy)
        ({ run with slot := { run.slot with
            transaction := run.slot.transaction + 1, revision := some revision,
            specId := some specId } }.move (run.slot.transaction + 1)
          (.spawn revision specId policy run.slot.current))
  | awaiting {transaction : Nat} {supervisor : Supervisor} {previous : ExecutionId}
      (found : run.supervisors transaction = some supervisor)
      (phase : supervisor.phase = .spawned) (awaited : supervisor.awaited = some previous) :
      Moved run (.start transaction)
        ((run.cancel (some previous)).move transaction (supervisor.moveTo (.waiting previous)))
  | ready {transaction : Nat} {supervisor : Supervisor}
      (found : run.supervisors transaction = some supervisor)
      (phase : supervisor.phase = .spawned) (awaited : supervisor.awaited = none) :
      Moved run (.start transaction) (run.move transaction (supervisor.moveTo .trying))
  | waited {transaction : Nat} {supervisor : Supervisor} {previous : ExecutionId}
      (found : run.supervisors transaction = some supervisor)
      (phase : supervisor.phase = .waiting previous) (terminal : previous ∉ run.live) :
      Moved run (.waited transaction) (run.move transaction (supervisor.moveTo .trying))
  | overtaken {transaction : Nat} {supervisor : Supervisor}
      {answer : Except SpawnError ExecutionId}
      (found : run.supervisors transaction = some supervisor)
      (phase : supervisor.phase = .trying)
      (superseded : run.slot.superseded transaction supervisor.revision = true) :
      Moved run (.attempt transaction answer)
        (run.move transaction (supervisor.answer .ended (.superseded supervisor.revision)))
  | admitted {transaction : Nat} {supervisor : Supervisor} {executionId : ExecutionId}
      (found : run.supervisors transaction = some supervisor)
      (phase : supervisor.phase = .trying)
      (newest : run.slot.superseded transaction supervisor.revision = false)
      (fresh : executionId ∉ run.issued) :
      Moved run (.attempt transaction (.ok executionId))
        ((run.issue executionId).move transaction
          { supervisor with phase := .admitted executionId, admission := some executionId })
  | full {transaction : Nat} {supervisor : Supervisor}
      (found : run.supervisors transaction = some supervisor)
      (phase : supervisor.phase = .trying)
      (newest : run.slot.superseded transaction supervisor.revision = false) :
      Moved run (.attempt transaction (.error .queueFull))
        (run.move transaction (supervisor.moveTo .parked))
  | failed {transaction : Nat} {supervisor : Supervisor} {error : SpawnError}
      (found : run.supervisors transaction = some supervisor)
      (phase : supervisor.phase = .trying)
      (newest : run.slot.superseded transaction supervisor.revision = false)
      (other : error ≠ .queueFull) :
      Moved run (.attempt transaction (.error error))
        (run.move transaction
          (supervisor.answer .ended (.admissionFailed supervisor.revision error)))
  | woken {transaction : Nat} {supervisor : Supervisor}
      (found : run.supervisors transaction = some supervisor)
      (phase : supervisor.phase = .parked) :
      Moved run (.wake transaction) (run.move transaction (supervisor.moveTo .trying))
  | withdrawn {transaction : Nat} {supervisor : Supervisor} {executionId : ExecutionId}
      (found : run.supervisors transaction = some supervisor)
      (phase : supervisor.phase = .admitted executionId)
      (superseded : run.slot.superseded transaction supervisor.revision = true) :
      Moved run (.publish transaction)
        ((run.cancel (some executionId)).move transaction
          (supervisor.answer .ended (.superseded supervisor.revision)))
  | published {transaction : Nat} {supervisor : Supervisor} {executionId : ExecutionId}
      (found : run.supervisors transaction = some supervisor)
      (phase : supervisor.phase = .admitted executionId)
      (newest : run.slot.superseded transaction supervisor.revision = false) :
      Moved run (.publish transaction)
        ({ run with slot := run.slot.publish executionId }.move transaction
          { supervisor with phase := .published executionId, announced := true })
  | delivered {transaction : Nat} {supervisor : Supervisor} {executionId : ExecutionId}
      (found : run.supervisors transaction = some supervisor)
      (phase : supervisor.phase = .published executionId) :
      Moved run (.deliver transaction) (run.deliver transaction supervisor executionId)
  | cleared {transaction : Nat} {supervisor : Supervisor} {executionId : ExecutionId}
      (found : run.supervisors transaction = some supervisor)
      (phase : supervisor.phase = .monitoring executionId)
      (terminal : executionId ∉ run.live) :
      Moved run (.clear transaction)
        ({ run with slot := run.slot.clear transaction executionId }.move transaction
          (supervisor.moveTo .ended))
  | lost {transaction : Nat} {supervisor : Supervisor}
      (found : run.supervisors transaction = some supervisor)
      (suspended : supervisor.phase.suspended = true) :
      Moved run (.lose transaction) (run.move transaction (supervisor.moveTo .ended))
  | finished {executionId : ExecutionId} (member : executionId ∈ run.live) :
      Moved run (.finish executionId) { run with live := run.live.erase executionId }
  | cancelled : Moved run .cancelCurrent (run.cancel run.slot.current)
  | closed : Moved run .close
      ({ run with slot := run.slot.close.1, logged := run.logged ++ run.slot.close.2.2 }.cancel
        run.slot.close.2.1)

variable {run run' : SlotRun} {action : SlotAction}

theorem Moved.of_replace {path : List ExecutionId} {revision : Nat} {specId : TaskSpecId}
    {policy : ReplacePolicy} :
    Moved run (.replace path revision specId policy) (run.replace path revision specId policy) := by
  unfold SlotRun.replace
  cases eq : run.slot.replace path revision specId policy with
  | mk slot answer =>
    rcases SlotState.replace_cases eq with ⟨_, rfl, rfl⟩ | ⟨_, _, _, rfl, rfl⟩ |
      ⟨accepts, rfl, rfl⟩
    · exact .refused
    · exact .refused
    · exact .accepted accepts

theorem Moved.of_step (step : run.step action = some run') : Moved run action run' := by
  cases action with
  | replace path revision specId policy =>
    obtain rfl := Option.some.inj step
    exact .of_replace
  | finish executionId =>
    simp only [SlotRun.step] at step
    split at step
    next member =>
      obtain rfl := Option.some.inj step
      exact .finished member
    next => cases step
  | cancelCurrent =>
    obtain rfl := Option.some.inj step
    exact .cancelled
  | close =>
    obtain rfl := Option.some.inj step
    exact .closed
  | lose transaction =>
    obtain ⟨supervisor, found, step⟩ := Option.bind_eq_some_iff.1 step
    split at step
    next suspended =>
      obtain rfl := Option.some.inj step
      exact .lost found suspended
    next => cases step
  | start transaction =>
    obtain ⟨supervisor, found, step⟩ := Option.bind_eq_some_iff.1 step
    split at step
    next phase =>
      obtain rfl := Option.some.inj step
      unfold SlotRun.start
      split
      next previous awaited => exact .awaiting found phase awaited
      next awaited => exact .ready found phase awaited
    next => cases step
  | waited transaction =>
    obtain ⟨supervisor, found, step⟩ := Option.bind_eq_some_iff.1 step
    split at step
    next previous phase =>
      split at step
      next => cases step
      next terminal =>
        obtain rfl := Option.some.inj step
        exact .waited found phase terminal
    next => cases step
  | attempt transaction answer =>
    obtain ⟨supervisor, found, step⟩ := Option.bind_eq_some_iff.1 step
    split at step
    next phase =>
      unfold SlotRun.attempt at step
      split at step
      next superseded =>
        obtain rfl := Option.some.inj step
        exact .overtaken found phase superseded
      next newest =>
        rw [Bool.not_eq_true] at newest
        split at step
        next executionId =>
          split at step
          next => cases step
          next fresh =>
            obtain rfl := Option.some.inj step
            exact .admitted found phase newest fresh
        next =>
          obtain rfl := Option.some.inj step
          exact .full found phase newest
        next error other step =>
          obtain rfl := Option.some.inj step
          exact .failed found phase newest other
    next => cases step
  | wake transaction =>
    obtain ⟨supervisor, found, step⟩ := Option.bind_eq_some_iff.1 step
    split at step
    next phase =>
      obtain rfl := Option.some.inj step
      exact .woken found phase
    next => cases step
  | publish transaction =>
    obtain ⟨supervisor, found, step⟩ := Option.bind_eq_some_iff.1 step
    split at step
    next executionId phase =>
      obtain rfl := Option.some.inj step
      unfold SlotRun.publish
      split
      next superseded => exact .withdrawn found phase superseded
      next newest => exact .published found phase (Bool.not_eq_true _ ▸ newest)
    next => cases step
  | deliver transaction =>
    obtain ⟨supervisor, found, step⟩ := Option.bind_eq_some_iff.1 step
    split at step
    next executionId phase =>
      obtain rfl := Option.some.inj step
      exact .delivered found phase
    next => cases step
  | clear transaction =>
    obtain ⟨supervisor, found, step⟩ := Option.bind_eq_some_iff.1 step
    split at step
    next executionId phase =>
      split at step
      next => cases step
      next terminal =>
        obtain rfl := Option.some.inj step
        exact .cleared found phase terminal
    next => cases step

end SlotRun

end BusyBeaver
