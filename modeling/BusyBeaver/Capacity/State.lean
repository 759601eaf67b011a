import BusyBeaver.Lib.Notify
import BusyBeaver.Lane.Run
import BusyBeaver.Slot.Run

/-!
# Slots that share a lane

The supervisors of any number of slots with the lane they admit into and its
`capacity_changed` cell.  The loop of `run_replace` is taken apart at every place where
another thread can come in: `notified` and `enable`, the check under the slot mutex,
the locked section of `insert_prepared`, `register`, the await.

A section of the lane that is followed by a notification leaves it pending, so the
notification may come any time later; the ghost set `held` is of the supervisors that
took a single notification and have not used it.  The signals of the waiting producers
are left out: a producer may look again at any time.
-/

namespace BusyBeaver

open Transition Wakeup

/-- A supervisor of a slot: the slot and the transaction. -/
abbrev Waiter : Type := Nat × Nat

/-- Where a supervisor stands in the loop of `run_replace`. -/
inductive Place : Type
  | outside
  | enabled
  | preparing
  | registering (executionId : ExecutionId)
  | withdrawing (resource : String)
  | parked
  deriving DecidableEq, Repr

/-- The supervisor holds the slot mutex between its sections of the lane. -/
def Place.locks : Place → Bool
  | .preparing | .registering _ | .withdrawing _ => true
  | _ => false

/-- The entry of the supervisor went into the lane. -/
def Place.inserted : Place → Bool
  | .registering _ | .withdrawing _ => true
  | _ => false

/-- The place, and whether `enable` took a permit, so that the await returns at once. -/
structure Turn : Type where
  place : Place
  ready : Bool
  deriving DecidableEq, Repr

def Turn.away : Turn := ⟨.outside, false⟩

/-- The notifications of `capacity_changed` that follow a section of the lane: of one,
of all. -/
def LaneRun.notifies (config : LaneConfig) (run : LaneRun) : LaneAction → Nat × Nat
  | .removeQueued id => if id ∈ run.lane.entries then (1, 0) else (0, 0)
  | .takeStartable => if (run.lane.takeStartable config).starts = [] then (0, 0) else (0, 1)
  | .requestClose | .dispatcherStopped => (0, 1)
  | .finishWaitingProducer ticket =>
    if (run.lane.finishWaitingProducer config ticket).2.notifyCapacityObservers then (0, 1)
    else (0, 0)
  | _ => (0, 0)

/-- The steps that take the slot mutex; the loop's own are apart. -/
def SlotAction.locks : SlotAction → Bool
  | .replace .. | .publish _ | .clear _ | .cancelCurrent | .close => true
  | _ => false

/-- The steps of the loop, and the loss of a supervisor, concern the cell as well. -/
def SlotAction.ofLoop : SlotAction → Bool
  | .attempt .. | .wake _ | .lose _ => true
  | _ => false

structure SharedLane : Type where
  run : LaneRun
  shuttingDown : Bool
  slots : Nat → SlotRun
  locked : Finset Nat
  turns : Waiter → Turn
  capacityChanged : Notify Waiter
  held : Finset Waiter
  pendingOne : Nat
  pendingAll : Nat

inductive SharedAction : Type
  | lane (action : LaneAction)
  | shutDown
  | slot (slot : Nat) (action : SlotAction)
  | enable (waiter : Waiter)
  | check (waiter : Waiter)
  | prepare (waiter : Waiter) (result : Except String ExecutionId)
  | register (waiter : Waiter) (result : Except String Unit)
  | withdraw (waiter : Waiter)
  | await (waiter : Waiter)
  | lose (waiter : Waiter)
  | notifyOne
  | notifyWaiters

namespace SharedLane

def new : SharedLane where
  run := ⟨.new, ∅, ∅, ∅, []⟩
  shuttingDown := false
  slots := fun _ => .new
  locked := ∅
  turns := fun _ => .away
  capacityChanged := .new
  held := ∅
  pendingOne := 0
  pendingAll := 0

def supervisor (s : SharedLane) (waiter : Waiter) : Option Supervisor :=
  (s.slots waiter.1).supervisors waiter.2

/-- The supervisor would find its transaction superseded. -/
def superseded (s : SharedLane) (waiter : Waiter) : Bool :=
  (s.supervisor waiter).any fun supervisor =>
    (s.slots waiter.1).slot.superseded waiter.2 supervisor.revision

/-- A step of one slot. -/
def inSlot (s : SharedLane) (slot : Nat) (action : SlotAction) : Option SharedLane :=
  ((s.slots slot).step action).map fun next =>
    { s with slots := Function.update s.slots slot next }

def turn (s : SharedLane) (waiter : Waiter) (turn : Turn) : SharedLane :=
  { s with turns := Function.update s.turns waiter turn }

/-- The loop is over for the waiter: its `Notified` is dropped and the slot mutex free. -/
def leave (s : SharedLane) (waiter : Waiter) : SharedLane :=
  { s.turn waiter .away with
    capacityChanged := s.capacityChanged.drop waiter
    held := s.held.erase waiter
    locked := s.locked.erase waiter.1 }

/-- `try_spawn` returned, and the loop ends with what it returned. -/
def answer (s : SharedLane) (waiter : Waiter) (result : Except SpawnError ExecutionId) :
    Option SharedLane :=
  (s.inSlot waiter.1 (.attempt waiter.2 result)).map fun next => next.leave waiter

/-- `try_spawn` returned `QueueFull`: the waiter awaits the `Notified` it enabled. -/
def park (s : SharedLane) (waiter : Waiter) : Option SharedLane :=
  (s.inSlot waiter.1 (.attempt waiter.2 (.error .queueFull))).map fun next =>
    { next.turn waiter ⟨.parked, (s.turns waiter).ready⟩ with
      held := s.held.erase waiter
      locked := s.locked.erase waiter.1 }

/-- `try_spawn` returned an error. -/
def refuse (s : SharedLane) (waiter : Waiter) (error : SpawnError) : Option SharedLane :=
  match error with
  | .queueFull => s.park waiter
  | error => s.answer waiter (.error error)

def enable (s : SharedLane) (waiter : Waiter) : SharedLane :=
  let enabled := s.capacityChanged.enable waiter
  { s.turn waiter ⟨.enabled, enabled.2⟩ with capacityChanged := enabled.1 }

/-- The slot mutex is taken, the transaction compared, and the lane looked at by
`check_try_admission`. -/
def check (config : LaneConfig) (s : SharedLane) (waiter : Waiter) : Option SharedLane :=
  if waiter.1 ∈ s.locked then none
  else if s.superseded waiter then
    -- the slot answers `Superseded` whatever the lane says
    s.answer waiter (.error .laneClosing)
  else if s.shuttingDown then s.refuse waiter .executorShuttingDown
  else
    match s.run.lane.admissionError config none with
    | some error => s.refuse waiter error
    | none =>
      some
        { s.turn waiter ⟨.preparing, (s.turns waiter).ready⟩ with
          locked := insert waiter.1 s.locked }

/-- `prepare_spec`, which fails on an exhausted resource, and the locked section of
`insert_prepared` when it succeeds. -/
def prepare (config : LaneConfig) (s : SharedLane) (waiter : Waiter) :
    Except String ExecutionId → Option SharedLane
  | .error resource => s.answer waiter (.error (.internal resource))
  | .ok executionId =>
    if executionId ∈ s.run.issued then none
    else
      let issued := insert executionId s.run.issued
      match s.run.lane.insertPrepared config executionId {} none with
      | .error error => { s with run := { s.run with issued } }.refuse waiter error
      | .ok lane =>
        some
          { s.turn waiter ⟨.registering executionId, (s.turns waiter).ready⟩ with
            run := { s.run with issued, lane }
            held := s.held.erase waiter }

/-- `register`, and `remove_queued` when it fails. -/
def register (config : LaneConfig) (s : SharedLane) (waiter : Waiter)
    (executionId : ExecutionId) : Except String Unit → Option SharedLane
  | .ok _ => s.answer waiter (.ok executionId)
  | .error resource =>
    some
      { s.turn waiter ⟨.withdrawing resource, (s.turns waiter).ready⟩ with
        run := s.run.removeQueued executionId
        pendingOne := s.pendingOne + (s.run.notifies config (.removeQueued executionId)).1 }

/-- The await returns: the permit was taken, or the `Notified` is notified. -/
def await (s : SharedLane) (waiter : Waiter) : Option SharedLane :=
  if (s.turns waiter).ready then
    (s.inSlot waiter.1 (.wake waiter.2)).map fun next => next.turn waiter .away
  else
    match s.capacityChanged.poll waiter with
    | none => none
    | some (capacityChanged, wake) =>
      (s.inSlot waiter.1 (.wake waiter.2)).map fun next =>
        { next.turn waiter .away with
          capacityChanged
          held := if wake = .one then insert waiter s.held else s.held }

/-- The loss of the runtime drops a supervisor at an await. -/
def lose (s : SharedLane) (waiter : Waiter) : Option SharedLane :=
  (s.inSlot waiter.1 (.lose waiter.2)).map fun next =>
    { next.turn waiter .away with capacityChanged := s.capacityChanged.drop waiter }

def step (config : LaneConfig) (s : SharedLane) : SharedAction → Option SharedLane
  | .lane action =>
    (s.run.step config action).map fun run =>
      { s with
        run
        pendingOne := s.pendingOne + (s.run.notifies config action).1
        pendingAll := s.pendingAll + (s.run.notifies config action).2 }
  | .shutDown => some { s with shuttingDown := true }
  | .slot slot action =>
    if action.ofLoop ∨ action.locks ∧ slot ∈ s.locked then none else s.inSlot slot action
  | .enable waiter =>
    match (s.turns waiter).place, (s.supervisor waiter).map Supervisor.phase with
    | .outside, some .trying => some (s.enable waiter)
    | _, _ => none
  | .check waiter =>
    match (s.turns waiter).place with
    | .enabled => s.check config waiter
    | _ => none
  | .prepare waiter result =>
    match (s.turns waiter).place with
    | .preparing => s.prepare config waiter result
    | _ => none
  | .register waiter result =>
    match (s.turns waiter).place with
    | .registering executionId => s.register config waiter executionId result
    | _ => none
  | .withdraw waiter =>
    match (s.turns waiter).place with
    | .withdrawing resource => s.answer waiter (.error (.internal resource))
    | _ => none
  | .await waiter =>
    match (s.turns waiter).place with
    | .parked => s.await waiter
    | _ => none
  | .lose waiter => s.lose waiter
  | .notifyOne =>
    if 0 < s.pendingOne then
      some
        { s with
          capacityChanged := s.capacityChanged.notifyOne
          pendingOne := s.pendingOne - 1 }
    else none
  | .notifyWaiters =>
    if 0 < s.pendingAll then
      some
        { s with
          capacityChanged := s.capacityChanged.notifyWaiters
          pendingAll := s.pendingAll - 1 }
    else none

end SharedLane

/-- The lane created with `config` and every slot on it. -/
def sharedLane (config : LaneConfig) : System SharedLane SharedAction where
  init := .new
  step := SharedLane.step config

end BusyBeaver
