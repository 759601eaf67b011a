import BusyBeaver.Lib.Notify
import BusyBeaver.Lib.Pool
import BusyBeaver.Lane.Run
import Mathlib.Data.Finset.Sort

/-!
# The traffic of a lane

The callers that submit to one lane, its dispatcher and the notifications between them.
The loop of `spawn`, `spawn_with_options`, `spawn_retry` and `spawn_recurring` is one: a
call that waits, with the ticket and the signal of its `WaitingProducer`; every `try_spawn`,
scoped submission and turn of a slot is a call that does not wait.

Each section of the lane posts the notifications that follow it once the mutex is released,
and any of them may be sent at any later time.  The admission mutex, which the source holds
from the check to the registration, is not taken: it would only leave out interleavings.
`capacity_changed` is left to the slots that wait on it.
-/

namespace BusyBeaver

open Transition Wakeup

/-- What a caller ends with; nothing when its future was dropped. -/
abbrev SpawnReply : Type := Option (Except SpawnError ExecutionId)

/-- Where a submission stands.  `entering` is the top of the loop, `calling` the call of
`try_spawn` with the notification enabled, `full` a first `QueueFull` of a call that waits,
`leaving` the way out, with the `WaitingProducer` still to be dropped. -/
inductive SpawnPhase : Type
  | entering
  | calling
  | preparing
  | registering (executionId : ExecutionId)
  | full
  | parked
  | leaving (reply : SpawnReply)
  | ended (reply : SpawnReply)

/-- The call has ended, and its ticket is gone. -/
def SpawnPhase.Ended : SpawnPhase → Prop
  | .ended _ => True
  | _ => False

/-- The notification of the waiting producer is enabled. -/
def SpawnPhase.Enabled : SpawnPhase → Prop
  | .calling | .preparing | .registering _ | .parked => True
  | _ => False

/-- One submission; `waits` tells the calls that become waiting producers. -/
structure SpawnCall : Type where
  options : SpawnOptions
  waits : Bool
  ticket : Option Nat
  phase : SpawnPhase

namespace SpawnCall

def enter (options : SpawnOptions) (waits : Bool) : SpawnCall := ⟨options, waits, none, .entering⟩

def moveTo (caller : SpawnCall) (phase : SpawnPhase) : SpawnCall := { caller with phase }

/-- `try_spawn` failed: `QueueFull` makes a call that waits take a ticket, or wait for its
signal; every other error ends the call. -/
def refused (caller : SpawnCall) : SpawnError → SpawnCall
  | .queueFull =>
    if caller.waits then
      match caller.ticket with
      | none => caller.moveTo .full
      | some _ => caller.moveTo .parked
    else caller.moveTo (.leaving (some (.error .queueFull)))
  | error => caller.moveTo (.leaving (some (.error error)))

end SpawnCall

/-- Where `run_dispatcher` stands: about to create its `Notified`, about to look at the
queue, about to await, asleep, starting what it took, returning, gone. -/
inductive DispatcherPhase : Type
  | looping
  | watching
  | idle
  | parked
  | launching
  | exiting
  | stopped
  deriving DecidableEq, Repr

/-- A notification that is still to be made: `notify_waiting_head` before it reads,
`notify_all_waiting_producers` before it reads, the signal of a ticket that was read, and
the two of `work_changed`. -/
inductive Notice : Type
  | readHead
  | readAll
  | signal (ticket : Nat)
  | workOne
  | workAll
  deriving DecidableEq, Repr

structure Traffic : Type where
  run : LaneRun
  admissionOpen : Bool
  callers : Pool SpawnCall
  signals : Nat → Lone
  workChanged : Lone
  dispatcher : DispatcherPhase
  unsent : List Notice
  /-- Executions whose start was taken out of the queue and is still to be dropped. -/
  dropping : Finset ExecutionId
  /-- Executions whose exit is committed. -/
  exits : Finset ExecutionId

inductive TrafficAction : Type
  | submit (caller : Nat) (options : SpawnOptions) (waits : Bool)
  | look (caller : Nat)
  | check (caller : Nat)
  | prepare (caller : Nat) (result : Except String ExecutionId)
  | register (caller : Nat) (result : Except String Unit)
  | wait (caller : Nat)
  | wake (caller : Nat)
  | giveUp (caller : Nat) (error : SpawnError)
  | drop (caller : Nat)
  | finish (caller : Nat)
  | send (notice : Notice)
  | removeQueued (executionId : ExecutionId)
  | dropStart (executionId : ExecutionId)
  | commit (executionId : ExecutionId)
  | executionFinished (executionId : ExecutionId)
  | requestClose
  | shutDown
  | watch
  | takeStartable
  | park
  | resume
  | launched
  | stop
  | lose

namespace Traffic

def new : Traffic where
  run := ⟨.new, ∅, ∅, ∅, []⟩
  admissionOpen := true
  callers := fun _ => none
  signals := fun _ => .new
  workChanged := .new
  dispatcher := .looping
  unsent := []
  dropping := ∅
  exits := ∅

def call (s : Traffic) (i : Nat) (caller : SpawnCall) : Traffic :=
  { s with callers := s.callers.set i caller }

def post (s : Traffic) (notices : List Notice) : Traffic :=
  { s with unsent := s.unsent ++ notices }

/-- The producer at the front of the waiter queue. -/
def head (s : Traffic) : Option Nat := firstWaiter s.run.lane.waitingQueue

/-- `check_try_admission_for`. -/
def admissionError (config : LaneConfig) (s : Traffic) (ticket : Option Nat) :
    Option SpawnError :=
  if s.admissionOpen then s.run.lane.admissionError config ticket
  else some .executorShuttingDown

/-- The notification is created and enabled, if there is a ticket to be notified on. -/
def look (s : Traffic) (i : Nat) (caller : SpawnCall) : Traffic :=
  match caller.ticket with
  | none => s.call i (caller.moveTo .calling)
  | some ticket =>
    { s.call i (caller.moveTo .calling) with
      signals := Function.update s.signals ticket (s.signals ticket).create.enable }

def check (config : LaneConfig) (s : Traffic) (i : Nat) (caller : SpawnCall) : Traffic :=
  match s.admissionError config caller.ticket with
  | some error => s.call i (caller.refused error)
  | none => s.call i (caller.moveTo .preparing)

/-- `prepare_*`, which fails on an exhausted resource, and the locked section of
`insert_prepared` when it succeeds. -/
def prepare (config : LaneConfig) (s : Traffic) (i : Nat) (caller : SpawnCall) :
    Except String ExecutionId → Option Traffic
  | .error resource =>
    some (s.call i (caller.moveTo (.leaving (some (.error (.internal resource))))))
  | .ok executionId =>
    if executionId ∈ s.run.issued then none
    else
      let issued := insert executionId s.run.issued
      match s.run.lane.insertPrepared config executionId caller.options caller.ticket with
      | .error error => some ({ s with run := { s.run with issued } }.call i (caller.refused error))
      | .ok lane =>
        some ({ s with run := { s.run with issued, lane } }.call i
          (caller.moveTo (.registering executionId)))

/-- `remove_queued`, the drop of what it took out and the notifications that follow it. -/
def removeQueued (s : Traffic) (executionId : ExecutionId) : Traffic :=
  { s with
    run := s.run.removeQueued executionId
    dropping :=
      if executionId ∈ s.run.lane.entries then insert executionId s.dropping
      else s.dropping }.post
    (if executionId ∈ s.run.lane.entries then [.readHead, .workOne] else [])

/-- `register`, with the notification that follows it, or the rollback. -/
def register (s : Traffic) (i : Nat) (caller : SpawnCall) (executionId : ExecutionId) :
    Except String Unit → Traffic
  | .ok _ => (s.call i (caller.moveTo (.leaving (some (.ok executionId))))).post [.workOne]
  | .error resource =>
    (s.removeQueued executionId).call i
      (caller.moveTo (.leaving (some (.error (.internal resource)))))

/-- `WaitingProducer::new`, and the signal it brings. -/
def wait (config : LaneConfig) (s : Traffic) (i : Nat) (caller : SpawnCall) : Traffic :=
  match s.run.lane.newWaitingProducer config with
  | (lane, .error error) =>
    { s with run := { s.run with lane } }.call i (caller.moveTo (.leaving (some (.error error))))
  | (lane, .ok ticket) =>
    { s with
      run := { s.run with lane, producers := insert ticket s.run.producers }
      signals := Function.update s.signals ticket .new }.call i
        { caller with ticket := some ticket, phase := .entering }

/-- The call returns or its future is gone: `finish` of its `WaitingProducer`, if it has
one, and the signal it hands on. -/
def finish (config : LaneConfig) (s : Traffic) (i : Nat) (caller : SpawnCall) (reply : SpawnReply) :
    Option Traffic :=
  match caller.ticket with
  | none => some (s.call i (caller.moveTo (.ended reply)))
  | some ticket =>
    let effects := (s.run.lane.finishWaitingProducer config ticket).2
    (s.run.step config (.finishWaitingProducer ticket)).map fun run =>
      ({ s with run }.call i (caller.moveTo (.ended reply))).post
        (effects.nextSignal.toList.map Notice.signal)

/-- A notification is made. -/
def send (s : Traffic) : Notice → Traffic
  | .readHead => s.post (s.head.toList.map Notice.signal)
  | .readAll => s.post (s.run.lane.waitingQueue.sort.map Notice.signal)
  | .signal ticket =>
    { s with signals := Function.update s.signals ticket (s.signals ticket).notifyOne }
  | .workOne => { s with workChanged := s.workChanged.notifyOne }
  | .workAll => { s with workChanged := s.workChanged.notifyWaiters }

/-- `take_startable`, and what the dispatcher does with the answer. -/
def takeStartable (config : LaneConfig) (s : Traffic) : Traffic :=
  let taken := s.run.lane.takeStartable config
  { s with
    run := s.run.takeStartable config
    dispatcher :=
      if taken.state.shouldExit then .exiting
      else if taken.starts = [] then .idle else .launching }.post
    (if taken.starts = [] then [] else [.readHead])

/-- The guard of the dispatcher is dropped: `dispatcher_stopped`. -/
def stop (s : Traffic) : Traffic :=
  { s with
    run := { s.run with lane := s.run.lane.dispatcherStopped }
    dispatcher := .stopped
    dropping := s.dropping ∪ s.run.lane.entries.keys.toFinset }.post [.readAll, .workAll]

def step (config : LaneConfig) (s : Traffic) : TrafficAction → Option Traffic
  | .submit i options waits =>
    match s.callers i with
    | none => some (s.call i (.enter options waits))
    | some _ => none
  | .look i =>
    (s.callers i).bind fun caller =>
      match caller.phase with
      | .entering => some (s.look i caller)
      | _ => none
  | .check i =>
    (s.callers i).bind fun caller =>
      match caller.phase with
      | .calling => some (s.check config i caller)
      | _ => none
  | .prepare i result =>
    (s.callers i).bind fun caller =>
      match caller.phase with
      | .preparing => s.prepare config i caller result
      | _ => none
  | .register i result =>
    (s.callers i).bind fun caller =>
      match caller.phase with
      | .registering executionId => some (s.register i caller executionId result)
      | _ => none
  | .wait i =>
    (s.callers i).bind fun caller =>
      match caller.phase with
      | .full => some (s.wait config i caller)
      | _ => none
  | .wake i =>
    (s.callers i).bind fun caller =>
      match caller.phase, caller.ticket with
      | .parked, some ticket =>
        if (s.signals ticket).ready then some (s.call i (caller.moveTo .entering)) else none
      | _, _ => none
  | .giveUp i error =>
    -- the deadline of a retry, looked at before and after the check and raced with the signal
    (s.callers i).bind fun caller =>
      if error = .admissionDeadlineExceeded ∨ error = .timerUnavailable then
        match caller.phase with
        | .entering | .calling | .preparing | .parked =>
          some (s.call i (caller.moveTo (.leaving (some (.error error)))))
        | _ => none
      else none
  | .drop i =>
    (s.callers i).bind fun caller =>
      match caller.phase with
      | .parked => some (s.call i (caller.moveTo (.leaving none)))
      | _ => none
  | .finish i =>
    (s.callers i).bind fun caller =>
      match caller.phase with
      | .leaving reply => s.finish config i caller reply
      | _ => none
  | .send notice =>
    if notice ∈ s.unsent then
      some ({ s with unsent := s.unsent.erase notice }.send notice)
    else none
  | .removeQueued executionId => some (s.removeQueued executionId)
  | .dropStart executionId =>
    -- the guard of the dropped start commits
    if executionId ∈ s.dropping then
      some { s with
        dropping := s.dropping.erase executionId
        exits := insert executionId s.exits }
    else none
  | .commit executionId =>
    if executionId ∈ s.run.monitors then
      some { s with exits := insert executionId s.exits }
    else none
  | .executionFinished executionId =>
    -- the monitor has waited for the exit
    (s.run.step config (.executionFinished executionId)).map fun run =>
      { s with run, exits := insert executionId s.exits }.post [.workOne]
  | .requestClose =>
    some ({ s with run := { s.run with lane := s.run.lane.requestClose } }.post
      [.workAll, .readAll])
  | .shutDown => some { s with admissionOpen := false }
  | .watch =>
    match s.dispatcher with
    | .looping => some { s with workChanged := s.workChanged.create, dispatcher := .watching }
    | _ => none
  | .takeStartable =>
    match s.dispatcher with
    | .watching => some (s.takeStartable config)
    | _ => none
  | .park =>
    match s.dispatcher with
    | .idle => some { s with workChanged := s.workChanged.enable, dispatcher := .parked }
    | _ => none
  | .resume =>
    match s.dispatcher with
    | .parked =>
      if s.workChanged.ready then
        some { s with workChanged := s.workChanged.take, dispatcher := .looping }
      else none
    | _ => none
  | .launched =>
    match s.dispatcher with
    | .launching => some { s with dispatcher := .looping }
    | _ => none
  | .stop =>
    match s.dispatcher with
    | .exiting => some s.stop
    | _ => none
  | .lose =>
    -- the loss of the runtime drops the dispatcher before its first poll or at its await
    match s.dispatcher with
    | .looping | .parked => some s.stop
    | _ => none

end Traffic

/-- The traffic of the lane created with `config`. -/
def traffic (config : LaneConfig) : System Traffic TrafficAction where
  init := .new
  step := Traffic.step config

end BusyBeaver
