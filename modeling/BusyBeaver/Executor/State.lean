import BusyBeaver.Lib.Pool
import BusyBeaver.Execution.Core
import BusyBeaver.Lane.Run

/-!
# The executor: admission, dispatch, stops and commits

One step for each section between two synchronisation points of the code that
admits an execution (`LaneCore::insert_prepared`, `ExecutionCore::register`,
`Beaver::spawn`), dispatches it, stops it, reports for it and commits its exit.
Any number of lanes and of executions share one registry; a subscriber that never
lags is attached, so `should_capture_event_snapshot` holds and every `emit` sends.

Values and errors are erased from exits: nothing here reads them.  Events keep
their execution and kind; nothing reads the snapshot they also carry.
-/

namespace BusyBeaver

open Transition

abbrev LaneId : Type := Nat

/-- An exit with value and error erased. -/
abbrev Exit : Type := TaskExit Unit Unit

/-- What the drop of an armed `RunnerGuard` proposes. -/
def Exit.runnerCancelled : Exit := .executorStopped .runnerCancelled

/-- `TaskEvent`, without its snapshot. -/
inductive EventKind : Type
  | admitted
  | stateChanged
  | terminal (summary : TaskExitSummary)
  deriving DecidableEq, Repr

/-! ## Positions of the threads that act on an execution -/

/-- The call that admits the execution: `insert_prepared` on a lane, `register` and
`start` outside of one. -/
inductive Admission : Type
  /-- The hook is installed; the lane section is next. -/
  | inserting
  /-- `registered.swap(true)` is next. -/
  | registering
  /-- The flag is set; the registry section is next. -/
  | swapped
  /-- In `registry.active`; `Admitted` is next. -/
  | entered
  /-- `Admitted` is sent; `Ok` is next. -/
  | announced
  /-- The registry refused; `registered.store(false)` is next. -/
  | rejected (error : SpawnError)
  /-- The flag is cleared; taking the submission back is next. -/
  | rollback (error : SpawnError)
  /-- The call is dropping its `start`, and answers when that is done. -/
  | dropping (error : SpawnError)
  /-- The call has answered: the error, or `none` for `Ok`. -/
  | returned (error : Option SpawnError)
  deriving DecidableEq, Repr

/-- The execution has been inserted into `registry.active`. -/
def Admission.isEntered : Admission → Bool
  | .entered | .announced | .returned none => true
  | _ => false

/-- `Admitted` has been sent. -/
def Admission.isAnnounced : Admission → Bool
  | .announced | .returned none => true
  | _ => false

/-- `registered` as the admission call has left it. -/
def Admission.flag : Admission → Bool
  | .swapped | .entered | .announced | .rejected _ | .returned none => true
  | .inserting | .registering | .rollback _ | .dropping _ | .returned (some _) => false

/-- The call still holds the `start` of an execution outside a lane. -/
def Admission.holdsStart : Admission → Bool
  | .registering | .swapped | .entered | .announced | .rejected _ | .rollback _ => true
  | .inserting | .dropping _ | .returned _ => false

/-- The life of the execution's `RunnerGuard`, and of the `commit` it ends in. -/
inductive Runner : Type
  /-- In the `start` the admission call holds. -/
  | prepared
  /-- In the lane's entry. -/
  | queued
  /-- In the starts `take_startable` returned. -/
  | taken
  /-- On the runtime, not polled yet. -/
  | spawned
  /-- `claim_start` wrote `Running`; its flag load is next. -/
  | claimed
  /-- The flag was set; the event of `claim_start` is next. -/
  | announcing
  /-- The factory was called: user code may run. -/
  | working
  /-- `commit` is next, with this exit. -/
  | exiting (exit : Exit)
  /-- The exit is selected; dropping the value or error that lost to it is next. -/
  | discarding (summary : TaskExitSummary)
  /-- The exit is selected and nothing is left to drop; `terminal.send_replace` is next. -/
  | selected (summary : TaskExitSummary)
  /-- The exit is published; the flag load is next. -/
  | published (summary : TaskExitSummary)
  /-- The flag was set; `registry.active.remove` is next. -/
  | leaving (summary : TaskExitSummary)
  /-- Removed; the history record is next. -/
  | recording (summary : TaskExitSummary)
  /-- Recorded; `Terminal` is next. -/
  | closing (summary : TaskExitSummary)
  /-- `commit` has returned. -/
  | finished
  /-- The destructor of the lost value unwound out of `commit`, and the terminal state
  made the guard's own `commit` return at once. -/
  | unwound
  deriving DecidableEq, Repr

/-- `commit` has selected the exit. -/
def Runner.isCommitted : Runner → Bool
  | .discarding _ | .selected _ | .published _ | .leaving _ | .recording _ | .closing _
  | .finished | .unwound => true
  | _ => false

/-- The exit a `commit` in progress has selected. -/
def Runner.summary : Runner → Option TaskExitSummary
  | .discarding summary | .selected summary | .published summary | .leaving summary
  | .recording summary | .closing summary => some summary
  | _ => none

/-- `commit` has passed the point where it removes the execution from `registry.active`. -/
def Runner.hasLeft : Runner → Bool
  | .recording _ | .closing _ | .finished => true
  | _ => false

/-- `commit` will not remove the execution from `registry.active` any more: it has passed
that point, or unwound before it. -/
def Runner.isPast : Runner → Bool
  | .recording _ | .closing _ | .finished | .unwound => true
  | _ => false

/-- `commit` has passed the point where it writes the history record. -/
def Runner.isRecorded : Runner → Bool
  | .closing _ | .finished => true
  | _ => false

/-- The flag load of `commit` is next. -/
def Runner.isPublished : Runner → Bool
  | .published _ => true
  | _ => false

/-- `Terminal` is the next thing `commit` does. -/
def Runner.isClosing : Runner → Bool
  | .closing _ => true
  | _ => false

theorem Runner.hasLeft_of_isRecorded {runner : Runner} (recorded : runner.isRecorded = true) :
    runner.hasLeft = true := by
  cases runner <;> simp_all [Runner.isRecorded, Runner.hasLeft]

theorem Runner.isCommitted_of_hasLeft {runner : Runner} (left : runner.hasLeft = true) :
    runner.isCommitted = true := by
  cases runner <;> simp_all [Runner.hasLeft, Runner.isCommitted]

theorem Runner.isPast_iff {runner : Runner} :
    runner.isPast = true ↔ runner.hasLeft = true ∨ runner = .unwound := by
  cases runner <;> simp [Runner.isPast, Runner.hasLeft]

/-- The dispatcher has taken the start, or its caller has spawned it, and no commit is due. -/
def Runner.isRunning : Runner → Bool
  | .taken | .spawned | .claimed | .announcing | .working => true
  | _ => false

/-- The accepted `request_stop`. -/
inductive Stop : Type
  | idle
  /-- The cause is stored; taking the queued-cancel hook is next. -/
  | accepted
  /-- The flag load of `emit_state` is next. -/
  | loading (hook : Bool)
  /-- The flag was set; the event is next. -/
  | announcing (hook : Bool)
  /-- The hook's `remove_queued` is next. -/
  | hooking
  | done
  deriving DecidableEq, Repr

/-- The flag load of the stop's `emit_state` is next. -/
def Stop.isLoading : Stop → Bool
  | .loading _ => true
  | _ => false

/-- After its `emit_state` the stop runs the hook it took, if there was one. -/
def Stop.emitted (hook : Bool) : Stop := if hook then .hooking else .done

/-! ## One execution -/

structure Execution : Type where
  /-- The lane of the submission; `none` for `Beaver::spawn` and its kin. -/
  lane : Option LaneId
  options : SpawnOptions
  waiterTicket : Option Nat
  /-- `tag.len() > max_tag_bytes`. -/
  tagTooLong : Bool
  core : CoreState
  registered : Bool
  queuedCancelHook : Bool
  admission : Admission
  runner : Runner
  stop : Stop
  /-- Calls of `set_active_state` whose report was taken and whose flag load is next. -/
  reports : Nat
  /-- Calls of `set_active_state` whose event is next. -/
  announcements : Nat
  /-- History: `take_startable` took the execution. -/
  dispatched : Bool
  /-- History: the factory was called or the future handed over for polling. -/
  polled : Bool
  /-- History: some `emit_state` or `commit` read the flag as set. -/
  noticed : Bool
  deriving DecidableEq

namespace Execution

/-- A prepared submission to a lane: the hook is installed. -/
def submitted (lane : LaneId) (options : SpawnOptions) (waiterTicket : Option Nat)
    (tagTooLong : Bool) : Execution where
  lane := some lane
  options := options
  waiterTicket := waiterTicket
  tagTooLong := tagTooLong
  core := .new
  registered := false
  queuedCancelHook := true
  admission := .inserting
  runner := .prepared
  stop := .idle
  reports := 0
  announcements := 0
  dispatched := false
  polled := false
  noticed := false

/-- A prepared execution outside a lane. -/
def direct (tagTooLong : Bool) : Execution where
  lane := none
  options := {}
  waiterTicket := none
  tagTooLong := tagTooLong
  core := .new
  registered := false
  queuedCancelHook := false
  admission := .registering
  runner := .prepared
  stop := .idle
  reports := 0
  announcements := 0
  dispatched := false
  polled := false
  noticed := false

/-- What a step of one execution does outside of it. -/
inductive Effect : Type
  | silent
  | enter
  | leave
  | record
  | announce (kind : EventKind)
  deriving DecidableEq, Repr

/-- The next section of `register` and of what follows it, given the registry's answer.
The sections that touch the lane are the executor's. -/
def advanceAdmission (x : Execution) (refused : Option SpawnError) : Option (Execution × Effect) :=
  match x.admission with
  | .registering => some ({ x with admission := .swapped, registered := true }, .silent)
  | .swapped =>
    match refused with
    | none => some ({ x with admission := .entered }, .enter)
    | some error => some ({ x with admission := .rejected error }, .silent)
  | .entered => some ({ x with admission := .announced }, .announce .admitted)
  | .announced =>
    match x.lane with
    | some _ => some ({ x with admission := .returned none }, .silent)
    | none => some ({ x with admission := .returned none, runner := .spawned }, .silent)
  | .rejected error =>
    some ({ x with admission := .rollback error, registered := false }, .silent)
  | .rollback error =>
    match x.lane with
    | some _ => none
    | none =>
      some ({ x with admission := .dropping error, runner := .exiting .runnerCancelled }, .silent)
  | .dropping error =>
    if x.runner = .finished then some ({ x with admission := .returned (some error) }, .silent)
    else none
  | .inserting | .returned _ => none

/-- The next section of the runner, or of the `commit` it has begun. -/
def run (x : Execution) : Option (Execution × Effect) :=
  match x.runner with
  | .spawned =>
    match x.core.claimStart with
    | some core => some ({ x with core := core, runner := .claimed }, .silent)
    | none => some ({ x with runner := .exiting .runnerCancelled }, .silent)
  | .claimed =>
    if x.registered then some ({ x with runner := .announcing, noticed := true }, .silent)
    else some ({ x with runner := .working, polled := true }, .silent)
  | .announcing => some ({ x with runner := .working, polled := true }, .announce .stateChanged)
  | .exiting exit =>
    -- the guard is linear, so this is the execution's only commit and its cell is empty
    match x.core.commit none exit with
    | some committed =>
      if committed.dropsUserValue then
        some ({ x with core := committed.core, runner := .discarding committed.summary }, .silent)
      else some ({ x with core := committed.core, runner := .selected committed.summary }, .silent)
    | none => some ({ x with runner := .finished }, .silent)
  | .discarding summary => some ({ x with runner := .selected summary }, .silent)
  | .selected summary => some ({ x with runner := .published summary }, .silent)
  | .published summary =>
    if x.registered then some ({ x with runner := .leaving summary, noticed := true }, .silent)
    else some ({ x with runner := .finished }, .silent)
  | .leaving summary => some ({ x with runner := .recording summary }, .leave)
  | .recording summary => some ({ x with runner := .closing summary }, .record)
  | .closing summary => some ({ x with runner := .finished }, .announce (.terminal summary))
  | .prepared | .queued | .taken | .working | .finished | .unwound => none

/-- The destructor of the value or error that lost to the stop panics. -/
def unwind (x : Execution) : Option Execution :=
  match x.runner with
  | .discarding _ => some { x with runner := .unwound }
  | _ => none

/-- The body is joined and its children closed: the runner has its exit. -/
def finishBody (x : Execution) (exit : Exit) : Option Execution :=
  if x.runner = .working then some { x with runner := .exiting exit } else none

/-- The runtime drops the runner at a suspension point. -/
def loseRunner (x : Execution) : Option Execution :=
  if x.runner = .spawned ∨ x.runner = .working then
    some { x with runner := .exiting .runnerCancelled }
  else none

/-- `set_active_state`, called by user code through its `WorkContext`. -/
def report (x : Execution) (next : ActiveState) : Option Execution :=
  if x.polled then
    (x.core.setActiveState next).map fun core => { x with core := core, reports := x.reports + 1 }
  else none

/-- The flag load of a `set_active_state`. -/
def loadReport (x : Execution) : Option Execution :=
  if 0 < x.reports then
    if x.registered then
      some
        { x with
          reports := x.reports - 1
          announcements := x.announcements + 1
          noticed := true }
    else some { x with reports := x.reports - 1 }
  else none

def sendReport (x : Execution) : Option (Execution × Effect) :=
  if 0 < x.announcements then
    some ({ x with announcements := x.announcements - 1 }, .announce .stateChanged)
  else none

/-- Someone else may hold a control of the execution: once it is in the lane's `active`,
or in the registry's. -/
def visible (x : Execution) : Bool :=
  x.lane.isSome && x.admission != .inserting || x.admission.isEntered

/-- Locked section of a `request_stop` that is accepted; the others change nothing. -/
def requestStop (x : Execution) (cause : StopCauseSummary) : Option Execution :=
  if x.visible then
    match x.core.requestStop cause with
    | (.requested, core) => some { x with core := core, stop := .accepted }
    | _ => none
  else none

/-- The next section of the accepted stop, up to its hook. -/
def advanceStop (x : Execution) : Option (Execution × Effect) :=
  match x.stop with
  | .accepted =>
    some ({ x with stop := .loading x.queuedCancelHook, queuedCancelHook := false }, .silent)
  | .loading hook =>
    if x.registered then some ({ x with stop := .announcing hook, noticed := true }, .silent)
    else some ({ x with stop := .emitted hook }, .silent)
  | .announcing hook => some ({ x with stop := .emitted hook }, .announce .stateChanged)
  | .idle | .hooking | .done => none

/-- The dispatcher takes the entry. -/
def take (x : Execution) : Execution := { x with runner := .taken, dispatched := true }

/-- `ExecutionStart::start`: the hook is cleared and the runner spawned. -/
def start (x : Execution) : Option Execution :=
  if x.runner = .taken then some { x with runner := .spawned, queuedCancelHook := false } else none

/-- The lane's entry is dropped, and the guard in it with it. -/
def drain (x : Execution) : Execution := { x with runner := .exiting .runnerCancelled }

/-- `TaskControlHandle::wait` has an answer. -/
def waited (x : Execution) : Bool :=
  match x.runner with
  | .published _ | .leaving _ | .recording _ | .closing _ | .finished => true
  | _ => false

end Execution

/-! ## The executor -/

structure ExecutorConfig : Type where
  lanes : LaneId → LaneConfig
  maxActiveExecutions : Nat

structure Executor : Type where
  admissionOpen : Bool
  /-- The lane admission that holds the `admission_open` mutex. -/
  admitting : Option ExecutionId
  lanes : LaneId → LaneRun
  executions : Pool Execution
  /-- Keys of `ExecutionRegistry::active`. -/
  active : Finset ExecutionId
  /-- Calls of `ExecutionRegistry::finish` that have written their record, in order. -/
  finishes : List ExecutionId
  /-- What the subscriber received. -/
  events : List (ExecutionId × EventKind)

inductive ExecutorAction : Type
  | submit (id : ExecutionId) (lane : LaneId) (options : SpawnOptions)
      (waiterTicket : Option Nat) (tagTooLong : Bool)
  | spawn (id : ExecutionId) (tagTooLong : Bool)
  | advanceAdmission (id : ExecutionId)
  | closeAdmission
  | dispatch (lane : LaneId)
  | start (id : ExecutionId)
  | monitor (id : ExecutionId)
  | requestClose (lane : LaneId)
  | dispatcherStopped (lane : LaneId)
  | newWaitingProducer (lane : LaneId)
  | finishWaitingProducer (lane : LaneId) (ticket : Nat)
  | run (id : ExecutionId)
  | unwind (id : ExecutionId)
  | finishBody (id : ExecutionId) (exit : Exit)
  | loseRunner (id : ExecutionId)
  | report (id : ExecutionId) (next : ActiveState)
  | loadReport (id : ExecutionId)
  | sendReport (id : ExecutionId)
  | requestStop (id : ExecutionId) (cause : StopCauseSummary)
  | advanceStop (id : ExecutionId)

/-- The execution whose admission call or runner the action advances, or whose commit it
unwinds. -/
def ExecutorAction.admits : ExecutorAction → Option ExecutionId
  | .advanceAdmission id => some id
  | _ => none

def ExecutorAction.runs : ExecutorAction → Option ExecutionId
  | .run id => some id
  | _ => none

def ExecutorAction.unwinds : ExecutorAction → Option ExecutionId
  | .unwind id => some id
  | _ => none

/-- The execution the action creates. -/
def ExecutorAction.creates : ExecutorAction → Option ExecutionId
  | .submit id _ _ _ _ | .spawn id _ => some id
  | _ => none

namespace Executor

/-- Execution `id` moves to `x`, with what the move does outside of it. -/
def put (s : Executor) (id : ExecutionId) : Execution × Execution.Effect → Executor
  | (x, .silent) => { s with executions := s.executions.set id x }
  | (x, .enter) => { s with executions := s.executions.set id x, active := insert id s.active }
  | (x, .leave) => { s with executions := s.executions.set id x, active := s.active.erase id }
  | (x, .record) => { s with executions := s.executions.set id x, finishes := s.finishes ++ [id] }
  | (x, .announce kind) =>
    { s with executions := s.executions.set id x, events := s.events ++ [(id, kind)] }

def setLane (s : Executor) (lane : LaneId) (run : LaneRun) : Executor :=
  { s with lanes := Function.update s.lanes lane run }

/-- The answer of `ExecutionRegistry::register`. -/
def refusal (config : ExecutorConfig) (s : Executor) (x : Execution) : Option SpawnError :=
  if x.tagTooLong then some (.internal "tag bytes")
  else if config.maxActiveExecutions ≤ s.active.card then some (.internal "active executions")
  else none

/-- A lane admission gives the mutex back when it answers. -/
def releaseAdmission (s : Executor) (x : Execution) : Executor :=
  match x.admission, x.lane with
  | .returned _, some _ => { s with admitting := none }
  | _, _ => s

/-- The lane section of `insert_prepared`. -/
def insertPrepared (config : ExecutorConfig) (s : Executor) (id : ExecutionId) (x : Execution)
    (lane : LaneId) : Option Executor :=
  ((s.lanes lane).step (config.lanes lane) (.insertPrepared id x.options x.waiterTicket)).map
    fun run =>
      (s.setLane lane run).put id <|
        match (s.lanes lane).lane.insertPrepared (config.lanes lane) id x.options
          x.waiterTicket with
        | .ok _ => ({ x with admission := .registering, runner := .queued }, .silent)
        | .error error =>
          ({ x with admission := .dropping error, runner := .exiting .runnerCancelled }, .silent)

/-- `remove_queued` after a refused registration. -/
def rollBack (s : Executor) (id : ExecutionId) (x : Execution) (lane : LaneId)
    (error : SpawnError) : Executor :=
  let after :=
    if id ∈ (s.lanes lane).lane.entries then { x.drain with admission := .dropping error }
    else { x with admission := .returned (some error) }
  ((s.setLane lane ((s.lanes lane).removeQueued id)).put id (after, .silent)).releaseAdmission after

/-- `remove_queued` as the hook of an accepted stop. -/
def runHook (s : Executor) (id : ExecutionId) (x : Execution) (lane : LaneId) : Executor :=
  let after :=
    if id ∈ (s.lanes lane).lane.entries then { x.drain with stop := .done }
    else { x with stop := .done }
  (s.setLane lane ((s.lanes lane).removeQueued id)).put id (after, .silent)

def advanceAdmission (config : ExecutorConfig) (s : Executor) (id : ExecutionId) (x : Execution) :
    Option Executor :=
  match x.admission, x.lane with
  | .inserting, some lane => s.insertPrepared config id x lane
  | .rollback error, some lane => some (s.rollBack id x lane error)
  | _, _ =>
    (x.advanceAdmission (s.refusal config x)).map fun moved =>
      (s.put id moved).releaseAdmission moved.1

def advanceStop (s : Executor) (id : ExecutionId) (x : Execution) : Option Executor :=
  match x.stop, x.lane with
  | .hooking, some lane => some (s.runHook id x lane)
  | _, _ => x.advanceStop.map (s.put id)

/-- The section of `take_startable`: the entries it takes become starts. -/
def dispatch (config : ExecutorConfig) (s : Executor) (lane : LaneId) : Executor :=
  let taken := (s.lanes lane).lane.takeStartable (config.lanes lane)
  { s.setLane lane ((s.lanes lane).takeStartable (config.lanes lane)) with
    executions := fun id =>
      if id ∈ taken.starts then (s.executions id).map Execution.take else s.executions id }

/-- The section of `dispatcher_stopped`: the entries it takes are dropped. -/
def dispatcherStopped (s : Executor) (lane : LaneId) : Executor :=
  { s.setLane lane { s.lanes lane with lane := (s.lanes lane).lane.dispatcherStopped } with
    executions := fun id =>
      if id ∈ (s.lanes lane).lane.entries then (s.executions id).map Execution.drain
      else s.executions id }

/-- A section of the lane that involves no execution. -/
def lane (config : ExecutorConfig) (s : Executor) (lane : LaneId) (action : LaneAction) :
    Option Executor :=
  ((s.lanes lane).step (config.lanes lane) action).map (s.setLane lane)

/-- `execution_finished`, run by the monitor once the exit is published. -/
def monitor (config : ExecutorConfig) (s : Executor) (id : ExecutionId) (x : Execution) :
    Option Executor :=
  match x.lane with
  | some lane => if x.waited then s.lane config lane (.executionFinished id) else none
  | none => none

/-- An action of one execution that has been created. -/
def move (config : ExecutorConfig) (s : Executor) (id : ExecutionId) (x : Execution) :
    ExecutorAction → Option Executor
  | .advanceAdmission _ => s.advanceAdmission config id x
  | .start _ => x.start.map fun x => s.put id (x, .silent)
  | .monitor _ => s.monitor config id x
  | .run _ => x.run.map (s.put id)
  | .unwind _ => x.unwind.map fun x => s.put id (x, .silent)
  | .finishBody _ exit => (x.finishBody exit).map fun x => s.put id (x, .silent)
  | .loseRunner _ => x.loseRunner.map fun x => s.put id (x, .silent)
  | .report _ next => (x.report next).map fun x => s.put id (x, .silent)
  | .loadReport _ => x.loadReport.map fun x => s.put id (x, .silent)
  | .sendReport _ => x.sendReport.map (s.put id)
  | .requestStop _ cause => (x.requestStop cause).map fun x => s.put id (x, .silent)
  | .advanceStop _ => s.advanceStop id x
  | _ => none

def step (config : ExecutorConfig) (s : Executor) : ExecutorAction → Option Executor
  | .submit id lane options ticket tagTooLong =>
    if s.admissionOpen ∧ s.admitting = none ∧ s.executions id = none then
      match (s.lanes lane).lane.admissionError (config.lanes lane) ticket with
      | some _ => none
      | none =>
        some
          { s with
            admitting := some id
            executions := s.executions.set id (.submitted lane options ticket tagTooLong) }
    else none
  | .spawn id tagTooLong =>
    if s.executions id = none then
      some { s with executions := s.executions.set id (.direct tagTooLong) }
    else none
  | .closeAdmission =>
    if s.admitting = none then some { s with admissionOpen := false } else none
  | .dispatch lane => some (s.dispatch config lane)
  | .requestClose lane => s.lane config lane .requestClose
  | .dispatcherStopped lane => some (s.dispatcherStopped lane)
  | .newWaitingProducer lane => s.lane config lane .newWaitingProducer
  | .finishWaitingProducer lane ticket => s.lane config lane (.finishWaitingProducer ticket)
  | .advanceAdmission id =>
    (s.executions id).bind fun x => s.move config id x (.advanceAdmission id)
  | .start id => (s.executions id).bind fun x => s.move config id x (.start id)
  | .monitor id => (s.executions id).bind fun x => s.move config id x (.monitor id)
  | .run id => (s.executions id).bind fun x => s.move config id x (.run id)
  | .unwind id => (s.executions id).bind fun x => s.move config id x (.unwind id)
  | .finishBody id exit => (s.executions id).bind fun x => s.move config id x (.finishBody id exit)
  | .loseRunner id => (s.executions id).bind fun x => s.move config id x (.loseRunner id)
  | .report id next => (s.executions id).bind fun x => s.move config id x (.report id next)
  | .loadReport id => (s.executions id).bind fun x => s.move config id x (.loadReport id)
  | .sendReport id => (s.executions id).bind fun x => s.move config id x (.sendReport id)
  | .requestStop id cause =>
    (s.executions id).bind fun x => s.move config id x (.requestStop id cause)
  | .advanceStop id => (s.executions id).bind fun x => s.move config id x (.advanceStop id)

end Executor

/-- An executor whose lanes are created with `config`. -/
def executor (config : ExecutorConfig) : System Executor ExecutorAction where
  init :=
    { admissionOpen := true
      admitting := none
      lanes := fun _ => ⟨.new, ∅, ∅, ∅, []⟩
      executions := fun _ => none
      active := ∅
      finishes := []
      events := [] }
  step := Executor.step config

end BusyBeaver
