import BusyBeaver.Lib.AssocMap
import BusyBeaver.Lib.Checked
import BusyBeaver.Execution.State
import Mathlib.Data.Finset.Card
import Mathlib.Data.Finset.Max

/-!
# The lane and its critical sections

`LaneState` and what `src/lane.rs` does with it while the lane mutex is held, one
definition for each section.  A section returns the new state, what the code does
next with the mutex released (notifications, starts, dropped entries) and the
stable codes it logs.

A `HashMap` is an `AssocMap`, a `HashSet` or a `HashMap` to the control of its own
key is a `Finset`; the waiter queue is a `BTreeMap` from tickets to the waiter's own
signal, so it is the set of its tickets, read through `firstWaiter`.
-/

namespace BusyBeaver

open Checked

/-! ## Submissions -/

/-- Scheduling priority, `0..=7`. -/
abbrev Priority : Type := Fin 8

def Priority.lowest : Priority := 0
def Priority.normal : Priority := 3
def Priority.highest : Priority := 7

/-- `OrderingKey::MAX_BYTES`. -/
def OrderingKey.maxBytes : Nat := 256

/-- Crate-owned, bounded ordering key. -/
structure OrderingKey : Type where
  bytes : List UInt8
  bounded : bytes.length ≤ OrderingKey.maxBytes
  deriving DecidableEq

structure SpawnOptions : Type where
  priority : Priority := Priority.normal
  orderingKey : Option OrderingKey := none
  deriving DecidableEq

/-- Admission errors of the lane. -/
inductive SpawnError : Type
  | queueFull
  | laneClosing
  | executorUnavailable
  | executorShuttingDown
  | admissionTimedOut
  | admissionDeadlineExceeded
  | timerUnavailable
  | waitingProducerLimitReached
  | orderingKeyLimitReached
  | sequenceExhausted
  | internal (resource : String)
  deriving DecidableEq, Repr

/-- The immutable limits a lane is created with; `validate` rejects zeros, and the
fields are `usize` in the source. -/
structure LaneConfig : Type where
  capacity : Nat
  concurrency : Nat
  maxWaitingProducers : Nat
  maxOrderingKeys : Nat
  capacity_pos : 0 < capacity := by decide
  concurrency_pos : 0 < concurrency := by decide
  concurrency_le : concurrency ≤ usizeMax := by decide
  maxWaitingProducers_le : maxWaitingProducers ≤ usizeMax := by decide

/-- Stable codes of the lane's internal error branches. -/
inductive LaneCode : Type
  | waiterTicketMissing
  | waiterCountUnderflow
  | orderingKeyCountUnderflow
  | orderingKeyCountMissing
  | runningOverflow
  | queueIndexMissing
  | queueIdMismatch
  | queueEntryMissing
  | dispatchCountOverflow
  | runningUnderflow
  | capacityInvariant
  deriving DecidableEq, Repr

/-! ## The state under the lane mutex -/

/-- A queued submission; its `start` is the one of the execution it is filed under. -/
structure QueueEntry : Type where
  options : SpawnOptions
  sequence : Nat
  deriving DecidableEq

structure LaneState : Type where
  closing : Bool
  runtimeUnavailable : Bool
  queue : List ExecutionId
  entries : AssocMap ExecutionId QueueEntry
  active : Finset ExecutionId
  running : Nat
  waitingProducers : Nat
  waitingQueue : Finset Nat
  nextWaiterSequence : Nat
  nextSequence : Nat
  dispatchCount : Nat
  activeOrderingKeys : Finset OrderingKey
  runningOrderingKeys : AssocMap ExecutionId OrderingKey
  orderingKeyRefcounts : AssocMap OrderingKey Nat
  deriving DecidableEq

/-- `LaneCore::new`. -/
def LaneState.new : LaneState where
  closing := false
  runtimeUnavailable := false
  queue := []
  entries := ∅
  active := ∅
  running := 0
  waitingProducers := 0
  waitingQueue := ∅
  nextWaiterSequence := 0
  nextSequence := 0
  dispatchCount := 0
  activeOrderingKeys := ∅
  runningOrderingKeys := ∅
  orderingKeyRefcounts := ∅

/-- `waiting_queue.first_key_value()`, the ticket of it. -/
def firstWaiter (waitingQueue : Finset Nat) : Option Nat :=
  if nonempty : waitingQueue.Nonempty then some (waitingQueue.min' nonempty) else none

theorem firstWaiter_eq_some {waitingQueue : Finset Nat} {ticket : Nat} :
    firstWaiter waitingQueue = some ticket ↔
      ticket ∈ waitingQueue ∧ ∀ other ∈ waitingQueue, ticket ≤ other := by
  unfold firstWaiter
  split
  · next nonempty =>
    rw [Option.some.injEq]
    constructor
    · intro first
      subst first
      exact ⟨waitingQueue.min'_mem nonempty, fun other member => waitingQueue.min'_le other member⟩
    · intro ⟨member, least⟩
      exact le_antisymm (waitingQueue.min'_le ticket member)
        (waitingQueue.le_min' nonempty ticket least)
  · next empty =>
    constructor
    · intro absurd
      cases absurd
    · intro ⟨member, _⟩
      exact (empty ⟨ticket, member⟩).elim

theorem firstWaiter_eq_none {waitingQueue : Finset Nat} :
    firstWaiter waitingQueue = none ↔ waitingQueue = ∅ := by
  unfold firstWaiter
  split
  · next nonempty => simp [nonempty.ne_empty]
  · next empty => simpa [Finset.not_nonempty_iff_eq_empty] using empty

/-! ## Selection -/

structure ReadyCandidate : Type where
  queueIndex : Nat
  executionId : ExecutionId
  priority : Priority
  sequence : Nat
  deriving DecidableEq, Repr

/-- Whether `candidate` replaces `current` in `select_ready_candidate`. -/
def ReadyCandidate.replaces (selectOldest : Bool) (candidate current : ReadyCandidate) : Bool :=
  if selectOldest then decide (candidate.sequence < current.sequence)
  else decide (current.priority < candidate.priority) ||
    (decide (candidate.priority = current.priority) &&
      decide (candidate.sequence < current.sequence))

/-- `select_ready_candidate`: every eighth dispatch takes the oldest candidate, the
others the oldest of the highest priority. -/
def selectReadyCandidate (dispatchCount : Nat) (candidates : List ReadyCandidate) :
    Option ReadyCandidate :=
  let selectOldest := dispatchCount % 8 == 7
  candidates.foldl
    (fun selected candidate =>
      match selected with
      | none => some candidate
      | some current =>
        if candidate.replaces selectOldest current then some candidate else selected)
    none

namespace LaneState

/-- Whether a running execution holds the entry's ordering key. -/
def blocked (state : LaneState) (entry : QueueEntry) : Bool :=
  entry.options.orderingKey.any fun key => decide (key ∈ state.activeOrderingKeys)

/-- The candidates `take_startable` offers to the selection, in queue order. -/
def readyCandidates (state : LaneState) : List ReadyCandidate :=
  state.queue.zipIdx.filterMap fun (executionId, queueIndex) =>
    match state.entries.lookup executionId with
    | none => none
    | some entry =>
      if state.blocked entry then none
      else some ⟨queueIndex, executionId, entry.options.priority, entry.sequence⟩

/-! ## Admission -/

/-- The checks shared by `check_try_admission_for` and `insert_prepared`. -/
def admissionError (config : LaneConfig) (state : LaneState) (waiterTicket : Option Nat) :
    Option SpawnError :=
  if state.runtimeUnavailable then some .executorUnavailable
  else if state.closing then some .laneClosing
  else if config.capacity ≤ state.entries.size then some .queueFull
  else
    match waiterTicket with
    | some ticket => if firstWaiter state.waitingQueue = some ticket then none else some .queueFull
    | none => if state.waitingQueue = ∅ then none else some .queueFull

/-- The reference count the admission will store for its key, if it has one. -/
def nextKeyRefcount (config : LaneConfig) (state : LaneState) :
    Option OrderingKey → Except SpawnError (Option (OrderingKey × Nat))
  | none => .ok none
  | some key =>
    match state.orderingKeyRefcounts.lookup key with
    | some count =>
      match add usizeMax count 1 with
      | none => .error .sequenceExhausted
      | some next => .ok (some (key, next))
    | none =>
      if config.maxOrderingKeys ≤ state.orderingKeyRefcounts.size then
        .error .orderingKeyLimitReached
      else .ok (some (key, 1))

def storeKeyRefcount (refcounts : AssocMap OrderingKey Nat) :
    Option (OrderingKey × Nat) → AssocMap OrderingKey Nat
  | none => refcounts
  | some (key, count) => refcounts.insert key count

/-- Locked section of `insert_prepared`. -/
def insertPrepared (config : LaneConfig) (state : LaneState) (executionId : ExecutionId)
    (options : SpawnOptions) (waiterTicket : Option Nat) : Except SpawnError LaneState :=
  match state.admissionError config waiterTicket with
  | some error => .error error
  | none =>
    match state.nextKeyRefcount config options.orderingKey with
    | .error error => .error error
    | .ok nextKeyRefcount =>
      match add u64Max state.nextSequence 1 with
      | none => .error .sequenceExhausted
      | some nextSequence =>
        .ok
          { state with
            nextSequence := nextSequence
            orderingKeyRefcounts := storeKeyRefcount state.orderingKeyRefcounts nextKeyRefcount
            active := insert executionId state.active
            entries := state.entries.insert executionId ⟨options, state.nextSequence⟩
            queue := state.queue ++ [executionId] }

/-! ## Removal and completion -/

/-- `decrement_ordering_key_refcount`. -/
def decrementOrderingKeyRefcount (refcounts : AssocMap OrderingKey Nat) (key : OrderingKey) :
    AssocMap OrderingKey Nat × List LaneCode :=
  match refcounts.lookup key with
  | some count =>
    match sub count 1 with
    | some 0 => (refcounts.erase key, [])
    | some next => (refcounts.insert key next, [])
    | none => (refcounts, [.orderingKeyCountUnderflow])
  | none => (refcounts, [.orderingKeyCountMissing])

/-- `decrement_ordering_key_refcount` for the key an entry or a running execution may have. -/
def releaseKey (refcounts : AssocMap OrderingKey Nat) :
    Option OrderingKey → AssocMap OrderingKey Nat × List LaneCode
  | none => (refcounts, [])
  | some key => decrementOrderingKeyRefcount refcounts key

/-- Locked section of `remove_queued`: the entry that was removed, if the execution
was still queued. -/
def removeQueued (state : LaneState) (executionId : ExecutionId) :
    LaneState × Option QueueEntry × List LaneCode :=
  match state.entries.lookup executionId with
  | none => (state, none, [])
  | some entry =>
    let released := releaseKey state.orderingKeyRefcounts entry.options.orderingKey
    ({ state with
        entries := state.entries.erase executionId
        queue := state.queue.filter fun id => id != executionId
        active := state.active.erase executionId
        orderingKeyRefcounts := released.1 },
      some entry, released.2)

/-- Locked section of `execution_finished`. -/
def executionFinished (state : LaneState) (executionId : ExecutionId) :
    LaneState × List LaneCode :=
  let counted :=
    if executionId ∈ state.active then
      match sub state.running 1 with
      | some next =>
        ({ state with active := state.active.erase executionId, running := next }, [])
      | none =>
        ({ state with active := state.active.erase executionId }, [LaneCode.runningUnderflow])
    else (state, [])
  match counted.1.runningOrderingKeys.lookup executionId with
  | none => counted
  | some key =>
    let released := decrementOrderingKeyRefcount counted.1.orderingKeyRefcounts key
    ({ counted.1 with
        runningOrderingKeys := counted.1.runningOrderingKeys.erase executionId
        activeOrderingKeys := counted.1.activeOrderingKeys.erase key
        orderingKeyRefcounts := released.1 },
      counted.2 ++ released.2)

/-! ## Dispatch -/

/-- One iteration of the `take_startable` loop. -/
inductive Dispatch : Type
  | idle
  | broken (state : LaneState) (code : LaneCode)
  | started (state : LaneState) (executionId : ExecutionId) (logged : List LaneCode)

/-- The ordering key moves from queued to running. -/
def holdKey (state : LaneState) (executionId : ExecutionId) : Option OrderingKey → LaneState
  | none => state
  | some key =>
    { state with
      activeOrderingKeys := insert key state.activeOrderingKeys
      runningOrderingKeys := state.runningOrderingKeys.insert executionId key }

def nextDispatchCount (dispatchCount : Nat) : Nat × List LaneCode :=
  match add u64Max dispatchCount 1 with
  | none => (0, [.dispatchCountOverflow])
  | some next => (next, [])

def dispatchOne (config : LaneConfig) (state : LaneState) : Dispatch :=
  if state.running < config.concurrency then
    match selectReadyCandidate state.dispatchCount state.readyCandidates with
    | none => .idle
    | some candidate =>
      match add usizeMax state.running 1 with
      | none => .broken { state with closing := true } .runningOverflow
      | some nextRunning =>
        match state.queue[candidate.queueIndex]? with
        | none => .broken { state with closing := true } .queueIndexMissing
        | some removedId =>
          let queue := state.queue.eraseIdx candidate.queueIndex
          if removedId != candidate.executionId then
            .broken { state with queue := queue, closing := true } .queueIdMismatch
          else
            match state.entries.lookup candidate.executionId with
            | none => .broken { state with queue := queue, closing := true } .queueEntryMissing
            | some entry =>
              let counted := nextDispatchCount state.dispatchCount
              .started
                { holdKey
                    { state with
                      queue := queue
                      entries := state.entries.erase candidate.executionId }
                    candidate.executionId entry.options.orderingKey with
                  running := nextRunning
                  dispatchCount := counted.1 }
                candidate.executionId counted.2
  else .idle

/-- The starts taken so far, with the codes logged on the way. -/
structure Taken : Type where
  state : LaneState
  starts : List ExecutionId
  logged : List LaneCode
  deriving DecidableEq

/-- The `while` loop of `take_startable`, cut off after `fuel` iterations. -/
def takeLoop (config : LaneConfig) : Nat → Taken → Taken
  | 0, taken => taken
  | fuel + 1, taken =>
    match dispatchOne config taken.state with
    | .idle => taken
    | .broken state code => ⟨state, taken.starts, taken.logged ++ [code]⟩
    | .started state executionId logged =>
      takeLoop config fuel ⟨state, taken.starts ++ [executionId], taken.logged ++ logged⟩

/-- Locked section of `take_startable`: every iteration takes an id off the queue, so
the queue's length bounds the loop. -/
def takeStartable (config : LaneConfig) (state : LaneState) : Taken :=
  takeLoop config (state.queue.length + 1) ⟨state, [], []⟩

/-- `should_exit` of `take_startable`, read before the mutex is released. -/
def shouldExit (state : LaneState) : Bool := state.closing && decide (state.active = ∅)

/-! ## Closing -/

/-- Locked section of `request_close`; the controls it returns are those of `active`. -/
def requestClose (state : LaneState) : LaneState := { state with closing := true }

/-- Locked section of `dispatcher_stopped`. -/
def dispatcherStopped (state : LaneState) : LaneState :=
  { state with
    closing := true
    runtimeUnavailable := true
    queue := []
    entries := ∅
    active := ∅
    running := 0
    activeOrderingKeys := ∅
    runningOrderingKeys := ∅
    orderingKeyRefcounts := ∅ }

/-! ## Waiting producers -/

/-- Locked section of `WaitingProducer::new`. -/
def newWaitingProducer (config : LaneConfig) (state : LaneState) :
    LaneState × Except SpawnError Nat :=
  if config.maxWaitingProducers ≤ state.waitingProducers then
    (state, .error .waitingProducerLimitReached)
  else
    let ticket := state.nextWaiterSequence
    match add u64Max state.nextWaiterSequence 1 with
    | none => (state, .error .sequenceExhausted)
    | some nextWaiterSequence =>
      match add usizeMax state.waitingProducers 1 with
      | none => ({ state with nextWaiterSequence := nextWaiterSequence }, .error .sequenceExhausted)
      | some waitingProducers =>
        ({ state with
            nextWaiterSequence := nextWaiterSequence
            waitingProducers := waitingProducers
            waitingQueue := insert ticket state.waitingQueue },
          .ok ticket)

/-- What `WaitingProducer::finish` does once the mutex is released. -/
structure FinishEffects : Type where
  /-- The ticket whose own signal is notified. -/
  nextSignal : Option Nat
  notifyCapacityObservers : Bool
  logged : List LaneCode
  deriving DecidableEq

/-- Locked section of `WaitingProducer::finish` for an active ticket. -/
def finishWaitingProducer (config : LaneConfig) (state : LaneState) (ticket : Nat) :
    LaneState × FinishEffects :=
  let wasFront := decide (firstWaiter state.waitingQueue = some ticket)
  let removed := decide (ticket ∈ state.waitingQueue)
  let waitingQueue := state.waitingQueue.erase ticket
  let counted :=
    if removed then
      match sub state.waitingProducers 1 with
      | some next => (next, [])
      | none => (state.waitingProducers, [LaneCode.waiterCountUnderflow])
    else (state.waitingProducers, [LaneCode.waiterTicketMissing])
  ({ state with waitingQueue := waitingQueue, waitingProducers := counted.1 },
    { nextSignal := if wasFront then firstWaiter waitingQueue else none
      notifyCapacityObservers := removed && wasFront && decide (waitingQueue = ∅) &&
        decide (state.entries.size < config.capacity)
      logged := counted.2 })

/-- The capacity subtraction of `stats`; the counters it also reports are plain reads. -/
def availableQueueCapacity (config : LaneConfig) (state : LaneState) : Nat × List LaneCode :=
  match sub config.capacity state.entries.size with
  | some available => (available, [])
  | none => (0, [.capacityInvariant])

end LaneState

end BusyBeaver
