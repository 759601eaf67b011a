import BusyBeaver.Lane.Run

/-!
# Single dispatches

A call of `take_startable` is a run of single dispatches, each of which starts one queued
execution.  What a dispatch does to the bookkeeping is said once, by `Dispatched`, and what
a call does follows by induction on `Dispatches`.
-/

namespace BusyBeaver

namespace LaneState

variable {config : LaneConfig} {state after : LaneState} {id : ExecutionId}
  {ids : List ExecutionId}

/-! ## Lookups after the other sections -/

section Lookups

variable {config : LaneConfig} {state : LaneState} {id other : ExecutionId} {ticket : Nat}

/-- Erasing and not finding are one for a lookup. -/
theorem lookup_of_absent {α β : Type} [DecidableEq α] {m : AssocMap α β} {a b : α}
    (absent : m.lookup a = none) : m.lookup b = if b = a then none else m.lookup b := by
  split
  · rename_i same
    rw [same, absent]
  · rfl

theorem lookup_removeQueued :
    (state.removeQueued id).1.entries.lookup other =
      if other = id then none else state.entries.lookup other := by
  unfold LaneState.removeQueued
  split
  · rename_i absent
    exact lookup_of_absent absent
  · rw [AssocMap.lookup_erase_eq]

/-- `remove_queued` takes nothing but a queued execution out of `active`. -/
theorem mem_active_removeQueued (active : other ∈ state.active) (unqueued : other ∉ state.entries) :
    other ∈ (state.removeQueued id).1.active := by
  unfold LaneState.removeQueued
  split
  · exact active
  · rename_i entry queued
    refine Finset.mem_erase.2 ⟨?_, active⟩
    rintro rfl
    exact unqueued (AssocMap.mem_of_lookup queued)

theorem removeQueued_keys :
    (state.removeQueued id).1.runningOrderingKeys = state.runningOrderingKeys ∧
      (state.removeQueued id).1.runtimeUnavailable = state.runtimeUnavailable := by
  unfold LaneState.removeQueued
  split <;> exact ⟨rfl, rfl⟩

theorem removeQueued_closing : (state.removeQueued id).1.closing = state.closing := by
  unfold LaneState.removeQueued
  split <;> rfl

theorem removeQueued_counters :
    (state.removeQueued id).1.nextSequence = state.nextSequence ∧
      (state.removeQueued id).1.dispatchCount = state.dispatchCount := by
  unfold LaneState.removeQueued
  split <;> exact ⟨rfl, rfl⟩

theorem executionFinished_counters :
    (state.executionFinished id).1.nextSequence = state.nextSequence ∧
      (state.executionFinished id).1.dispatchCount = state.dispatchCount := by
  unfold LaneState.executionFinished
  by_cases active : id ∈ state.active
  · simp only [active, ↓reduceIte]
    split <;> split <;> exact ⟨rfl, rfl⟩
  · simp only [active, ↓reduceIte]
    split <;> exact ⟨rfl, rfl⟩

theorem lookup_executionFinished :
    (state.executionFinished id).1.runningOrderingKeys.lookup other =
      if other = id then none else state.runningOrderingKeys.lookup other := by
  unfold LaneState.executionFinished
  by_cases active : id ∈ state.active
  · simp only [active, ↓reduceIte]
    cases Checked.sub state.running 1 with
    | none =>
      dsimp only
      split
      · rename_i absent
        exact lookup_of_absent absent
      · rw [AssocMap.lookup_erase_eq]
    | some next =>
      dsimp only
      split
      · rename_i absent
        exact lookup_of_absent absent
      · rw [AssocMap.lookup_erase_eq]
  · simp only [active, ↓reduceIte]
    split
    · rename_i absent
      exact lookup_of_absent absent
    · rw [AssocMap.lookup_erase_eq]

theorem executionFinished_runtimeUnavailable :
    (state.executionFinished id).1.runtimeUnavailable = state.runtimeUnavailable := by
  unfold LaneState.executionFinished
  by_cases active : id ∈ state.active
  · simp only [active, ↓reduceIte]
    split <;> split <;> rfl
  · simp only [active, ↓reduceIte]
    split <;> rfl

/-- What neither section of a waiting producer touches. -/
structure WaitingOnly (state after : LaneState) : Prop where
  runtimeUnavailable : after.runtimeUnavailable = state.runtimeUnavailable
  closing : after.closing = state.closing
  queue : after.queue = state.queue
  entries : after.entries = state.entries
  active : after.active = state.active
  running : after.running = state.running
  runningOrderingKeys : after.runningOrderingKeys = state.runningOrderingKeys
  activeOrderingKeys : after.activeOrderingKeys = state.activeOrderingKeys
  nextSequence : after.nextSequence = state.nextSequence
  dispatchCount : after.dispatchCount = state.dispatchCount

theorem WaitingOnly.newWaitingProducer :
    WaitingOnly state (state.newWaitingProducer config).1 := by
  rcases newWaitingProducer_cases config state with ⟨error, next, eq, -⟩ | ⟨-, eq⟩
  · rw [eq]
    exact ⟨rfl, rfl, rfl, rfl, rfl, rfl, rfl, rfl, rfl, rfl⟩
  · rw [eq]
    exact ⟨rfl, rfl, rfl, rfl, rfl, rfl, rfl, rfl, rfl, rfl⟩

theorem WaitingOnly.finishWaitingProducer :
    WaitingOnly state (state.finishWaitingProducer config ticket).1 :=
  ⟨rfl, rfl, rfl, rfl, rfl, rfl, rfl, rfl, rfl, rfl⟩

end Lookups

/-- One iteration of the loop starts the entry `entry` of execution `id`. -/
structure Dispatched (config : LaneConfig) (state : LaneState) (id : ExecutionId)
    (entry : QueueEntry) (after : LaneState) : Prop where
  eq : after = state.started id entry
  room : state.running < config.concurrency
  queued : state.entries.lookup id = some entry
  free : state.blocked entry = false
  selected : ∃ candidate, candidate.executionId = id ∧
    selectReadyCandidate state.dispatchCount state.readyCandidates = some candidate

/-- The iteration that starts `id` starts the entry of `id`. -/
theorem Inv.dispatched_of_started (inv : Inv config state) {logged : List LaneCode}
    (one : dispatchOne config state = .started after id logged) :
    ∃ entry, Dispatched config state id entry after := by
  rcases inv.dispatchOne_cases with idle | ⟨other, entry, _, eq, room, queued, free, -⟩
  · rw [idle] at one
    cases one
  · have same := one.symm.trans eq
    injection same with state_ id_ _
    subst id_
    refine ⟨entry, state_, room, queued, free, ?_⟩
    cases selected : selectReadyCandidate state.dispatchCount state.readyCandidates with
    | none => simp [dispatchOne, room, selected] at one
    | some candidate =>
      refine ⟨candidate, ?_, rfl⟩
      obtain ⟨at_index, entry', found, -⟩ :=
        mem_readyCandidates (mem_of_selectReadyCandidate selected)
      have fits : Checked.add Checked.usizeMax state.running 1 = some (state.running + 1) :=
        Checked.add_eq_some.2 ⟨Nat.le_trans room config.concurrency_le, rfl⟩
      simp [dispatchOne, room, selected, fits, at_index, found] at one
      exact one.2.1

theorem Inv.dispatched (inv : Inv config state) {entry : QueueEntry}
    (one : Dispatched config state id entry after) : Inv config after :=
  one.eq ▸ inv.started one.room one.queued one.free

/-- `ids` are started one after the other. -/
inductive Dispatches (config : LaneConfig) (state : LaneState) :
    List ExecutionId → LaneState → Prop
  | refl : Dispatches config state [] state
  | tail {ids : List ExecutionId} {between after : LaneState} {id : ExecutionId}
    {entry : QueueEntry} : Dispatches config state ids between →
    Dispatched config between id entry after → Dispatches config state (ids ++ [id]) after

namespace Dispatches

theorem inv (run : Dispatches config state ids after) (inv : Inv config state) :
    Inv config after := by
  induction run with
  | refl => exact inv
  | tail _ one ih => exact ih.dispatched one

theorem takeLoop {taken : Taken} (fuel : Nat) (inv : Inv config state)
    (run : Dispatches config state taken.starts taken.state) :
    Dispatches config state (LaneState.takeLoop config fuel taken).starts
      (LaneState.takeLoop config fuel taken).state := by
  induction fuel generalizing taken with
  | zero => exact run
  | succ fuel ih =>
    unfold LaneState.takeLoop
    rcases (run.inv inv).dispatchOne_cases with idle | ⟨id, entry, logged, eq, -⟩
    · rw [idle]
      exact run
    · rw [eq]
      obtain ⟨own, one⟩ := (run.inv inv).dispatched_of_started eq
      exact ih (run.tail one)

end Dispatches

/-- A call of `take_startable` starts its executions one after the other. -/
theorem Inv.dispatches (inv : Inv config state) :
    Dispatches config state (LaneState.takeStartable config state).starts
      (LaneState.takeStartable config state).state :=
  @Dispatches.takeLoop config state ⟨state, [], []⟩ _ inv .refl

namespace Dispatches

/-- The entries that are left are those of the executions that were not started. -/
theorem lookup_entries (run : Dispatches config state ids after) (id : ExecutionId) :
    after.entries.lookup id = if id ∈ ids then none else state.entries.lookup id := by
  induction run with
  | refl => simp
  | @tail ids between after other entry _ one ih =>
    rw [one.eq]
    simp only [started, AssocMap.lookup_erase_eq, ih, List.mem_append, List.mem_singleton]
    by_cases here : id = other
    · simp [here]
    · simp [here]

/-- Every started execution was queued. -/
theorem queued (run : Dispatches config state ids after) :
    ∀ id ∈ ids, ∃ entry, state.entries.lookup id = some entry := by
  induction run with
  | refl => simp
  | @tail ids between after other entry earlier one ih =>
    intro id member
    rcases List.mem_append.1 member with before | new
    · exact ih id before
    · rw [List.mem_singleton] at new
      have found := one.queued
      rw [earlier.lookup_entries] at found
      split at found
      · cases found
      · exact ⟨entry, new ▸ found⟩

/-- Started executions hold the keys they were queued under, and no key is given back. -/
theorem holds (run : Dispatches config state ids after) (inv : Inv config state)
    {id : ExecutionId} {key : OrderingKey} :
    after.runningOrderingKeys.lookup id = some key ↔
      state.runningOrderingKeys.lookup id = some key ∨
        id ∈ ids ∧ ∃ entry, state.entries.lookup id = some entry ∧
          entry.options.orderingKey = some key := by
  induction run with
  | refl => simp
  | @tail ids between after other entry earlier one ih =>
    have present := AssocMap.mem_of_lookup one.queued
    have unheld : other ∉ between.runningOrderingKeys :=
      fun held => ((earlier.inv inv).keys_running other held).2 present
    have found := one.queued
    rw [earlier.lookup_entries] at found
    split at found
    · cases found
    rename_i fresh
    rw [one.eq]
    simp only [started, lookup_holdKey_runningOrderingKeys unheld, ih, List.mem_append,
      List.mem_singleton]
    by_cases here : id = other
    · subst here
      simp [fresh, found, or_comm]
    · simp [here]

theorem active (run : Dispatches config state ids after) : after.active = state.active := by
  induction run with
  | refl => rfl
  | tail _ one ih => rw [one.eq, ← ih]; simp [started]

theorem runtimeUnavailable (run : Dispatches config state ids after) :
    after.runtimeUnavailable = state.runtimeUnavailable := by
  induction run with
  | refl => rfl
  | tail _ one ih => rw [one.eq, ← ih]; simp [started]

end Dispatches

/-! ## The lane without an execution -/

/-- `after` is `state` without execution `id`: the queue keeps its order, the reference counts
count the holders that are left, and the rest is the same. -/
structure Without (config : LaneConfig) (state : LaneState) (id : ExecutionId)
    (after : LaneState) : Prop where
  eq : after =
    { state with
      queue := state.queue.filter fun other => other != id
      entries := state.entries.erase id
      active := state.active.erase id
      orderingKeyRefcounts := after.orderingKeyRefcounts }
  refcounts : RefCount.Represents after.orderingKeyRefcounts
    (holders (state.entries.erase id) state.runningOrderingKeys)
  capacity : after.availableQueueCapacity config =
    (config.capacity - AssocMap.size (state.entries.erase id), [])

/-- `remove_queued` leaves the state without an execution that does not run. -/
theorem Inv.without (inv : Inv config state) (unstarted : id ∈ state.active → id ∈ state.entries) :
    Without config state id (state.removeQueued id).1 := by
  have kept := (inv.removeQueued id).1.availableQueueCapacity
  cases queued : state.entries.lookup id with
  | some entry =>
    obtain ⟨refcounts, eq, represents, -⟩ := inv.removeQueued_spec queued
    rw [eq] at kept ⊢
    exact ⟨rfl, represents, kept⟩
  | none =>
    have absent := AssocMap.notMem_of_lookup queued
    have erased := AssocMap.erase_of_notMem absent
    have unqueued : id ∉ state.queue := fun member => absent ((inv.queue.mem id).1 member)
    have filtered : (state.queue.filter fun other => other != id) = state.queue := by
      rw [List.filter_eq_self]
      intro other member
      exact bne_iff_ne.2 fun same => unqueued (same ▸ member)
    rw [removeQueued_of_notMem absent] at kept ⊢
    refine ⟨?_, ?_, ?_⟩
    · rw [filtered, erased, Finset.erase_eq_of_notMem fun active => absent (unstarted active)]
    · rw [erased]
      exact inv.refcounts
    · rw [erased]
      exact kept

end LaneState

end BusyBeaver
