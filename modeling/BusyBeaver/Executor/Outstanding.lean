import BusyBeaver.Executor.Lanes

/-!
# Bounded concurrency and single flight

The slot and the ordering key of a dispatched execution are given back by a monitor that
waits for the published exit, or by the loss of the lane's runtime.  While the runtime is
there, an execution that was dispatched and is not terminal is accounted for in the lane;
once it is gone nothing is dispatched any more.  Either way no lane has more than
`concurrency` of them, nor two under one ordering key: `single_flight`.
-/

namespace BusyBeaver

open Transition Execution

namespace Execution

variable {x y : Execution} {label : Label} {effect : Effect}

/-- `take_startable` of the lane has taken the execution, and no exit is committed. -/
structure Outstanding (x : Execution) (lane : LaneId) : Prop where
  lane : x.lane = some lane
  dispatched : x.dispatched = true
  terminal : x.core.terminal = none

theorem Moved.options (moved : Moved x label effect y) : y.options = x.options := by
  cases moved <;> rfl

theorem Moved.dispatched_of (moved : Moved x label effect y) (after : y.dispatched = true) :
    x.dispatched = true ∨ label = .take := by
  cases moved with
  | take => exact Or.inr rfl
  | _ => exact Or.inl after

/-- A committed exit stays. -/
theorem Moved.terminal_none (moved : Moved x label effect y) (after : y.core.terminal = none) :
    x.core.terminal = none := by
  cases moved with
  | claim core at_ claimed => exact (terminal_of_claimStart claimed).1
  | commit exit committed at_ written | commitOver exit committed at_ written =>
    exact (terminal_of_commit written).1
  | report next core polled written =>
    rw [← terminal_of_setActiveState written]
    exact after
  | requestStop cause core seen accepted => exact (terminal_of_requestStop accepted).1
  | _ => exact after

/-- An execution becomes outstanding when it is dispatched, and at no other time. -/
theorem Moved.outstanding (moved : Moved x label effect y) {lane : LaneId}
    (after : y.Outstanding lane) :
    x.lane = some lane ∧ (x.Outstanding lane ∨ label = .take) := by
  have place := moved.lane.symm.trans after.lane
  refine ⟨place, ?_⟩
  rcases moved.dispatched_of after.dispatched with before | taken
  · exact Or.inl ⟨place, before, moved.terminal_none after.terminal⟩
  · exact Or.inr taken

/-- Whoever waits is answered after the commit. -/
theorem isCommitted_of_waited (waited : x.waited = true) : x.runner.isCommitted = true := by
  unfold Execution.waited at waited
  split at waited <;> simp_all [Runner.isCommitted]

end Execution

namespace Executor

variable {config : ExecutorConfig} {s t : Executor} {i j : ExecutionId} {x y : Execution}
  {action : ExecutorAction} {lane : LaneId}

/-! ## Outstanding executions along a step -/

/-- The options of an execution never change, and no execution is forgotten. -/
theorem Change.options (change : Change config s action t i) (found : s.executions i = some x) :
    ∃ y, t.executions i = some y ∧ y.options = x.options := by
  rcases change with ⟨same, _⟩ | ⟨_, _, absent, _⟩ | ⟨before, moved, _, after⟩
  · exact ⟨x, same.trans found, rfl⟩
  · rw [absent] at found
    cases found
  · have here := (view_eq_some.1 before).1
    cases here.symm.trans found
    refine ⟨_, (view_eq_some.1 after).1, ?_⟩
    rw [View.after_execution]
    exact moved.options

/-- An outstanding execution was outstanding before the step, or the step dispatched it. -/
theorem Change.outstanding (change : Change config s action t i)
    (found : t.executions i = some y) (after : y.Outstanding lane) :
    ∃ x, s.executions i = some x ∧ x.options = y.options ∧ x.lane = some lane ∧
      (x.Outstanding lane ∨ ∃ other, action = .dispatch other ∧
        i ∈ ((s.lanes other).lane.takeStartable (config.lanes other)).starts) := by
  rcases change with ⟨same, _⟩ | ⟨fresh, _, _, created⟩ | ⟨before, moved, of, moved_⟩
  · exact ⟨y, same ▸ found, rfl, after.lane, Or.inl after⟩
  · have here := (view_eq_some.1 created).1
    cases here.symm.trans found
    have dispatched := after.dispatched
    cases fresh <;> cases dispatched
  · have here := (view_eq_some.1 moved_).1
    rw [View.after_execution] at here
    cases here.symm.trans found
    obtain ⟨place, outstanding⟩ := moved.outstanding after
    refine ⟨_, (view_eq_some.1 before).1, moved.options.symm, place, ?_⟩
    rcases outstanding with earlier | taken
    · exact Or.inl earlier
    · subst taken
      exact Or.inr of

/-! ## The lane's account of them -/

/-- Every entry carries the options of the execution it is filed under. -/
def Filed (s : Executor) (lane : LaneId) : Prop :=
  ∀ i entry, (s.lanes lane).lane.entries.lookup i = some entry →
    ∃ x, s.executions i = some x ∧ x.options = entry.options

/-- The lane holds a slot and the ordering key for every outstanding execution. -/
def Accounted (s : Executor) (lane : LaneId) : Prop :=
  ∀ i x, s.executions i = some x → x.Outstanding lane →
    i ∈ (s.lanes lane).lane.active ∧ i ∉ (s.lanes lane).lane.entries ∧
      ∀ key, x.options.orderingKey = some key →
        (s.lanes lane).lane.runningOrderingKeys.lookup i = some key

/-- At most `concurrency` executions are outstanding, no two under one ordering key. -/
structure SingleFlight (config : ExecutorConfig) (s : Executor) (lane : LaneId) : Prop where
  bounded : ∀ ids : Finset ExecutionId,
    (∀ i ∈ ids, ∃ x, s.executions i = some x ∧ x.Outstanding lane) →
      ids.card ≤ (config.lanes lane).concurrency
  apart : ∀ i j x y key, i ≠ j → s.executions i = some x → s.executions j = some y →
    x.Outstanding lane → y.Outstanding lane → x.options.orderingKey = some key →
      y.options.orderingKey ≠ some key

theorem LaneChange.lookup_entries {after : LaneState} (coupled : s.Coupled config)
    (change : LaneChange config s lane action after) {entry : QueueEntry}
    (queued : after.entries.lookup i = some entry) :
    (s.lanes lane).lane.entries.lookup i = some entry ∨
      after.runtimeUnavailable = false ∧
        ∃ x, s.executions i = some x ∧ x.options = entry.options := by
  cases change with
  | same => exact Or.inl queued
  | @insert i₀ x after found place unissued ok =>
    have inserted := LaneState.Inserted.of_ok ok
    rw [inserted.eq] at queued ⊢
    simp only [AssocMap.lookup_insert_eq] at queued
    split at queued
    · rename_i same
      cases queued
      have available := (LaneState.not_closing_of_admissionError inserted.admitted).1
      exact Or.inr ⟨available, x, same ▸ found, rfl⟩
    · exact Or.inl queued
  | remove found place by_ =>
    rw [LaneState.lookup_removeQueued] at queued
    split at queued
    · cases queued
    · exact Or.inl queued
  | dispatch =>
    rw [(coupled.laneInv lane).lane.dispatches.lookup_entries] at queued
    split at queued
    · cases queued
    · exact Or.inl queued
  | finish found place waited monitored =>
    rw [(LaneRun.executionFinished_fields _ _).2.1] at queued
    exact Or.inl queued
  | requestClose => exact Or.inl queued
  | dispatcherStopped => cases queued
  | newWaitingProducer =>
    rw [LaneState.WaitingOnly.newWaitingProducer.entries] at queued
    exact Or.inl queued
  | finishWaitingProducer live => exact Or.inl queued

/-- The lane keeps its account of an execution that is not terminal. -/
theorem LaneChange.account {after : LaneState} (coupled : s.Coupled config)
    (change : LaneChange config s lane action after)
    (available : after.runtimeUnavailable = false) :
    (s.lanes lane).lane.runtimeUnavailable = false ∧
      ∀ i x, s.executions i = some x → x.core.terminal = none →
        i ∈ (s.lanes lane).lane.active → i ∉ (s.lanes lane).lane.entries →
        i ∈ after.active ∧ i ∉ after.entries ∧
          ∀ key, (s.lanes lane).lane.runningOrderingKeys.lookup i = some key →
            after.runningOrderingKeys.lookup i = some key := by
  have inv := coupled.laneInv lane
  have gone : ∀ {i}, after.entries.lookup i = none → i ∉ after.entries := AssocMap.notMem_of_lookup
  cases change with
  | same => exact ⟨available, fun _ _ _ _ active unqueued => ⟨active, unqueued, fun _ => id⟩⟩
  | @insert i₀ x after found place unissued ok =>
    have inserted := LaneState.Inserted.of_ok ok
    refine ⟨(LaneState.not_closing_of_admissionError inserted.admitted).1, ?_⟩
    intro i x _ _ active unqueued
    have other : i ≠ i₀ := by
      rintro rfl
      exact unissued (inv.issued i active)
    rw [inserted.eq]
    refine ⟨Finset.mem_insert_of_mem active, ?_, fun _ => id⟩
    rw [AList.mem_insert, not_or]
    exact ⟨other, unqueued⟩
  | remove found place by_ =>
    refine ⟨LaneState.removeQueued_keys.2 ▸ available, ?_⟩
    intro i x _ _ active unqueued
    refine ⟨LaneState.mem_active_removeQueued active unqueued, gone ?_, ?_⟩
    · rw [LaneState.lookup_removeQueued, AList.lookup_eq_none.2 unqueued, ite_self]
    · rw [LaneState.removeQueued_keys.1]
      exact fun _ => id
  | dispatch =>
    have run := inv.lane.dispatches
    refine ⟨run.runtimeUnavailable ▸ available, ?_⟩
    intro i x _ _ active unqueued
    refine ⟨run.active ▸ active, gone ?_, ?_⟩
    · rw [run.lookup_entries, AList.lookup_eq_none.2 unqueued, ite_self]
    · intro key held
      exact (run.holds inv.lane).2 (Or.inl held)
  | @finish i₀ x₀ found place waited monitored =>
    refine ⟨LaneState.executionFinished_runtimeUnavailable ▸ available, ?_⟩
    intro i x here running active unqueued
    have other : i ≠ i₀ := by
      rintro rfl
      obtain rfl : x = x₀ := Option.some.inj (here.symm.trans found)
      have committed := (coupled.sound i x here).terminal
      rw [running, isCommitted_of_waited waited] at committed
      cases committed
    obtain ⟨actives, entries, -⟩ := LaneRun.executionFinished_fields (s.lanes lane).lane i₀
    refine ⟨actives ▸ Finset.mem_erase.2 ⟨other, active⟩, entries ▸ unqueued, ?_⟩
    intro key held
    rw [LaneState.lookup_executionFinished, if_neg other]
    exact held
  | requestClose =>
    exact ⟨available, fun _ _ _ _ active unqueued => ⟨active, unqueued, fun _ => id⟩⟩
  | dispatcherStopped => cases available
  | newWaitingProducer =>
    have only := @LaneState.WaitingOnly.newWaitingProducer (config.lanes lane) (s.lanes lane).lane
    rw [only.active, only.entries, only.runningOrderingKeys]
    exact ⟨only.runtimeUnavailable ▸ available,
      fun _ _ _ _ active unqueued => ⟨active, unqueued, fun _ => id⟩⟩
  | finishWaitingProducer live =>
    exact ⟨available, fun _ _ _ _ active unqueued => ⟨active, unqueued, fun _ => id⟩⟩

/-- Accounted executions hold different slots and different keys. -/
theorem Accounted.singleFlight (coupled : s.Coupled config) (accounted : s.Accounted lane) :
    s.SingleFlight config lane := by
  have inv := (coupled.laneInv lane).lane
  constructor
  · intro ids outstanding
    have held : ∀ i ∈ ids, i ∈ (s.lanes lane).lane.active ∧ i ∉ (s.lanes lane).lane.entries := by
      intro i member
      obtain ⟨x, found, out⟩ := outstanding i member
      obtain ⟨active, unqueued, -⟩ := accounted i x found out
      exact ⟨active, unqueued⟩
    have inside : ∀ i ∈ (s.lanes lane).lane.entries, i ∈ (s.lanes lane).lane.active \ ids := by
      intro i queued
      exact Finset.mem_sdiff.2 ⟨inv.entries_active i queued, fun member => (held i member).2 queued⟩
    have size := AssocMap.size_le_card inside
    have subset : ids ⊆ (s.lanes lane).lane.active := fun i member => (held i member).1
    have card := Finset.card_sdiff_add_card_eq_card subset
    have running := inv.running
    have bound := inv.running_le
    omega
  · intro i j x y key apart foundX foundY outX outY keyX keyY
    have left := (accounted i x foundX outX).2.2 key keyX
    have right := (accounted j y foundY outY).2.2 key keyY
    exact apart (inv.keys_injective i j key left right)

theorem SingleFlight.mono (flight : s.SingleFlight config lane)
    (before : ∀ i y, t.executions i = some y → y.Outstanding lane →
      ∃ x, s.executions i = some x ∧ x.Outstanding lane ∧ x.options = y.options) :
    t.SingleFlight config lane := by
  constructor
  · intro ids outstanding
    refine flight.bounded ids fun i member => ?_
    obtain ⟨y, found, out⟩ := outstanding i member
    obtain ⟨x, found', out', -⟩ := before i y found out
    exact ⟨x, found', out'⟩
  · intro i j y z key apart foundY foundZ outY outZ keyY
    obtain ⟨x, foundX, outX, sameX⟩ := before i y foundY outY
    obtain ⟨w, foundW, outW, sameW⟩ := before j z foundZ outZ
    rw [← sameW]
    exact flight.apart i j x w key apart foundX foundW outX outW (sameX ▸ keyY)

/-- Only `dispatcher_stopped` takes the runtime away, and nothing brings it back. -/
theorem LaneChange.unavailable {after : LaneState} (coupled : s.Coupled config)
    (change : LaneChange config s lane action after)
    (unavailable : after.runtimeUnavailable = true) :
    (s.lanes lane).lane.runtimeUnavailable = true ∨ action = .dispatcherStopped lane := by
  cases change with
  | insert found place unissued ok =>
    have inserted := LaneState.Inserted.of_ok ok
    rw [inserted.eq] at unavailable
    exact Or.inl unavailable
  | remove found place by_ => exact Or.inl (LaneState.removeQueued_keys.2 ▸ unavailable)
  | dispatch =>
    exact Or.inl ((coupled.laneInv lane).lane.dispatches.runtimeUnavailable ▸ unavailable)
  | finish found place waited monitored =>
    exact Or.inl (LaneState.executionFinished_runtimeUnavailable ▸ unavailable)
  | dispatcherStopped => exact Or.inr rfl
  | newWaitingProducer =>
    exact Or.inl (LaneState.WaitingOnly.newWaitingProducer.runtimeUnavailable ▸ unavailable)
  | _ => exact Or.inl unavailable

theorem dispatcherStopped_lane :
    ((s.dispatcherStopped lane).lanes lane).lane = (s.lanes lane).lane.dispatcherStopped :=
  congrArg LaneRun.lane setLane_self

/-- What keeps the outstanding executions of a lane apart. -/
structure Flight (config : ExecutorConfig) (s : Executor) (lane : LaneId) : Prop where
  filed : s.Filed lane
  accounted : (s.lanes lane).lane.runtimeUnavailable = false → s.Accounted lane
  gone : (s.lanes lane).lane.runtimeUnavailable = true →
    ∀ i, (s.lanes lane).lane.entries.lookup i = none
  flight : s.SingleFlight config lane

theorem Flight.init : Flight config (executor config).init lane where
  filed _ _ queued := by cases queued
  accounted _ _ _ found := by cases found
  gone absurd := by cases absurd
  flight := by
    constructor
    · intro ids outstanding
      rcases ids.eq_empty_or_nonempty with rfl | ⟨i, member⟩
      · exact Nat.zero_le _
      · obtain ⟨x, found, -⟩ := outstanding i member
        cases found
    · intro i j x y key _ found
      cases found

/-- An execution of the lane that was not taken is active only while it is queued. -/
theorem Coupled.queued_of_active (coupled : s.Coupled config) (found : s.executions i = some x)
    (untaken : x.dispatched = false) (active : i ∈ (s.lanes lane).lane.active) :
    i ∈ (s.lanes lane).lane.entries := by
  refine ((coupled.laneInv lane).covered i active).resolve_right fun monitored => ?_
  obtain ⟨y, here, dispatched⟩ := (coupled.agrees lane).monitors i monitored
  obtain rfl : x = y := Option.some.inj (found.symm.trans here)
  rw [untaken] at dispatched
  cases dispatched

/-- The dispatched executions of another lane are not this lane's. -/
theorem Coupled.starts_lane (coupled : s.Coupled config) {other : LaneId}
    (found : s.executions i = some x) (place : x.lane = some lane)
    (taken : i ∈ ((s.lanes other).lane.takeStartable (config.lanes other)).starts) :
    other = lane := by
  have queued := (coupled.laneInv other).lane.takeStartable.started i taken
  obtain ⟨y, here, elsewhere, -⟩ := ((coupled.agrees other).entries i).1 queued
  obtain rfl : x = y := Option.some.inj (found.symm.trans here)
  exact Option.some.inj (elsewhere.symm.trans place)

theorem Flight.step (flight : s.Flight config lane) (coupled : s.Coupled config)
    (step : s.step config action = some t) : t.Flight config lane := by
  obtain ⟨coupled', changes⟩ := coupled.step step
  have change := lane_change step lane
  have filed : t.Filed lane := by
    intro i entry queued
    have origin : ∃ x, s.executions i = some x ∧ x.options = entry.options := by
      rcases change.lookup_entries coupled queued with before | ⟨-, new⟩
      · exact flight.filed i entry before
      · exact new
    obtain ⟨x, found, same⟩ := origin
    obtain ⟨y, found', kept⟩ := (changes i).options found
    exact ⟨y, found', kept.trans same⟩
  have accounted : (t.lanes lane).lane.runtimeUnavailable = false → t.Accounted lane := by
    intro available i y found outstanding
    obtain ⟨before, account⟩ := change.account coupled available
    obtain ⟨x, found', options, place, earlier | ⟨other, rfl, taken⟩⟩ :=
      (changes i).outstanding found outstanding
    · obtain ⟨active, unqueued, keys⟩ := flight.accounted before i x found' earlier
      obtain ⟨active', unqueued', keys'⟩ := account i x found' earlier.terminal active unqueued
      exact ⟨active', unqueued', fun key keyed => keys' key (keys key (options ▸ keyed))⟩
    · -- the execution is one of those this dispatch starts
      obtain rfl := coupled.starts_lane found' place taken
      have inv := (coupled.laneInv other).lane
      have run := inv.dispatches
      obtain ⟨entry, queued⟩ := run.queued i taken
      obtain ⟨z, here, same⟩ := flight.filed i entry queued
      obtain rfl : x = z := Option.some.inj (found'.symm.trans here)
      have lanes : (t.lanes other).lane =
          ((s.lanes other).lane.takeStartable (config.lanes other)).state := by
        cases step
        exact congrArg LaneRun.lane setLane_self
      rw [lanes]
      refine ⟨?_, ?_, ?_⟩
      · rw [run.active]
        exact inv.entries_active i (AssocMap.mem_of_lookup queued)
      · refine AssocMap.notMem_of_lookup ?_
        rw [run.lookup_entries, if_pos taken]
      · intro key keyed
        refine (run.holds inv).2 (Or.inr ⟨taken, entry, queued, ?_⟩)
        rw [← same, options, keyed]
  have left : (t.lanes lane).lane.runtimeUnavailable = true →
      (s.lanes lane).lane.runtimeUnavailable = true ∨ action = .dispatcherStopped lane :=
    change.unavailable coupled
  refine ⟨filed, accounted, ?_, ?_⟩
  · intro unavailable i
    cases queued : (t.lanes lane).lane.entries.lookup i with
    | none => rfl
    | some entry =>
      rcases change.lookup_entries coupled queued with before | ⟨available, -⟩
      · rcases left unavailable with already | rfl
        · rw [flight.gone already i] at before
          cases before
        · cases step
          rw [dispatcherStopped_lane] at queued
          cases queued
      · rw [unavailable] at available
        cases available
  · cases available : (t.lanes lane).lane.runtimeUnavailable with
    | false => exact (accounted available).singleFlight coupled'
    | true =>
      -- nothing is dispatched any more
      refine flight.flight.mono fun i y found outstanding => ?_
      obtain ⟨x, found', options, place, earlier | ⟨other, rfl, taken⟩⟩ :=
        (changes i).outstanding found outstanding
      · exact ⟨x, found', earlier, options⟩
      · obtain rfl := coupled.starts_lane found' place taken
        obtain ⟨entry, queued⟩ := (coupled.laneInv other).lane.dispatches.queued i taken
        rcases left available with already | absurd
        · rw [flight.gone already i] at queued
          cases queued
        · cases absurd

theorem Flight.of_reaches {ok : Executor → ExecutorAction → Prop}
    (run : (executor config).Reaches ok (executor config).init s) : s.Flight config lane := by
  have both : s.Coupled config ∧ s.Flight config lane := by
    refine run.invariant (I := fun s => s.Coupled config ∧ s.Flight config lane)
      ⟨.init, .init⟩ ?_
    intro x y action inv _ step
    exact ⟨(inv.1.step step).1, inv.2.step inv.1 step⟩
  exact both.2

end Executor

/-- **Bounded concurrency and single flight.**  In every state of every run at most
`concurrency` executions of a lane are dispatched and not terminal, and no two of them carry
the same ordering key. -/
theorem single_flight {config : ExecutorConfig} {s : Executor}
    (reached : (executor config).Reachable s) (lane : LaneId) : s.SingleFlight config lane :=
  (Executor.Flight.of_reaches reached).flight

/-- Room for two running executions. -/
def twinLane : LaneConfig where
  capacity := 3
  concurrency := 2
  maxWaitingProducers := 1
  maxOrderingKeys := 2
  capacity_pos := Nat.succ_pos 2
  concurrency_pos := Nat.succ_pos 1
  concurrency_le := Nat.le_of_ble_eq_true rfl
  maxWaitingProducers_le := Nat.le_of_ble_eq_true rfl

def twinExecutor : ExecutorConfig where
  lanes _ := twinLane
  maxActiveExecutions := 4

def soleKey : OrderingKey := ⟨[0], Nat.zero_lt_of_lt (Nat.lt_succ_self 255)⟩

/-- Executions 1 and 2 are queued under one key, 3 under none; one dispatch takes 1 and 3. -/
def twinRun : List ExecutorAction :=
  [.submit 1 0 { orderingKey := some soleKey } none false, .advanceAdmission 1,
    .advanceAdmission 1, .advanceAdmission 1, .advanceAdmission 1, .advanceAdmission 1,
    .submit 2 0 { orderingKey := some soleKey } none false, .advanceAdmission 2,
    .advanceAdmission 2, .advanceAdmission 2, .advanceAdmission 2, .advanceAdmission 2,
    .submit 3 0 {} none false, .advanceAdmission 3, .dispatch 0]

theorem single_flight_keyed :
    ∃ s, (executor twinExecutor).exec (executor twinExecutor).init twinRun = some s ∧
      [1, 2, 3].map (fun i => (s.executions i).map Execution.dispatched) =
        [some true, some false, some true] ∧ s.SingleFlight twinExecutor 0 := by
  have ends : ((executor twinExecutor).exec (executor twinExecutor).init twinRun).map
      (fun s => [1, 2, 3].map fun i => (s.executions i).map Execution.dispatched) =
      some [some true, some false, some true] := by decide +kernel
  obtain ⟨s, run, taken⟩ := Option.map_eq_some_iff.1 ends
  exact ⟨s, run, taken, single_flight (System.Reaches.of_schedule _ run) 0⟩

end BusyBeaver
