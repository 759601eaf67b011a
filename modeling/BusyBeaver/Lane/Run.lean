import BusyBeaver.Lib.Transition
import BusyBeaver.Lane.Invariant

/-!
# Runs of the lane

Any sequence of the lane's critical sections.  What restricts the order is what
restricts it in the source: an execution id is issued once, a monitor runs
`execution_finished` once for an execution the dispatcher took, and a waiting
producer finishes once.
-/

namespace BusyBeaver

open Transition

/-- A lane with the parties that may still act on it. -/
structure LaneRun : Type where
  lane : LaneState
  /-- Ids `ExecutionId::new` has issued. -/
  issued : Finset ExecutionId
  /-- Executions whose monitor has not run `execution_finished`. -/
  monitors : Finset ExecutionId
  /-- Tickets of the live `WaitingProducer`s. -/
  producers : Finset Nat
  logged : List LaneCode
  deriving DecidableEq

inductive LaneAction : Type
  | insertPrepared (executionId : ExecutionId) (options : SpawnOptions)
      (waiterTicket : Option Nat)
  | removeQueued (executionId : ExecutionId)
  | takeStartable
  | executionFinished (executionId : ExecutionId)
  | requestClose
  | dispatcherStopped
  | newWaitingProducer
  | finishWaitingProducer (ticket : Nat)
  | stats

namespace LaneRun

def removeQueued (run : LaneRun) (id : ExecutionId) : LaneRun :=
  let removed := run.lane.removeQueued id
  { run with lane := removed.1, logged := run.logged ++ removed.2.2 }

def takeStartable (config : LaneConfig) (run : LaneRun) : LaneRun :=
  let taken := run.lane.takeStartable config
  { run with
    lane := taken.state
    monitors := run.monitors ∪ taken.starts.toFinset
    logged := run.logged ++ taken.logged }

def step (config : LaneConfig) (run : LaneRun) : LaneAction → Option LaneRun
  | .insertPrepared id options ticket =>
    if id ∈ run.issued then none
    else
      match run.lane.insertPrepared config id options ticket with
      | .error _ => some { run with issued := insert id run.issued }
      | .ok lane => some { run with issued := insert id run.issued, lane := lane }
  | .removeQueued id => some (run.removeQueued id)
  | .takeStartable => some (run.takeStartable config)
  | .executionFinished id =>
    if id ∈ run.monitors then
      let finished := run.lane.executionFinished id
      some
        { run with
          lane := finished.1
          monitors := run.monitors.erase id
          logged := run.logged ++ finished.2 }
    else none
  | .requestClose => some { run with lane := run.lane.requestClose }
  | .dispatcherStopped => some { run with lane := run.lane.dispatcherStopped }
  | .newWaitingProducer =>
    match run.lane.newWaitingProducer config with
    | (lane, .error _) => some { run with lane := lane }
    | (lane, .ok ticket) => some { run with lane := lane, producers := insert ticket run.producers }
  | .finishWaitingProducer ticket =>
    if ticket ∈ run.producers then
      let finished := run.lane.finishWaitingProducer config ticket
      some
        { run with
          lane := finished.1
          producers := run.producers.erase ticket
          logged := run.logged ++ finished.2.logged }
    else none
  | .stats => some { run with logged := run.logged ++ (run.lane.availableQueueCapacity config).2 }

end LaneRun

/-- The lane created with `config`. -/
def laneSystem (config : LaneConfig) : System LaneRun LaneAction where
  init := ⟨.new, ∅, ∅, ∅, []⟩
  step := LaneRun.step config

namespace LaneRun

variable {config : LaneConfig} {run after : LaneRun} {action : LaneAction}

structure Inv (config : LaneConfig) (run : LaneRun) : Prop where
  lane : run.lane.Inv config
  issued : ∀ id ∈ run.lane.active, id ∈ run.issued
  monitored : ∀ id ∈ run.monitors, id ∈ run.issued ∧ id ∉ run.lane.entries
  covered : ∀ id ∈ run.lane.active, id ∈ run.lane.entries ∨ id ∈ run.monitors
  producers : run.producers = run.lane.waitingQueue
  logged : ∀ code ∈ run.logged, code = .dispatchCountOverflow

theorem Inv.init : Inv config (laneSystem config).init where
  lane := .new config
  issued := fun _ absurd => by cases absurd
  monitored := fun _ absurd => by cases absurd
  covered := fun _ absurd => by cases absurd
  producers := rfl
  logged := fun _ absurd => by cases absurd

theorem Inv.queued_issued (inv : Inv config run) {id : ExecutionId}
    (queued : id ∈ run.lane.entries) : id ∈ run.issued :=
  inv.issued id (inv.lane.entries_active id queued)

theorem Inv.insertPrepared (inv : Inv config run) {id : ExecutionId} {options : SpawnOptions}
    {ticket : Option Nat} {lane : LaneState} (fresh : id ∉ run.issued)
    (ok : run.lane.insertPrepared config id options ticket = .ok lane) :
    Inv config { run with issued := insert id run.issued, lane := lane } := by
  have inserted := LaneState.Inserted.of_ok ok
  have kept := inv.lane.insert (fun active => fresh (inv.issued id active)) inserted
  have fields := inserted.eq
  constructor
  case lane => exact kept
  case issued =>
    intro a active
    rw [fields] at active
    rcases Finset.mem_insert.1 active with new | earlier
    · exact new ▸ Finset.mem_insert_self _ _
    · exact Finset.mem_insert_of_mem (inv.issued a earlier)
  case monitored =>
    intro a monitor
    obtain ⟨issued, unqueued⟩ := inv.monitored a monitor
    refine ⟨Finset.mem_insert_of_mem issued, ?_⟩
    rw [fields, AList.mem_insert, not_or]
    exact ⟨fun same => fresh (same ▸ issued), unqueued⟩
  case covered =>
    intro a active
    rw [fields] at active ⊢
    rw [AList.mem_insert]
    rcases Finset.mem_insert.1 active with new | earlier
    · exact .inl (.inl new)
    · exact (inv.covered a earlier).imp .inr fun monitor => monitor
  case producers =>
    rw [fields]
    exact inv.producers
  case logged => exact inv.logged

/-- A section that takes executions out of the lane and logs nothing new. -/
theorem Inv.of_shrink (inv : Inv config run) {lane : LaneState} {monitors : Finset ExecutionId}
    {codes : List LaneCode} (kept : lane.Inv config)
    (active : ∀ id ∈ lane.active, id ∈ run.lane.active)
    (entries : ∀ id ∈ lane.entries, id ∈ run.lane.entries)
    (waiting : lane.waitingQueue = run.lane.waitingQueue)
    (monitored : ∀ id ∈ monitors, id ∈ run.monitors ∨ id ∈ run.issued ∧ id ∉ lane.entries)
    (covered : ∀ id ∈ lane.active, id ∈ lane.entries ∨ id ∈ monitors)
    (silent : ∀ code ∈ codes, code = .dispatchCountOverflow) :
    Inv config { run with lane := lane, monitors := monitors, logged := run.logged ++ codes } where
  lane := kept
  issued id member := inv.issued id (active id member)
  monitored id member := by
    rcases monitored id member with earlier | new
    · obtain ⟨issued, unqueued⟩ := inv.monitored id earlier
      exact ⟨issued, fun queued => unqueued (entries id queued)⟩
    · exact new
  covered := covered
  producers := inv.producers.trans waiting.symm
  logged code member := (List.mem_append.1 member).elim (inv.logged code) (silent code)

theorem removeQueued_fields (state : LaneState) (id : ExecutionId) :
    (∀ a ∈ (state.removeQueued id).1.active, a ∈ state.active ∧ (id ∈ state.entries → a ≠ id)) ∧
      (∀ a, a ∈ (state.removeQueued id).1.entries ↔ a ∈ state.entries ∧ a ≠ id) ∧
      (state.removeQueued id).1.waitingQueue = state.waitingQueue := by
  unfold LaneState.removeQueued
  split
  · next absent =>
    have unqueued := AssocMap.notMem_of_lookup absent
    refine ⟨fun _ member => ⟨member, fun queued => (unqueued queued).elim⟩, fun a => ?_, rfl⟩
    exact ⟨fun queued => ⟨queued, fun same => unqueued (same ▸ queued)⟩, fun queued => queued.1⟩
  · exact ⟨fun a member => ⟨Finset.mem_of_mem_erase member, fun _ => Finset.ne_of_mem_erase member⟩,
      fun a => AList.mem_erase.trans and_comm, rfl⟩

theorem executionFinished_fields (state : LaneState) (id : ExecutionId) :
    (state.executionFinished id).1.active = state.active.erase id ∧
      (state.executionFinished id).1.entries = state.entries ∧
      (state.executionFinished id).1.waitingQueue = state.waitingQueue ∧
      (state.executionFinished id).1.closing = state.closing := by
  unfold LaneState.executionFinished
  by_cases active : id ∈ state.active
  · simp only [active, ↓reduceIte]
    split <;> split <;> exact ⟨rfl, rfl, rfl, rfl⟩
  · simp only [active, ↓reduceIte, Finset.erase_eq_of_notMem active]
    split <;> exact ⟨rfl, rfl, rfl, rfl⟩

/-- A section that moves no execution in or out of the queue and issues no id. -/
structure Frame (run after : LaneRun) : Prop where
  entries : ∀ id, id ∈ after.lane.entries ↔ id ∈ run.lane.entries
  issued : after.issued = run.issued
  monitors : ∀ id ∈ after.monitors, id ∈ run.monitors

theorem Frame.executionFinished {id : ExecutionId}
    (step : run.step config (.executionFinished id) = some after) : Frame run after := by
  simp only [LaneRun.step] at step
  split at step
  · cases step
    have entries := (executionFinished_fields run.lane id).2.1
    exact ⟨fun a => by rw [entries], rfl, fun a member => Finset.mem_of_mem_erase member⟩
  · cases step

theorem Frame.requestClose (step : run.step config .requestClose = some after) :
    Frame run after := by
  cases step
  exact ⟨fun _ => Iff.rfl, rfl, fun _ member => member⟩

theorem Frame.newWaitingProducer (step : run.step config .newWaitingProducer = some after) :
    Frame run after := by
  simp only [LaneRun.step] at step
  rcases LaneState.newWaitingProducer_cases config run.lane with ⟨_, _, eq, _⟩ | ⟨_, eq⟩
  · rw [eq] at step
    cases step
    exact ⟨fun _ => Iff.rfl, rfl, fun _ member => member⟩
  · rw [eq] at step
    cases step
    exact ⟨fun _ => Iff.rfl, rfl, fun _ member => member⟩

theorem Frame.finishWaitingProducer {ticket : Nat}
    (step : run.step config (.finishWaitingProducer ticket) = some after) : Frame run after := by
  simp only [LaneRun.step] at step
  split at step
  · cases step
    exact ⟨fun _ => Iff.rfl, rfl, fun _ member => member⟩
  · cases step

/-- One section of the lane keeps the accounting. -/
theorem Inv.step (inv : Inv config run) (step : (laneSystem config).step run action = some after) :
    Inv config after := by
  simp only [laneSystem] at step
  cases action with
  | insertPrepared id options ticket =>
    simp only [LaneRun.step] at step
    split at step
    · cases step
    · next fresh =>
      split at step
      · cases step
        exact { inv with
          issued := fun a active => Finset.mem_insert_of_mem (inv.issued a active)
          monitored := fun a monitor =>
            ⟨Finset.mem_insert_of_mem (inv.monitored a monitor).1, (inv.monitored a monitor).2⟩ }
      · next lane ok =>
        cases step
        exact inv.insertPrepared fresh ok
  | removeQueued id =>
    simp only [LaneRun.step, Option.some.injEq] at step
    subst step
    obtain ⟨active, entries, waiting⟩ := removeQueued_fields run.lane id
    obtain ⟨kept, silent⟩ := inv.lane.removeQueued id
    refine inv.of_shrink kept (fun a member => (active a member).1)
      (fun a queued => ((entries a).1 queued).1) waiting (fun _ monitor => .inl monitor) ?_
      (by simp [silent])
    intro a member
    obtain ⟨earlier, other⟩ := active a member
    rcases inv.covered a earlier with queued | monitor
    · exact .inl ((entries a).2 ⟨queued, fun same => other (same ▸ queued) same⟩)
    · exact .inr monitor
  | takeStartable =>
    simp only [LaneRun.step, Option.some.injEq] at step
    subst step
    have loop := inv.lane.takeStartable
    refine inv.of_shrink loop.inv (fun a member => loop.active ▸ member)
      (fun a queued => ((loop.entries a).1 queued).1) loop.waitingQueue ?_ ?_ loop.logged
    · intro a monitor
      rcases Finset.mem_union.1 monitor with earlier | new
      · exact .inl earlier
      · rw [List.mem_toFinset] at new
        exact .inr ⟨inv.queued_issued (loop.started a new),
          fun queued => ((loop.entries a).1 queued).2 new⟩
    · intro a member
      rw [loop.active] at member
      rcases inv.covered a member with queued | monitor
      · by_cases taken : a ∈ (run.lane.takeStartable config).starts
        · exact .inr (Finset.mem_union_right _ (List.mem_toFinset.2 taken))
        · exact .inl ((loop.entries a).2 ⟨queued, taken⟩)
      · exact .inr (Finset.mem_union_left _ monitor)
  | executionFinished id =>
    simp only [LaneRun.step] at step
    split at step
    case isFalse => cases step
    next monitor =>
      cases step
      obtain ⟨active, entries, waiting, _⟩ := executionFinished_fields run.lane id
      obtain ⟨kept, silent⟩ := inv.lane.executionFinished (inv.monitored id monitor).2
      refine inv.of_shrink kept (fun a member => Finset.mem_of_mem_erase (active ▸ member))
        (fun a queued => entries ▸ queued) waiting
        (fun a member => .inl (Finset.mem_of_mem_erase member)) ?_ (by simp [silent])
      intro a member
      rw [active] at member
      rw [entries]
      exact (inv.covered a (Finset.mem_of_mem_erase member)).imp (fun queued => queued)
        (Finset.mem_erase_of_ne_of_mem (Finset.ne_of_mem_erase member))
  | requestClose =>
    simp only [LaneRun.step, Option.some.injEq] at step
    subst step
    exact { inv with lane := inv.lane.requestClose }
  | dispatcherStopped =>
    simp only [LaneRun.step, Option.some.injEq] at step
    subst step
    constructor
    case lane => exact inv.lane.dispatcherStopped
    case issued => exact fun _ absurd => by cases absurd
    case monitored => exact fun a monitor =>
      ⟨(inv.monitored a monitor).1, fun absurd => by cases absurd⟩
    case covered => exact fun _ absurd => by cases absurd
    case producers => exact inv.producers
    case logged => exact inv.logged
  | newWaitingProducer =>
    simp only [LaneRun.step] at step
    have kept := inv.lane.newWaitingProducer
    rcases LaneState.newWaitingProducer_cases config run.lane with ⟨_, _, eq, _⟩ | ⟨_, eq⟩
    · rw [eq] at step kept
      simp only [Option.some.injEq] at step
      subst step
      exact { inv with lane := kept }
    · rw [eq] at step kept
      simp only [Option.some.injEq] at step
      subst step
      exact { inv with
        lane := kept
        producers := congrArg (insert run.lane.nextWaiterSequence) inv.producers }
  | finishWaitingProducer ticket =>
    simp only [LaneRun.step] at step
    split at step
    case isFalse => cases step
    next live =>
      cases step
      rw [inv.producers] at live
      obtain ⟨kept, silent, waiting⟩ := inv.lane.finishWaitingProducer live
      have eq : (run.lane.finishWaitingProducer config ticket).1.active = run.lane.active ∧
          (run.lane.finishWaitingProducer config ticket).1.entries = run.lane.entries :=
        ⟨rfl, rfl⟩
      constructor
      case lane => exact kept
      case issued => exact eq.1 ▸ inv.issued
      case monitored => exact eq.2 ▸ inv.monitored
      case covered => exact inv.covered
      case producers => rw [waiting, inv.producers]
      case logged =>
        rw [silent, List.append_nil]
        exact inv.logged
  | stats =>
    simp only [LaneRun.step, Option.some.injEq, inv.lane.availableQueueCapacity,
      List.append_nil] at step
    subst step
    exact inv

theorem Inv.of_reachable (reach : (laneSystem config).Reachable run) : Inv config run :=
  reach.invariant .init fun inv _ step => inv.step step

end LaneRun

/-- One slot, one queue place, one key. -/
def narrowLane : LaneConfig where
  capacity := 2
  concurrency := 1
  maxWaitingProducers := 1
  maxOrderingKeys := 1

/-- Two submissions under one key: one is dispatched and finishes, the other is
rolled back. -/
def keyedRun : List LaneAction :=
  let keyed : SpawnOptions := { orderingKey := some ⟨[1], by decide⟩ }
  [.insertPrepared 0 keyed none, .insertPrepared 1 keyed none, .takeStartable, .removeQueued 1,
    .newWaitingProducer, .executionFinished 0, .finishWaitingProducer 0, .stats]

end BusyBeaver
