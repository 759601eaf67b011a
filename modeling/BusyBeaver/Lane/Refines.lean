import BusyBeaver.Lib.KeyedQueue
import BusyBeaver.Lane.Order

/-!
# The lane is a bounded queue with priorities and keys

What the lane says about its executions is the `KeyedQueue` of its entries, in queue order,
and of the executions it counts as running.  Sequence numbers, reference counts, the set of
held keys and the running counter are gone from it; the dispatch counter is left as the turn
it stands for, so its wrap is not seen.

Each section is a list of moves of that queue (`LaneRun.moves`): `take_startable` is one start
for each execution it takes, in the order it takes them, and leaves the queue saturated.
-/

namespace BusyBeaver

open Transition KeyedQueue

/-- The limits a lane imposes; every eighth dispatch takes the oldest. -/
def LaneConfig.limits (config : LaneConfig) : KeyedQueue.Limits where
  capacity := config.capacity
  concurrency := config.concurrency
  period := 8

/-- The submission as a job. -/
def SpawnOptions.job (options : SpawnOptions) (id : ExecutionId) :
    Job ExecutionId Priority OrderingKey :=
  ⟨id, options.priority, options.orderingKey⟩

namespace LaneState

def jobs (entries : AssocMap ExecutionId QueueEntry) (queue : List ExecutionId) :
    List (Job ExecutionId Priority OrderingKey) :=
  queue.filterMap fun id => (entries.lookup id).map fun entry => entry.options.job id

/-- The queue that the lane stands for. -/
def keyedQueue (state : LaneState) : Queue ExecutionId Priority OrderingKey where
  isOpen := !state.closing
  waiting := jobs state.entries state.queue
  running := state.active.filter fun id => id ∉ state.entries
  held := state.runningOrderingKeys.lookup
  turn := state.dispatchCount % 8

variable {config : LaneConfig} {state after : LaneState} {id : ExecutionId} {entry : QueueEntry}

/-! ## The jobs that wait -/

theorem mem_jobs {entries : AssocMap ExecutionId QueueEntry} {queue : List ExecutionId}
    {job : Job ExecutionId Priority OrderingKey} :
    job ∈ jobs entries queue ↔
      ∃ id ∈ queue, ∃ entry, entries.lookup id = some entry ∧ entry.options.job id = job := by
  unfold jobs
  rw [List.mem_filterMap]
  simp only [Option.map_eq_some_iff]

/-- Jobs of a queue whose ids have the same entries. -/
theorem jobs_congr {entries others : AssocMap ExecutionId QueueEntry} {queue : List ExecutionId}
    (same : ∀ id ∈ queue, entries.lookup id = others.lookup id) :
    jobs entries queue = jobs others queue :=
  List.filterMap_congr fun id member => by rw [same id member]

/-- Taking an execution out of the queue and of the entries takes its job out. -/
theorem jobs_erase (entries : AssocMap ExecutionId QueueEntry) (queue : List ExecutionId)
    (id : ExecutionId) :
    jobs (entries.erase id) (queue.filter fun other => other != id) =
      (jobs entries queue).filter fun job => decide (job.id ≠ id) := by
  unfold jobs
  rw [List.filter_filterMap, List.filterMap_filter]
  refine List.filterMap_congr fun other _ => ?_
  by_cases same : other = id
  · subst same
    cases entries.lookup other <;> simp [SpawnOptions.job, Option.filter]
  · cases found : entries.lookup other <;> simp [same, found, SpawnOptions.job, Option.filter]

theorem Inv.length_jobs (inv : Inv config state) :
    (jobs state.entries state.queue).length = state.entries.size := by
  rw [← inv.queue.length]
  unfold jobs
  rw [List.length_filterMap_eq_countP, List.countP_eq_length]
  intro id member
  obtain ⟨entry, found⟩ := AssocMap.mem_iff_lookup.1 ((inv.queue.mem id).1 member)
  simp [found]

/-- The entry of an execution that is queued, as a waiting job. -/
theorem Inv.job_mem (inv : Inv config state) (queued : state.entries.lookup id = some entry) :
    entry.options.job id ∈ state.keyedQueue.waiting :=
  mem_jobs.2 ⟨id, (inv.queue.mem id).2 (AssocMap.mem_of_lookup queued), entry, queued, rfl⟩

/-- The counter is the number of executions that are active and not queued. -/
theorem Inv.card_running (inv : Inv config state) :
    state.keyedQueue.running.card = state.running := by
  have queued : state.active.filter (fun id => ¬ id ∉ state.entries) =
      state.entries.keys.toFinset := by
    ext id
    simp only [Finset.mem_filter, not_not, List.mem_toFinset, ← AList.mem_keys]
    exact ⟨And.right, fun member => ⟨inv.entries_active id member, member⟩⟩
  have size : state.entries.keys.toFinset.card = state.entries.size := by
    rw [List.toFinset_card_of_nodup state.entries.keys_nodup]
    simp [AssocMap.size, AList.keys, List.keys]
  have parts := Finset.card_filter_add_card_filter_not (s := state.active)
    fun id => id ∉ state.entries
  have total := inv.running
  rw [queued, size] at parts
  show (state.active.filter fun id => id ∉ state.entries).card = _
  omega

/-! ## The selection -/

/-- The lane's test is that no running execution holds the key. -/
theorem Inv.free_job (inv : Inv config state) (id : ExecutionId) (entry : QueueEntry) :
    state.keyedQueue.free (entry.options.job id) = !state.blocked entry := by
  rw [Bool.eq_iff_iff, Queue.free_iff, Bool.not_eq_true', blocked]
  constructor
  · intro free
    cases keyed : entry.options.orderingKey with
    | none => rfl
    | some key =>
      rw [Option.any_some, decide_eq_false_iff_not, inv.keys_active]
      rintro ⟨other, held⟩
      obtain ⟨active, started⟩ := inv.keys_running other (AssocMap.mem_of_lookup held)
      exact free key keyed other (Finset.mem_filter.2 ⟨active, started⟩) held
  · intro free key keyed other _ held
    have keyed : entry.options.orderingKey = some key := keyed
    rw [keyed, Option.any_some, decide_eq_false_iff_not, inv.keys_active] at free
    exact free ⟨other, held⟩

/-- A candidate as the job that it offers. -/
def candidateJob (state : LaneState) (candidate : ReadyCandidate) :
    Job ExecutionId Priority OrderingKey :=
  ⟨candidate.executionId, candidate.priority,
    (state.entries.lookup candidate.executionId).bind fun entry => entry.options.orderingKey⟩

/-- An entry of the queue as a candidate, unless its key is held. -/
def candidateAt (state : LaneState) (place : ExecutionId × Nat) : Option ReadyCandidate :=
  (state.entries.lookup place.1).bind fun entry =>
    if state.blocked entry then none
    else some ⟨place.2, place.1, entry.options.priority, entry.sequence⟩

theorem readyCandidates_eq (state : LaneState) :
    state.readyCandidates = state.queue.zipIdx.filterMap state.candidateAt := by
  refine congrArg (fun offer => state.queue.zipIdx.filterMap offer) (funext fun place => ?_)
  unfold candidateAt
  rcases place with ⟨id, index⟩
  simp only
  cases state.entries.lookup id <;> rfl

/-- The candidates are the free jobs, in the same order. -/
theorem Inv.map_readyCandidates (inv : Inv config state) :
    state.readyCandidates.map state.candidateJob =
      state.keyedQueue.waiting.filter state.keyedQueue.free := by
  have offered : ∀ (queue : List ExecutionId) (start : Nat),
      ((queue.zipIdx start).filterMap state.candidateAt).map state.candidateJob =
        (jobs state.entries queue).filter state.keyedQueue.free := by
    intro queue
    induction queue with
    | nil => exact fun _ => rfl
    | cons id rest ih =>
      intro start
      rw [List.zipIdx_cons]
      unfold jobs at ih ⊢
      cases found : state.entries.lookup id with
      | none =>
        rw [List.filterMap_cons_none (by simp [candidateAt, found]),
          List.filterMap_cons_none (by simp [found])]
        exact ih _
      | some entry =>
        rw [List.filterMap_cons_some (f := fun id => (state.entries.lookup id).map _)
          (by rw [found]; rfl)]
        cases blocked : state.blocked entry with
        | true =>
          rw [List.filterMap_cons_none (by simp [candidateAt, found, blocked]),
            List.filter_cons_of_neg (by simp [inv.free_job, blocked])]
          exact ih _
        | false =>
          rw [List.filterMap_cons_some
            (by simp only [candidateAt, found, Option.bind_some, blocked]; rfl),
            List.filter_cons_of_pos (by simp [inv.free_job, blocked]), List.map_cons, ih]
          simp [candidateJob, found, SpawnOptions.job]
  rw [readyCandidates_eq]
  exact offered state.queue 0

/-- The candidates are offered oldest first. -/
theorem Inv.readyCandidates_sorted (inv : Inv config state) :
    state.readyCandidates.Pairwise fun earlier later => earlier.sequence < later.sequence := by
  have sorted := inv.queue.sorted
  rw [← List.zipIdx_map_fst 0 state.queue, List.pairwise_map] at sorted
  refine List.pairwise_filterMap.2 (sorted.imp ?_)
  rintro ⟨a, i⟩ ⟨b, j⟩ ordered x fromA y fromB
  simp only at fromA fromB ordered
  split at fromA
  · cases fromA
  · rename_i entryA foundA
    split at fromB
    · cases fromB
    · rename_i entryB foundB
      split at fromA
      · cases fromA
      · split at fromB
        · cases fromB
        · obtain rfl := Option.some.inj fromA
          obtain rfl := Option.some.inj fromB
          exact ordered entryA entryB foundA foundB

/-- The lane selects the job that the queue starts next. -/
theorem Inv.next_keyedQueue (inv : Inv config state) :
    state.keyedQueue.next 8 =
      (selectReadyCandidate state.dispatchCount state.readyCandidates).map state.candidateJob := by
  have sorted := inv.readyCandidates_sorted
  have turn : state.keyedQueue.turn = state.dispatchCount % 8 := rfl
  rw [selectReadyCandidate_eq_choose]
  unfold Queue.next
  rw [← inv.map_readyCandidates, turn]
  by_cases oldest : state.dispatchCount % 8 = 7
  · rw [if_pos (by omega), List.head?_map, ← Select.choose_false]
    refine congrArg (Option.map _) (Select.choose_congr (sorted.imp fun less => ?_))
    simp [ReadyCandidate.replaces, oldest, less.not_gt]
  · rw [if_neg (by omega), Select.choose_map]
    refine congrArg (Option.map _) (Select.choose_congr (sorted.imp fun less => ?_))
    simp only [ReadyCandidate.replaces, beq_iff_eq, oldest, if_false, less.not_gt, decide_false,
      Bool.and_false, Bool.or_false]
    rfl

/-! ## The sections -/

theorem Inv.keyedQueue_insertPrepared (inv : Inv config state) {options : SpawnOptions}
    {ticket : Option Nat} (fresh : id ∉ state.active)
    (ok : state.insertPrepared config id options ticket = .ok after) :
    state.keyedQueue.step config.limits (.arrive (options.job id)) = some after.keyedQueue := by
  have inserted := Inserted.of_ok ok
  obtain ⟨-, opened, room⟩ := not_closing_of_admissionError inserted.admitted
  have unqueued : id ∉ state.entries := fun queued => fresh (inv.entries_active id queued)
  have notIn : id ∉ state.queue := fun member => unqueued ((inv.queue.mem id).1 member)
  have accepted : state.keyedQueue.isOpen = true ∧
      state.keyedQueue.waiting.length < config.limits.capacity ∧
      (options.job id).id ∉ state.keyedQueue.running ∧
      ∀ other ∈ state.keyedQueue.waiting, other.id ≠ (options.job id).id := by
    refine ⟨by simp [keyedQueue, opened], ?_, ?_, ?_⟩
    · show (jobs state.entries state.queue).length < config.capacity
      rw [inv.length_jobs]
      exact room
    · exact fun running => fresh (Finset.mem_filter.1 running).1
    · intro other member
      obtain ⟨queued, inQueue, entry, -, rfl⟩ := mem_jobs.1 member
      rintro rfl
      exact notIn inQueue
  rw [Queue.step, if_pos accepted, inserted.eq, Option.some.injEq]
  have waiting : jobs (state.entries.insert id ⟨options, state.nextSequence⟩)
      (state.queue ++ [id]) = jobs state.entries state.queue ++ [options.job id] := by
    have others : jobs (state.entries.insert id ⟨options, state.nextSequence⟩) state.queue =
        jobs state.entries state.queue := by
      refine jobs_congr fun other member => ?_
      rw [AssocMap.lookup_insert_eq, if_neg]
      rintro rfl
      exact notIn member
    rw [← others]
    simp [jobs, List.filterMap_append]
  have running : (Insert.insert id state.active).filter
      (fun other => other ∉ state.entries.insert id ⟨options, state.nextSequence⟩) =
        state.active.filter fun other => other ∉ state.entries := by
    ext other
    by_cases same : other = id
    · subst same
      simp [fresh]
    · simp [same]
  simp only [LaneState.keyedQueue, waiting, running]

theorem Inv.keyedQueue_removeQueued (inv : Inv config state) (queued : id ∈ state.entries) :
    state.keyedQueue.step config.limits (.withdraw id) =
      some (state.removeQueued id).1.keyedQueue := by
  obtain ⟨entry, found⟩ := AssocMap.mem_iff_lookup.1 queued
  obtain ⟨refcounts, removed, -, -⟩ := inv.removeQueued_spec found
  have waits : ∃ job ∈ state.keyedQueue.waiting, job.id = id :=
    ⟨entry.options.job id, inv.job_mem found, rfl⟩
  rw [Queue.step, if_pos waits, removed, Option.some.injEq]
  have running : (state.active.erase id).filter (fun other => other ∉ state.entries.erase id) =
      state.active.filter fun other => other ∉ state.entries := by
    ext other
    by_cases same : other = id
    · subst same
      simp [queued]
    · simp [same]
  simp only [LaneState.keyedQueue, jobs_erase, running]

/-- The state after a start stands for the queue after it. -/
theorem Inv.keyedQueue_started (inv : Inv config state)
    (bound : state.dispatchCount ≤ Checked.u64Max)
    (queued : state.entries.lookup id = some entry) :
    (state.started id entry).keyedQueue = state.keyedQueue.started 8 (entry.options.job id) := by
  have active := inv.entries_active id (AssocMap.mem_of_lookup queued)
  have running : state.active.filter (fun other => other ∉ state.entries.erase id) =
      Insert.insert id (state.active.filter fun other => other ∉ state.entries) := by
    ext other
    by_cases same : other = id
    · subst same
      simp [active]
    · simp [same]
  have unheld : id ∉ state.runningOrderingKeys :=
    fun held => (inv.keys_running id held).2 (AssocMap.mem_of_lookup queued)
  have held : (state.started id entry).runningOrderingKeys.lookup =
      Function.update state.runningOrderingKeys.lookup id entry.options.orderingKey := by
    funext other
    show (state.holdKey id entry.options.orderingKey).runningOrderingKeys.lookup other = _
    refine Option.ext fun key => ?_
    rw [lookup_holdKey_runningOrderingKeys unheld]
    by_cases same : other = id
    · subst same
      simp [AList.lookup_eq_none.2 unheld]
    · simp [same]
  have turn : (nextDispatchCount state.dispatchCount).1 % 8 =
      (state.dispatchCount % 8 + 1) % 8 := by
    rw [(nextDispatchCount_phase bound).2]
    omega
  unfold LaneState.keyedQueue Queue.started
  rw [held]
  simp only [LaneState.started, holdKey_closing, holdKey_active, jobs_erase, SpawnOptions.job,
    turn, running]
  rfl

/-- One iteration of the loop of `take_startable`. -/
theorem Inv.keyedQueue_dispatched (inv : Inv config state)
    (bound : state.dispatchCount ≤ Checked.u64Max)
    (one : Dispatched config state id entry after) :
    state.keyedQueue.step config.limits (.start id) = some after.keyedQueue := by
  obtain ⟨candidate, rfl, selected⟩ := one.selected
  have room : state.keyedQueue.running.card < config.limits.concurrency := by
    rw [inv.card_running]
    exact one.room
  obtain ⟨own, found, priority, -⟩ :=
    fields_of_mem_readyCandidates (mem_of_selectReadyCandidate selected)
  obtain rfl : entry = own := Option.some.inj (one.queued.symm.trans found)
  have due : state.keyedQueue.next config.limits.period =
      some (entry.options.job candidate.executionId) := by
    show state.keyedQueue.next 8 = _
    rw [inv.next_keyedQueue, selected, Option.map_some, candidateJob, found, priority]
    rfl
  rw [one.eq, inv.keyedQueue_started bound one.queued]
  exact Queue.step_start room due

theorem Inv.keyedQueue_executionFinished (inv : Inv config state) (active : id ∈ state.active)
    (unqueued : id ∉ state.entries) :
    state.keyedQueue.step config.limits (.finish id) =
      some (state.executionFinished id).1.keyedQueue := by
  have retired := (inv.executionFinished_spec active unqueued).1
  have runs : id ∈ state.keyedQueue.running := Finset.mem_filter.2 ⟨active, unqueued⟩
  have held : (state.runningOrderingKeys.erase id).lookup =
      Function.update state.runningOrderingKeys.lookup id none := by
    funext other
    by_cases same : other = id
    · subst same
      simp
    · simp [same]
  have running : (state.active.erase id).filter (fun other => other ∉ state.entries) =
      (state.active.filter fun other => other ∉ state.entries).erase id :=
    Finset.filter_erase ..
  rw [Queue.step, if_pos runs, retired.eq, Option.some.injEq]
  simp only [LaneState.keyedQueue, held, running]

/-- An iteration that starts nothing finds nothing to start. -/
theorem Inv.queue_saturated (inv : Inv config state) (idle : dispatchOne config state = .idle) :
    Queue.Saturated config.limits state.keyedQueue := by
  intro room
  rw [inv.card_running] at room
  have room : state.running < config.concurrency := room
  rw [← @Queue.next_eq_none _ _ _ _ _ _ _ 8, inv.next_keyedQueue, Option.map_eq_none_iff]
  cases selected : selectReadyCandidate state.dispatchCount state.readyCandidates with
  | none => rfl
  | some candidate =>
    obtain ⟨at_index, entry, found, -⟩ := mem_readyCandidates (mem_of_selectReadyCandidate selected)
    have fits : Checked.add Checked.usizeMax state.running 1 = some (state.running + 1) :=
      Checked.add_eq_some.2 ⟨Nat.le_trans room config.concurrency_le, rfl⟩
    simp [dispatchOne, room, selected, fits, at_index, found] at idle

/-- The starts of a call of `take_startable`, one after the other. -/
theorem Inv.exec_starts (inv : Inv config state) (bound : state.dispatchCount ≤ Checked.u64Max)
    {ids : List ExecutionId} (run : Dispatches config state ids after) :
    (KeyedQueue.keyedQueue ExecutionId Priority OrderingKey config.limits).exec state.keyedQueue
        (Action.starts ids) = some after.keyedQueue ∧
      after.dispatchCount ≤ Checked.u64Max := by
  induction run with
  | refl => exact ⟨rfl, bound⟩
  | @tail ids between last id entry before one ih =>
    have started := (before.inv inv).keyedQueue_dispatched ih.2 one
    refine ⟨?_, ?_⟩
    · rw [Action.starts, List.map_append]
      exact System.exec_snoc ih.1 started
    · rw [one.eq]
      exact (nextDispatchCount_phase ih.2).1

end LaneState

namespace LaneRun

variable {config : LaneConfig} {run after : LaneRun} {action : LaneAction}

/-- What a section does to the queue that the lane stands for. -/
def moves (config : LaneConfig) (run : LaneRun) :
    LaneAction → List (Action ExecutionId Priority OrderingKey)
  | .insertPrepared id options ticket =>
    match run.lane.insertPrepared config id options ticket with
    | .ok _ => [.arrive (options.job id)]
    | .error _ => []
  | .removeQueued id => if id ∈ run.lane.entries then [.withdraw id] else []
  | .takeStartable => Action.starts (run.lane.takeStartable config).starts
  | .executionFinished id => if id ∈ run.lane.active then [.finish id] else []
  | .requestClose => [.close]
  | .dispatcherStopped => [.clear]
  | .newWaitingProducer | .finishWaitingProducer _ | .stats => []

/-- The moves of a whole run. -/
def trace (config : LaneConfig) : LaneRun → List LaneAction →
    List (Action ExecutionId Priority OrderingKey)
  | _, [] => []
  | run, action :: rest =>
    run.moves config action ++
      match run.step config action with
      | none => []
      | some after => trace config after rest

theorem trace_snoc {actions : List LaneAction}
    (ran : (laneSystem config).exec run actions = some after) :
    trace config run (actions ++ [action]) =
      trace config run actions ++ after.moves config action := by
  induction actions generalizing run with
  | nil =>
    obtain rfl := Option.some.inj ran
    simp only [List.nil_append, trace]
    cases run.step config action <;> simp
  | cons first rest ih =>
    simp only [System.exec] at ran
    simp only [List.cons_append, trace]
    cases step : (laneSystem config).step run first with
    | none => simp [step] at ran
    | some between =>
      simp only [step] at ran
      have step : run.step config first = some between := step
      simp only [step, ih ran, List.append_assoc]

/-- **Step lemma.**  A section is matched by its moves. -/
theorem Inv.exec_moves (inv : Inv config run) (bound : run.lane.dispatchCount ≤ Checked.u64Max)
    (step : run.step config action = some after) :
    (KeyedQueue.keyedQueue ExecutionId Priority OrderingKey config.limits).exec
      run.lane.keyedQueue (run.moves config action) = some after.lane.keyedQueue := by
  have single : ∀ {move : Action ExecutionId Priority OrderingKey}
      {queue : Queue ExecutionId Priority OrderingKey},
      run.lane.keyedQueue.step config.limits move = some queue →
        (KeyedQueue.keyedQueue ExecutionId Priority OrderingKey config.limits).exec
          run.lane.keyedQueue [move] = some queue :=
    fun moved => @System.exec_snoc _ _ _ _ _ _ [] _ rfl moved
  cases action with
  | insertPrepared id options ticket =>
    obtain ⟨unissued, eq⟩ := Option.ite_none_left_eq_some.1 step
    have fresh : id ∉ run.lane.active := fun active => unissued (inv.issued id active)
    simp only [moves]
    cases inserted : run.lane.insertPrepared config id options ticket with
    | error error =>
      rw [inserted] at eq
      obtain rfl := Option.some.inj eq
      rfl
    | ok lane =>
      rw [inserted] at eq
      obtain rfl := Option.some.inj eq
      exact single (inv.lane.keyedQueue_insertPrepared fresh inserted)
  | removeQueued id =>
    obtain rfl := Option.some.inj step
    simp only [moves]
    split
    · rename_i queued
      exact single (inv.lane.keyedQueue_removeQueued queued)
    · rename_i absent
      rw [LaneRun.removeQueued, LaneState.removeQueued_of_notMem absent]
      rfl
  | takeStartable =>
    obtain rfl := Option.some.inj step
    exact (inv.lane.exec_starts bound inv.lane.dispatches).1
  | executionFinished id =>
    obtain ⟨monitored, eq⟩ := Option.ite_none_right_eq_some.1 step
    obtain rfl := Option.some.inj eq
    have unqueued := (inv.monitored id monitored).2
    simp only [moves]
    split
    · rename_i active
      exact single (inv.lane.keyedQueue_executionFinished active unqueued)
    · rename_i inactive
      have unheld : id ∉ run.lane.runningOrderingKeys :=
        fun held => inactive (inv.lane.keys_running id held).1
      rw [LaneState.executionFinished_of_notMem inactive unheld]
      rfl
  | requestClose =>
    obtain rfl := Option.some.inj step
    rfl
  | dispatcherStopped =>
    obtain rfl := Option.some.inj step
    rfl
  | newWaitingProducer =>
    simp only [LaneRun.step] at step
    rcases LaneState.newWaitingProducer_cases config run.lane with ⟨_, _, eq, _⟩ | ⟨_, eq⟩
    · rw [eq] at step
      obtain rfl := Option.some.inj step
      rfl
    · rw [eq] at step
      obtain rfl := Option.some.inj step
      rfl
  | finishWaitingProducer ticket =>
    obtain ⟨-, eq⟩ := Option.ite_none_right_eq_some.1 step
    obtain rfl := Option.some.inj eq
    rfl
  | stats =>
    obtain rfl := Option.some.inj step
    rfl

theorem exec_trace (reached : (laneSystem config).Reachable run) {actions : List LaneAction}
    (ran : (laneSystem config).exec run actions = some after) :
    (KeyedQueue.keyedQueue ExecutionId Priority OrderingKey config.limits).exec
      run.lane.keyedQueue (trace config run actions) = some after.lane.keyedQueue := by
  induction actions generalizing run with
  | nil =>
    obtain rfl := Option.some.inj ran
    rfl
  | cons action rest ih =>
    simp only [System.exec] at ran
    cases step : (laneSystem config).step run action with
    | none => simp [step] at ran
    | some between =>
      simp only [step] at ran
      have step : run.step config action = some between := step
      have first := (Inv.of_reachable reached).exec_moves
        (dispatchCount_le (reaches_dispatches reached)) step
      unfold trace
      rw [System.exec_append, first, step]
      exact ih (reached.tail trivial step) ran

end LaneRun

/-- **The lane refines the queue.**  Every run of the sections is the run of the queue that
its trace spells out, a trace with one start for each execution the lane starts; and when
`take_startable` returns, nothing more could be started. -/
theorem lane_refines_keyed_queue {config : LaneConfig} {actions : List LaneAction}
    {run : LaneRun} (ran : (laneSystem config).exec (laneSystem config).init actions = some run) :
    (keyedQueue ExecutionId Priority OrderingKey config.limits).exec .empty
        (LaneRun.trace config (laneSystem config).init actions) = some run.lane.keyedQueue ∧
      ∀ after, run.step config .takeStartable = some after →
        Queue.Saturated config.limits after.lane.keyedQueue := by
  have reached := System.Reaches.of_schedule actions ran
  have inv := LaneRun.Inv.of_reachable reached
  refine ⟨LaneRun.exec_trace .refl ran, fun after step => ?_⟩
  obtain rfl := Option.some.inj step
  exact (LaneState.Inv.takeStartable inv.lane).inv.queue_saturated inv.lane.takeStartable_idle

/-- Of two submissions under one key the second waits, and the lane has nothing to start. -/
theorem lane_refines_keyed_queue_keyed :
    ∃ run, (laneSystem narrowLane).exec (laneSystem narrowLane).init (keyedRun.take 3) = some run ∧
      LaneRun.trace narrowLane (laneSystem narrowLane).init (keyedRun.take 3) =
        [.arrive (SpawnOptions.job { orderingKey := some ⟨[1], by decide⟩ } 0),
          .arrive (SpawnOptions.job { orderingKey := some ⟨[1], by decide⟩ } 1), .start 0] ∧
      run.lane.keyedQueue.waiting =
        [SpawnOptions.job { orderingKey := some ⟨[1], by decide⟩ } 1] ∧
      (keyedQueue ExecutionId Priority OrderingKey narrowLane.limits).exec .empty
        (LaneRun.trace narrowLane (laneSystem narrowLane).init (keyedRun.take 3)) =
          some run.lane.keyedQueue := by
  have ran : ∃ run, (laneSystem narrowLane).exec (laneSystem narrowLane).init (keyedRun.take 3) =
      some run ∧ run.lane.keyedQueue.waiting =
        [SpawnOptions.job { orderingKey := some ⟨[1], by decide⟩ } 1] := ⟨_, rfl, rfl⟩
  obtain ⟨run, eq, waiting⟩ := ran
  exact ⟨run, eq, rfl, waiting, (lane_refines_keyed_queue eq).1⟩

end BusyBeaver
