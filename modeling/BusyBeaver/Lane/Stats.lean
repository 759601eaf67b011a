import BusyBeaver.Lane.Refines
import Mathlib.Algebra.BigOperators.Fin

/-!
# The statistics of a lane

`stats` walks over the entries once, in the order of the map, and counts each as blocked or
as ready under its priority.  Its counters and the capacity subtraction are checked, with a
code for each failure.  None of them fails, and what it reports is what the `KeyedQueue` of
the lane says (`stats_exact`).
-/

namespace BusyBeaver

open Transition KeyedQueue Checked

structure LaneStats : Type where
  queuedLive : Nat
  running : Nat
  availableQueueCapacity : Nat
  waitingProducers : Nat
  blockedByOrderingKey : Nat
  readyByPriority : Priority → Nat

/-- The codes that `stats` can log; a priority is in range by its type. -/
inductive StatsCode : Type
  | blockedStatsOverflow
  | readyStatsOverflow
  | lane (code : LaneCode)
  deriving DecidableEq, Repr

/-- The counters of the loop over the entries. -/
structure StatsCounters : Type where
  blocked : Nat
  ready : Priority → Nat
  logged : List StatsCode

namespace LaneState

/-- One iteration of the loop. -/
def countEntry (state : LaneState) (counters : StatsCounters) (entry : QueueEntry) :
    StatsCounters :=
  if state.blocked entry then
    match add usizeMax counters.blocked 1 with
    | some next => { counters with blocked := next }
    | none => { counters with logged := counters.logged ++ [.blockedStatsOverflow] }
  else
    match add usizeMax (counters.ready entry.options.priority) 1 with
    | some next =>
      { counters with ready := Function.update counters.ready entry.options.priority next }
    | none => { counters with logged := counters.logged ++ [.readyStatsOverflow] }

/-- `LaneShared::stats`, with the codes it logs. -/
def stats (config : LaneConfig) (state : LaneState) : LaneStats × List StatsCode :=
  let counters := (state.entries.entries.map Sigma.snd).foldl state.countEntry ⟨0, fun _ => 0, []⟩
  let available := state.availableQueueCapacity config
  ({ queuedLive := state.entries.size
     running := state.running
     availableQueueCapacity := available.1
     waitingProducers := state.waitingProducers
     blockedByOrderingKey := counters.blocked
     readyByPriority := counters.ready },
    counters.logged ++ available.2.map .lane)

/-- An entry that is ready under the priority. -/
def readyAt (state : LaneState) (priority : Priority) (entry : QueueEntry) : Bool :=
  !state.blocked entry && entry.options.priority == priority

variable {config : LaneConfig} {state : LaneState}

/-! ## The loop -/

/-- With room in the machine word, the loop counts and logs nothing. -/
theorem foldl_countEntry {entries : List QueueEntry} {counters : StatsCounters}
    (blocked : counters.blocked + entries.length ≤ usizeMax)
    (ready : ∀ priority, counters.ready priority + entries.length ≤ usizeMax) :
    entries.foldl state.countEntry counters =
      { blocked := counters.blocked + entries.countP state.blocked
        ready := fun priority => counters.ready priority + entries.countP (state.readyAt priority)
        logged := counters.logged } := by
  induction entries generalizing counters with
  | nil => rfl
  | cons entry rest ih =>
    rw [List.foldl_cons]
    simp only [List.length_cons] at blocked ready
    cases isBlocked : state.blocked entry with
    | true =>
      have fits : add usizeMax counters.blocked 1 = some (counters.blocked + 1) :=
        add_eq_some.2 ⟨by omega, rfl⟩
      have counted : state.countEntry counters entry =
          { counters with blocked := counters.blocked + 1 } := by
        simp [countEntry, isBlocked, fits]
      rw [counted, ih (by simp only; omega) fun priority => by
        have := ready priority
        simp only
        omega]
      simp only [StatsCounters.mk.injEq, List.countP_cons, isBlocked, if_true, readyAt,
        Bool.not_true, Bool.false_and, Bool.false_eq_true, if_false, Nat.add_zero, and_true]
      omega
    | false =>
      have fits : add usizeMax (counters.ready entry.options.priority) 1 =
          some (counters.ready entry.options.priority + 1) :=
        add_eq_some.2 ⟨by have := ready entry.options.priority; omega, rfl⟩
      have counted : state.countEntry counters entry =
          { counters with
            ready := Function.update counters.ready entry.options.priority
              (counters.ready entry.options.priority + 1) } := by
        simp [countEntry, isBlocked, fits]
      have room : ∀ priority, Function.update counters.ready entry.options.priority
          (counters.ready entry.options.priority + 1) priority + rest.length ≤ usizeMax := by
        intro priority
        have := ready priority
        by_cases same : priority = entry.options.priority
        · subst same
          rw [Function.update_self]
          omega
        · rw [Function.update_of_ne same]
          omega
      rw [counted, ih (by simp only; omega) room]
      simp only [StatsCounters.mk.injEq, List.countP_cons, isBlocked, Bool.false_eq_true, if_false,
        Nat.add_zero, true_and, and_true]
      funext priority
      by_cases same : priority = entry.options.priority
      · subst same
        rw [Function.update_self]
        simp only [readyAt, isBlocked, Bool.not_false, beq_self_eq_true, Bool.and_self, if_true]
        omega
      · rw [Function.update_of_ne same]
        simp [readyAt, Ne.symm same]

/-! ## The entries as waiting jobs -/

/-- The entries are those of the queue, in another order. -/
theorem Inv.entries_perm (inv : Inv config state) :
    (state.entries.entries.map Sigma.snd).Perm
      (state.queue.filterMap fun id => state.entries.lookup id) := by
  have listed : ∀ entries : List (Sigma fun _ : ExecutionId => QueueEntry), entries.NodupKeys →
      entries.map Sigma.snd = entries.keys.filterMap fun id => entries.dlookup id := by
    intro entries nodup
    unfold List.keys
    rw [List.filterMap_map, ← List.filterMap_eq_map]
    refine List.filterMap_congr fun entry member => ?_
    exact ((List.mem_dlookup_iff nodup).2 member).symm
  have sameKeys : state.entries.keys.Perm state.queue := by
    refine (List.perm_ext_iff_of_nodup state.entries.keys_nodup inv.queue.nodup).2 fun id => ?_
    rw [← AList.mem_keys, inv.queue.mem]
  rw [listed _ state.entries.nodupKeys]
  exact sameKeys.filterMap _

/-- Counting the entries that pass a test is counting the waiting jobs that do. -/
theorem Inv.countP_entries (inv : Inv config state) {test : QueueEntry → Bool}
    {jobTest : Job ExecutionId Priority OrderingKey → Bool}
    (same : ∀ id entry, state.entries.lookup id = some entry →
      jobTest (entry.options.job id) = test entry) :
    (state.entries.entries.map Sigma.snd).countP test =
      state.keyedQueue.waiting.countP jobTest := by
  rw [inv.entries_perm.countP_eq]
  show _ = (jobs state.entries state.queue).countP jobTest
  unfold jobs
  rw [List.countP_filterMap, List.countP_filterMap]
  refine List.countP_congr fun id _ => ?_
  cases found : state.entries.lookup id with
  | none => simp
  | some entry => simp [same id entry found]

theorem Inv.countP_blocked (inv : Inv config state) :
    (state.entries.entries.map Sigma.snd).countP state.blocked =
      state.keyedQueue.waiting.countP fun job => !state.keyedQueue.free job :=
  inv.countP_entries fun id entry _ => by rw [inv.free_job, Bool.not_not]

theorem Inv.countP_readyAt (inv : Inv config state) (priority : Priority) :
    (state.entries.entries.map Sigma.snd).countP (state.readyAt priority) =
      state.keyedQueue.waiting.countP fun job =>
        state.keyedQueue.free job && job.priority == priority :=
  inv.countP_entries fun id entry _ => by rw [inv.free_job]; rfl

end LaneState

/-! ## What is reported -/

/-- What the queue says in place of the statistics. -/
structure StatsExact (config : LaneConfig) (stats : LaneStats)
    (queue : Queue ExecutionId Priority OrderingKey) : Prop where
  queuedLive : stats.queuedLive = queue.waiting.length
  running : stats.running = queue.running.card
  available : stats.availableQueueCapacity + queue.waiting.length = config.capacity
  blocked : stats.blockedByOrderingKey = queue.waiting.countP fun job => !queue.free job
  ready : ∀ priority, stats.readyByPriority priority =
    queue.waiting.countP fun job => queue.free job && job.priority == priority
  /-- Every queued execution is counted once. -/
  total : stats.blockedByOrderingKey + ∑ priority, stats.readyByPriority priority =
    stats.queuedLive
  /-- Nothing is ready exactly when a start would find nothing. -/
  idle : (∀ priority, stats.readyByPriority priority = 0) ↔ queue.next 8 = none

namespace LaneState

variable {config : LaneConfig} {state : LaneState}

theorem Inv.stats_eq (inv : Inv config state) (sized : config.capacity ≤ usizeMax) :
    state.stats config =
      ({ queuedLive := state.entries.size
         running := state.running
         availableQueueCapacity := config.capacity - state.entries.size
         waitingProducers := state.waitingProducers
         blockedByOrderingKey :=
          state.keyedQueue.waiting.countP fun job => !state.keyedQueue.free job
         readyByPriority := fun priority =>
          state.keyedQueue.waiting.countP fun job =>
            state.keyedQueue.free job && job.priority == priority },
        []) := by
  have size : (state.entries.entries.map Sigma.snd).length = state.entries.size := by
    rw [List.length_map, AssocMap.size]
  have room := inv.entries_le
  have subtracted : sub config.capacity state.entries.size =
      some (config.capacity - state.entries.size) := sub_eq_some.2 ⟨room, rfl⟩
  have counted := @foldl_countEntry state (state.entries.entries.map Sigma.snd)
    ⟨0, fun _ => 0, []⟩ (by simp only; omega) (fun _ => by simp only; omega)
  unfold stats LaneState.availableQueueCapacity
  rw [counted, subtracted]
  simp only [inv.countP_blocked, inv.countP_readyAt, Nat.zero_add, List.map_nil, List.append_nil]

/-- Counting under each priority counts every job once. -/
theorem sum_countP_priority (test : Job ExecutionId Priority OrderingKey → Bool)
    (waiting : List (Job ExecutionId Priority OrderingKey)) :
    ∑ priority : Fin 8, waiting.countP (fun job => test job && job.priority == priority) =
      waiting.countP test := by
  induction waiting with
  | nil => simp
  | cons job rest ih =>
    simp only [List.countP_cons, Finset.sum_add_distrib, ih]
    refine congrArg (rest.countP test + ·) ?_
    cases tested : test job with
    | false => simp
    | true => simp [Finset.sum_ite_eq]

theorem Inv.stats_fields (inv : Inv config state) (sized : config.capacity ≤ usizeMax) :
    StatsExact config (state.stats config).1 state.keyedQueue := by
  have room := inv.entries_le
  have length : state.keyedQueue.waiting.length = state.entries.size := inv.length_jobs
  rw [inv.stats_eq sized]
  constructor
  case queuedLive => exact length.symm
  case running => exact inv.card_running.symm
  case available =>
    rw [length]
    exact Nat.sub_add_cancel room
  case blocked => rfl
  case ready => exact fun _ => rfl
  case total =>
    have split := List.length_eq_countP_add_countP state.keyedQueue.free
      (l := state.keyedQueue.waiting)
    simp only [sum_countP_priority, ← length]
    rw [split, Nat.add_comm]
    simp
  case idle =>
    rw [Queue.next_eq_none]
    constructor
    · intro none_ready job member
      have count := List.countP_eq_zero.1 (none_ready job.priority) job member
      simpa using count
    · intro blocked priority
      refine List.countP_eq_zero.2 fun job member => ?_
      simp [blocked job member]

end LaneState

/-- **The statistics are exact.**  In every run of the lane `stats` reports the queue that the
lane stands for, counts every queued execution once, and logs no code. -/
theorem stats_exact {config : LaneConfig} {run : LaneRun} (sized : config.capacity ≤ usizeMax)
    (reached : (laneSystem config).Reachable run) :
    StatsExact config (run.lane.stats config).1 run.lane.keyedQueue ∧
      (run.lane.stats config).2 = [] := by
  have inv := (LaneRun.Inv.of_reachable reached).lane
  exact ⟨inv.stats_fields sized, by rw [inv.stats_eq sized]⟩

/-- While the first of two submissions under one key runs, the second is reported as blocked. -/
theorem stats_exact_keyed :
    ∃ run, (laneSystem narrowLane).exec (laneSystem narrowLane).init (keyedRun.take 3) = some run ∧
      (run.lane.stats narrowLane).1.blockedByOrderingKey = 1 ∧
      StatsExact narrowLane (run.lane.stats narrowLane).1 run.lane.keyedQueue := by
  have ran : ∃ run, (laneSystem narrowLane).exec (laneSystem narrowLane).init (keyedRun.take 3) =
      some run ∧ (run.lane.stats narrowLane).1.blockedByOrderingKey = 1 := ⟨_, rfl, rfl⟩
  obtain ⟨run, eq, blocked⟩ := ran
  exact ⟨run, eq, blocked, (stats_exact (by decide) (System.Reaches.of_schedule _ eq)).1⟩

end BusyBeaver
