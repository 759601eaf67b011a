import BusyBeaver.Lane.Dispatches

/-!
# Who is dispatched next

`laneDispatches` is the lane with the loop of `take_startable` cut at each dispatch, so that
dispatches can be counted one by one; every run of the lane is one of its runs
(`LaneRun.reaches_dispatches`), and in the others further sections come between the dispatches of a
call.

`bounded_bypass`: eight dispatches of an unblocked entry cost it one of the entries older
than itself, so `8 * (r + 1)` of them are enough.  `admission_order`: an entry is not passed
by a later one of the same ordering key and no higher priority.
-/

namespace BusyBeaver

open Transition

/-! ## The lane, one dispatch at a time -/

inductive LaneMove : Type
  | dispatch
  | lane (action : LaneAction)

def LaneMove.isDispatch : LaneMove → Bool
  | .dispatch => true
  | .lane _ => false

namespace LaneRun

/-- One iteration of the loop of `take_startable` that starts an execution. -/
def dispatchOne (config : LaneConfig) (run : LaneRun) : Option LaneRun :=
  match run.lane.dispatchOne config with
  | .started lane id logged =>
    some
      { run with
        lane := lane
        monitors := insert id run.monitors
        logged := run.logged ++ logged }
  | _ => none

def move (config : LaneConfig) (run : LaneRun) : LaneMove → Option LaneRun
  | .dispatch => run.dispatchOne config
  | .lane .takeStartable => none
  | .lane action => run.step config action

end LaneRun

/-- The lane created with `config`, with single dispatches. -/
def laneDispatches (config : LaneConfig) : System LaneRun LaneMove where
  init := (laneSystem config).init
  step := LaneRun.move config

namespace LaneRun

variable {config : LaneConfig} {run after : LaneRun} {next : LaneMove}

theorem Inv.dispatchOne (inv : Inv config run) (one : run.dispatchOne config = some after) :
    ∃ id entry logged,
      LaneState.Dispatched config run.lane id entry after.lane ∧
      after = { run with
        lane := after.lane
        monitors := insert id run.monitors
        logged := run.logged ++ logged } ∧ Inv config after := by
  unfold LaneRun.dispatchOne at one
  split at one
  · rename_i lane id logged started
    cases one
    obtain ⟨entry, dispatched⟩ := inv.lane.dispatched_of_started started
    refine ⟨id, entry, logged, dispatched, rfl, ?_⟩
    have present := AssocMap.mem_of_lookup dispatched.queued
    have silent : ∀ code ∈ logged, code = .dispatchCountOverflow := by
      rcases inv.lane.dispatchOne_cases with idle | ⟨_, _, _, eq, -, -, -, silent⟩
      · rw [idle] at started
        cases started
      · cases started.symm.trans eq
        exact silent
    have entries : ∀ a, a ∈ lane.entries ↔ a ≠ id ∧ a ∈ run.lane.entries := by
      intro a
      rw [dispatched.eq]
      exact AList.mem_erase
    have active : lane.active = run.lane.active := by
      rw [dispatched.eq]
      simp [LaneState.started]
    refine inv.of_shrink (inv.lane.dispatched dispatched) (fun a member => active ▸ member)
      (fun a queued => ((entries a).1 queued).2) ?_ ?_ ?_ silent
    · rw [dispatched.eq]
      simp [LaneState.started]
    · intro a monitored
      rcases Finset.mem_insert.1 monitored with rfl | earlier
      · exact Or.inr ⟨inv.queued_issued present, fun queued => ((entries a).1 queued).1 rfl⟩
      · exact Or.inl earlier
    · intro a member
      rw [active] at member
      by_cases here : a = id
      · exact Or.inr (Finset.mem_insert.2 (Or.inl here))
      · exact (inv.covered a member).imp (fun queued => (entries a).2 ⟨here, queued⟩)
          Finset.mem_insert_of_mem
  · cases one

/-- The other sections are those of the lane. -/
theorem move_lane {action : LaneAction} : run.move config (.lane action) = some after ↔
    action ≠ .takeStartable ∧ run.step config action = some after := by
  cases action <;> simp [LaneRun.move]

theorem Inv.move (inv : Inv config run) (moved : run.move config next = some after) :
    Inv config after := by
  cases next with
  | dispatch =>
    obtain ⟨_, _, _, _, _, kept⟩ := inv.dispatchOne moved
    exact kept
  | lane action => exact inv.step (move_lane.1 moved).2

theorem Inv.of_dispatches {ok : LaneRun → LaneMove → Prop}
    (reached : (laneDispatches config).Reaches ok (laneDispatches config).init run) :
    Inv config run :=
  reached.invariant .init fun inv _ moved => inv.move moved

/-- The run after the iterations that `taken` stands for. -/
def taking (run : LaneRun) (taken : LaneState.Taken) : LaneRun :=
  { run with
    lane := taken.state
    monitors := run.monitors ∪ taken.starts.toFinset
    logged := run.logged ++ taken.logged }

/-- The loop of `take_startable` is a run of single dispatches. -/
theorem exec_takeLoop (inv : Inv config run) {taken : LaneState.Taken} (fuel : Nat)
    {moves : List LaneMove}
    (before : (laneDispatches config).exec run moves = some (run.taking taken)) :
    ∃ moves, (laneDispatches config).exec run moves =
      some (run.taking (LaneState.takeLoop config fuel taken)) := by
  induction fuel generalizing taken moves with
  | zero => exact ⟨moves, before⟩
  | succ fuel ih =>
    have kept : Inv config (run.taking taken) := by
      have reach := System.Reaches.of_schedule moves before
      exact reach.invariant inv fun inv _ moved => inv.move moved
    unfold LaneState.takeLoop
    rcases kept.lane.dispatchOne_cases with idle | ⟨id, entry, logged, eq, -⟩
    · have idle' : LaneState.dispatchOne config taken.state = .idle := idle
      rw [idle']
      exact ⟨moves, before⟩
    · have eq' : LaneState.dispatchOne config taken.state =
          .started (taken.state.started id entry) id logged := eq
      rw [eq']
      refine ih (System.exec_snoc before (a := .dispatch) ?_)
      simp only [laneDispatches, LaneRun.move, LaneRun.dispatchOne, taking, eq', Option.some.injEq]
      simp [List.append_assoc]

/-- **The sections of the lane are runs of moves.** -/
theorem exec_section (inv : Inv config run) {action : LaneAction}
    (step : (laneSystem config).step run action = some after) :
    ∃ moves, (laneDispatches config).exec run moves = some after := by
  by_cases taking : action = .takeStartable
  · subst taking
    have start : (laneDispatches config).exec run [] = some (run.taking ⟨run.lane, [], []⟩) := by
      simp [System.exec, LaneRun.taking]
    obtain ⟨moves, exec⟩ := exec_takeLoop inv (run.lane.queue.length + 1) start
    cases step
    exact ⟨moves, exec⟩
  · have moved : (laneDispatches config).step run (.lane action) = some after :=
      move_lane.2 ⟨taking, step⟩
    exact ⟨[.lane action], by simp [System.exec, moved]⟩

theorem reaches_dispatches (reached : (laneSystem config).Reachable run) :
    (laneDispatches config).Reachable run := by
  refine System.Reaches.map (f := fun run => run) reached ?_
  intro x y action before _ step
  obtain ⟨moves, exec⟩ := exec_section (.of_reachable before) step
  exact System.Reaches.of_schedule moves exec

end LaneRun

/-! ## What a dispatch prefers -/

/-- The test of `select_ready_candidate` is a strict order in both of its modes. -/
theorem ReadyCandidate.replaces_irrefl {selectOldest : Bool} (candidate : ReadyCandidate) :
    candidate.replaces selectOldest candidate = false := by
  cases selectOldest <;> simp [ReadyCandidate.replaces]

theorem ReadyCandidate.replaces_trans {selectOldest : Bool} (a b c : ReadyCandidate)
    (first : a.replaces selectOldest b = true) (second : b.replaces selectOldest c = true) :
    a.replaces selectOldest c = true := by
  cases selectOldest
  · simp only [ReadyCandidate.replaces, Bool.false_eq_true, ↓reduceIte, Bool.or_eq_true,
      Bool.and_eq_true, decide_eq_true_eq, Fin.lt_def, Fin.ext_iff] at *
    omega
  · simp only [ReadyCandidate.replaces, ↓reduceIte, decide_eq_true_eq] at *
    omega

/-- The candidate that is due: the oldest at every eighth dispatch, the oldest of the highest
priority at the others. -/
def ReadyCandidate.IsDue (dispatchCount : Nat) (candidates : List ReadyCandidate)
    (best : ReadyCandidate) : Prop :=
  best ∈ candidates ∧ ∀ other ∈ candidates,
    if dispatchCount % 8 = 7 then best.sequence ≤ other.sequence
    else other.priority < best.priority ∨
      other.priority = best.priority ∧ best.sequence ≤ other.sequence

/-- What no candidate replaces is due. -/
theorem ReadyCandidate.isDue_iff {dispatchCount : Nat} {candidates : List ReadyCandidate}
    {best : ReadyCandidate} :
    best.IsDue dispatchCount candidates ↔ best ∈ candidates ∧
      ∀ other ∈ candidates, other.replaces (dispatchCount % 8 == 7) best = false := by
  refine and_congr_right fun _ => forall₂_congr fun other _ => ?_
  by_cases oldest : dispatchCount % 8 = 7
  · simp only [oldest, if_true, ReadyCandidate.replaces, BEq.rfl, decide_eq_false_iff_not]
    omega
  · have mode : (dispatchCount % 8 == 7) = false := by simpa using oldest
    simp only [oldest, if_false, ReadyCandidate.replaces, mode, Bool.false_eq_true,
      Bool.or_eq_false_iff, Bool.and_eq_false_iff, decide_eq_false_iff_not, Fin.lt_def,
      Fin.ext_iff]
    omega

/-- Two candidates of which neither replaces the other have the same sequence. -/
theorem ReadyCandidate.sequence_eq {selectOldest : Bool} {a b : ReadyCandidate}
    (kept : a.replaces selectOldest b = false) (kept' : b.replaces selectOldest a = false) :
    a.sequence = b.sequence := by
  cases selectOldest
  · simp only [ReadyCandidate.replaces, Bool.false_eq_true, ↓reduceIte, Bool.or_eq_false_iff,
      Bool.and_eq_false_iff, decide_eq_false_iff_not, Fin.lt_def, Fin.ext_iff] at kept kept'
    omega
  · simp only [ReadyCandidate.replaces, ↓reduceIte, decide_eq_false_iff_not] at kept kept'
    omega

/-- The selected candidate is due. -/
theorem ReadyCandidate.isDue_of_selected {dispatchCount : Nat} {candidates : List ReadyCandidate}
    {best : ReadyCandidate}
    (selected : selectReadyCandidate dispatchCount candidates = some best) :
    best.IsDue dispatchCount candidates := by
  rw [LaneState.selectReadyCandidate_eq_choose] at selected
  exact ReadyCandidate.isDue_iff.2 ⟨Select.mem_of_choose selected,
    Select.not_replaces_of_choose ReadyCandidate.replaces_irrefl ReadyCandidate.replaces_trans
      selected⟩

/-- **Main result.**  The selection answers the one candidate that is due, in whatever order the
candidates come. -/
theorem select_ready_candidate_optimum (dispatchCount : Nat) (candidates : List ReadyCandidate)
    (distinct : (candidates.map ReadyCandidate.sequence).Nodup) :
    (selectReadyCandidate dispatchCount candidates = none ↔ candidates = []) ∧
      (candidates ≠ [] → ∃ best, selectReadyCandidate dispatchCount candidates = some best ∧
        best.IsDue dispatchCount candidates ∧
        ∀ other : ReadyCandidate, other.IsDue dispatchCount candidates → other = best) ∧
      ∀ permuted : List ReadyCandidate, permuted.Perm candidates →
        selectReadyCandidate dispatchCount permuted =
          selectReadyCandidate dispatchCount candidates := by
  have separates : ∀ a ∈ candidates, ∀ b ∈ candidates,
      a.replaces (dispatchCount % 8 == 7) b = false →
      b.replaces (dispatchCount % 8 == 7) a = false → a = b := fun a inA b inB kept kept' =>
    List.inj_on_of_nodup_map distinct inA inB (ReadyCandidate.sequence_eq kept kept')
  have due : ∀ best : ReadyCandidate, selectReadyCandidate dispatchCount candidates = some best ↔
      best.IsDue dispatchCount candidates := by
    intro best
    rw [LaneState.selectReadyCandidate_eq_choose, ReadyCandidate.isDue_iff]
    exact Select.choose_eq_some ReadyCandidate.replaces_irrefl ReadyCandidate.replaces_trans
      separates
  refine ⟨?_, fun nonempty => ?_, fun permuted perm => ?_⟩
  · rw [LaneState.selectReadyCandidate_eq_choose]
    exact Select.choose_eq_none
  · cases found : selectReadyCandidate dispatchCount candidates with
    | none =>
      rw [LaneState.selectReadyCandidate_eq_choose, Select.choose_eq_none] at found
      exact absurd found nonempty
    | some best =>
      refine ⟨best, rfl, (due best).1 found, fun other also => ?_⟩
      exact Option.some.inj (((due other).2 also).symm.trans found)
  · rw [LaneState.selectReadyCandidate_eq_choose,
      LaneState.selectReadyCandidate_eq_choose]
    exact Select.choose_perm ReadyCandidate.replaces_irrefl ReadyCandidate.replaces_trans perm
      separates

/-- A low and a high priority, at the eighth dispatch and at the first. -/
theorem select_ready_candidate_optimum_aging :
    ∃ low high : ReadyCandidate,
      selectReadyCandidate 7 [high, low] = some low ∧
        selectReadyCandidate 0 [low, high] = some high ∧
      (∀ permuted : List ReadyCandidate, permuted.Perm [low, high] →
        selectReadyCandidate 7 permuted = selectReadyCandidate 7 [low, high]) ∧
      ∃ best, selectReadyCandidate 7 [low, high] = some best ∧ best.IsDue 7 [low, high] ∧
        ∀ other : ReadyCandidate, other.IsDue 7 [low, high] → other = best := by
  have optimum := select_ready_candidate_optimum 7 [⟨0, 1, 0, 4⟩, ⟨1, 2, 7, 9⟩] (by decide)
  exact ⟨⟨0, 1, 0, 4⟩, ⟨1, 2, 7, 9⟩, rfl, rfl, optimum.2.2, optimum.2.1 (List.cons_ne_nil _ _)⟩

namespace LaneState

variable {config : LaneConfig} {state after : LaneState} {id other : ExecutionId}
  {entry x : QueueEntry}

/-- A candidate is a free entry of the queue, with its priority and its sequence. -/
theorem fields_of_mem_readyCandidates {candidate : ReadyCandidate}
    (member : candidate ∈ state.readyCandidates) :
    ∃ entry, state.entries.lookup candidate.executionId = some entry ∧
      candidate.priority = entry.options.priority ∧ candidate.sequence = entry.sequence := by
  obtain ⟨⟨queued, index⟩, -, offered⟩ := List.mem_filterMap.1 member
  simp only at offered
  split at offered
  · cases offered
  · rename_i entry found
    split at offered
    · cases offered
    · cases offered
      exact ⟨entry, found, rfl, rfl⟩

/-- Every free entry is offered to the selection. -/
theorem Inv.exists_candidate (inv : Inv config state)
    (queued : state.entries.lookup id = some entry) (free : state.blocked entry = false) :
    ∃ candidate ∈ state.readyCandidates, candidate.priority = entry.options.priority ∧
      candidate.sequence = entry.sequence := by
  have member : id ∈ state.queue := (inv.queue.mem id).2 (AssocMap.mem_of_lookup queued)
  obtain ⟨index, bound, value⟩ := List.getElem_of_mem member
  refine ⟨⟨index, id, entry.options.priority, entry.sequence⟩, ?_, rfl, rfl⟩
  refine List.mem_filterMap.2 ⟨(id, index), ?_, ?_⟩
  · rw [List.mk_mem_zipIdx_iff_getElem?, List.getElem?_eq_getElem bound, value]
  · simp [queued, free]

/-- No free entry would replace the one that is dispatched. -/
theorem Inv.preferred (inv : Inv config state) (one : Dispatched config state id entry after)
    (queued : state.entries.lookup other = some x) (free : state.blocked x = false) :
    (state.dispatchCount % 8 = 7 → entry.sequence ≤ x.sequence) ∧
      (state.dispatchCount % 8 ≠ 7 → x.options.priority < entry.options.priority ∨
        x.options.priority = entry.options.priority ∧ entry.sequence ≤ x.sequence) := by
  obtain ⟨best, rfl, selected⟩ := one.selected
  obtain ⟨own, found, priority, sequence⟩ :=
    fields_of_mem_readyCandidates (mem_of_selectReadyCandidate selected)
  obtain rfl : entry = own := Option.some.inj (one.queued.symm.trans found)
  obtain ⟨candidate, offered, priority', sequence'⟩ := inv.exists_candidate queued free
  have kept := (ReadyCandidate.isDue_of_selected selected).2 candidate offered
  rw [priority, priority', sequence, sequence'] at kept
  exact ⟨fun oldest => by rwa [if_pos oldest] at kept, fun newest => by rwa [if_neg newest] at kept⟩

/-- No two entries were given the same sequence. -/
theorem QueueInv.sequence_ne {queue : List ExecutionId} {entries : AssocMap ExecutionId QueueEntry}
    {nextSequence : Nat} (inv : QueueInv queue entries nextSequence) (apart : id ≠ other)
    (foundId : entries.lookup id = some entry) (foundOther : entries.lookup other = some x) :
    entry.sequence ≠ x.sequence := by
  have sorted : queue.Pairwise fun a b => ∀ x y, entries.lookup a = some x →
      entries.lookup b = some y → x.sequence ≠ y.sequence :=
    inv.sorted.imp fun less x y left right => (less x y left right).ne
  have mem : ∀ {a : ExecutionId} {y : QueueEntry}, entries.lookup a = some y → a ∈ queue :=
    fun found => (inv.mem _).2 (AssocMap.mem_of_lookup found)
  have symmetric : Std.Symm fun a b => ∀ x y, entries.lookup a = some x →
      entries.lookup b = some y → x.sequence ≠ y.sequence :=
    ⟨fun a b distinct y z left right => (distinct z y right left).symm⟩
  exact sorted.forall (mem foundId) (mem foundOther) apart entry x foundId foundOther

/-! ## The measure of a waiting entry -/

/-- The number of queued entries with a smaller sequence. -/
def older (state : LaneState) (sequence : Nat) : Nat :=
  state.queue.countP fun id => (state.entries.lookup id).any fun entry => entry.sequence < sequence

/-- Dispatches until every older entry is gone and the next oldest-first dispatch is over. -/
def bypass (state : LaneState) (sequence : Nat) : Nat :=
  8 * state.older sequence + (8 - state.dispatchCount % 8)

/-- A dispatch takes one entry out. -/
theorem Inv.older_dispatched (inv : Inv config state)
    (one : Dispatched config state id entry after) (sequence : Nat) :
    state.older sequence = after.older sequence + if entry.sequence < sequence then 1 else 0 := by
  have member : id ∈ state.queue := (inv.queue.mem id).2 (AssocMap.mem_of_lookup one.queued)
  have split_ := (List.perm_cons_erase member).countP_eq fun id =>
    (state.entries.lookup id).any fun entry => entry.sequence < sequence
  rw [inv.queue.nodup.erase_eq_filter] at split_
  rw [older, split_, List.countP_cons, one.eq]
  have rest : ∀ a ∈ state.queue.filter (fun other => other != id),
      ((state.entries.lookup a).any fun entry => entry.sequence < sequence) =
        ((state.entries.erase id).lookup a).any fun entry => entry.sequence < sequence := by
    intro a kept
    have other : a ≠ id := bne_iff_ne.1 (List.mem_filter.1 kept).2
    rw [AssocMap.lookup_erase_eq, if_neg other]
  rw [List.countP_congr fun a kept => by rw [rest a kept]]
  simp only [one.queued, Option.any_some, decide_eq_true_eq]
  rfl

/-- A section that brings no older entry in leaves no more of them. -/
theorem older_le (before : Inv config state) (later : Inv config after) {sequence : Nat}
    (origin : ∀ id entry, after.entries.lookup id = some entry → entry.sequence < sequence →
      state.entries.lookup id = some entry) : after.older sequence ≤ state.older sequence := by
  unfold older
  rw [List.countP_eq_length_filter, List.countP_eq_length_filter]
  refine (List.subperm_of_subset (later.queue.nodup.filter _) ?_).length_le
  intro id member
  obtain ⟨queued, small⟩ := List.mem_filter.1 member
  obtain ⟨entry, found⟩ := AssocMap.mem_iff_lookup.1 ((later.queue.mem id).1 queued)
  rw [found, Option.any_some, decide_eq_true_eq] at small
  have earlier := origin id entry found small
  refine List.mem_filter.2 ⟨(before.queue.mem id).2 (AssocMap.mem_of_lookup earlier), ?_⟩
  rw [earlier, Option.any_some, decide_eq_true_eq]
  exact small

theorem nextDispatchCount_phase {count : Nat} (bound : count ≤ Checked.u64Max) :
    (nextDispatchCount count).1 ≤ Checked.u64Max ∧
      (nextDispatchCount count).1 % 8 = (count + 1) % 8 := by
  unfold nextDispatchCount
  split
  · rename_i overflow
    have full := Checked.add_eq_none.1 overflow
    simp only [Checked.u64Max] at *
    omega
  · rename_i next added
    obtain ⟨fits, rfl⟩ := Checked.add_eq_some.1 added
    exact ⟨fits, rfl⟩

/-- A dispatch of another entry brings a free entry nearer to its own. -/
theorem Inv.bypass_dispatched (inv : Inv config state)
    (one : Dispatched config state id entry after) (bound : state.dispatchCount ≤ Checked.u64Max)
    (queued : state.entries.lookup other = some x) (free : state.blocked x = false)
    (apart : other ≠ id) : after.bypass x.sequence < state.bypass x.sequence := by
  have counted := inv.older_dispatched one x.sequence
  have phase := (nextDispatchCount_phase bound).2
  have count : after.dispatchCount = (nextDispatchCount state.dispatchCount).1 := by
    rw [one.eq]
    rfl
  have oldest := (inv.preferred one queued free).1
  have distinct := inv.queue.sequence_ne (Ne.symm apart) one.queued queued
  unfold bypass
  rw [count, phase]
  split at counted
  · omega
  · omega

end LaneState

namespace LaneRun

variable {config : LaneConfig} {run mid after : LaneRun} {next : LaneMove} {e : ExecutionId}
  {x : QueueEntry}

/-! ## What a run adds to the queue -/

/-- `after` comes later in a run than `run`: what is queued in it was queued before under the
same entry, or was admitted since, with a larger sequence. -/
structure Later (run after : LaneRun) : Prop where
  issued : ∀ id ∈ run.issued, id ∈ after.issued
  sequence : run.lane.nextSequence ≤ after.lane.nextSequence
  origin : ∀ id entry, after.lane.entries.lookup id = some entry →
    run.lane.entries.lookup id = some entry ∨
      id ∉ run.issued ∧ run.lane.nextSequence ≤ entry.sequence

theorem Later.refl (run : LaneRun) : Later run run :=
  ⟨fun _ member => member, le_refl _, fun _ _ found => Or.inl found⟩

theorem Later.trans (first : Later run mid) (second : Later mid after) : Later run after where
  issued id member := second.issued id (first.issued id member)
  sequence := first.sequence.trans second.sequence
  origin id entry found := by
    rcases second.origin id entry found with earlier | ⟨unissued, larger⟩
    · exact first.origin id entry earlier
    · exact Or.inr ⟨fun member => unissued (first.issued id member),
        first.sequence.trans larger⟩

/-- A section other than `take_startable` dispatches nothing. -/
theorem Later.of_section {action : LaneAction} (other : action ≠ .takeStartable)
    (step : run.step config action = some after) :
    Later run after ∧ after.lane.dispatchCount = run.lane.dispatchCount := by
  cases action with
  | insertPrepared id options ticket =>
    simp only [LaneRun.step] at step
    split at step
    · cases step
    · rename_i unissued
      split at step
      · cases step
        exact ⟨⟨fun _ => Finset.mem_insert_of_mem, le_refl _, fun _ _ => Or.inl⟩, rfl⟩
      · rename_i lane ok
        cases step
        have eq := (LaneState.Inserted.of_ok ok).eq
        refine ⟨⟨fun _ => Finset.mem_insert_of_mem, ?_, ?_⟩, by rw [eq]⟩
        · rw [eq]
          exact Nat.le_succ _
        · intro a entry found
          rw [eq] at found
          simp only [AssocMap.lookup_insert_eq] at found
          split at found
          · rename_i same
            cases found
            exact Or.inr ⟨same ▸ unissued, le_refl _⟩
          · exact Or.inl found
  | removeQueued id =>
    cases step
    obtain ⟨sequence, count⟩ := @LaneState.removeQueued_counters run.lane id
    refine ⟨⟨fun _ member => member, sequence.ge, fun a entry found => ?_⟩, count⟩
    have kept : (run.lane.removeQueued id).1.entries.lookup a = some entry := found
    rw [LaneState.lookup_removeQueued] at kept
    split at kept
    · cases kept
    · exact Or.inl kept
  | takeStartable => exact (other rfl).elim
  | executionFinished id =>
    simp only [LaneRun.step] at step
    split at step
    · cases step
      obtain ⟨sequence, count⟩ := @LaneState.executionFinished_counters run.lane id
      refine ⟨⟨fun _ member => member, sequence.ge, fun a entry found => ?_⟩, count⟩
      have kept : (run.lane.executionFinished id).1.entries.lookup a = some entry := found
      rw [(executionFinished_fields run.lane id).2.1] at kept
      exact Or.inl kept
    · cases step
  | requestClose =>
    cases step
    exact ⟨⟨fun _ member => member, le_refl _, fun _ _ => Or.inl⟩, rfl⟩
  | dispatcherStopped =>
    cases step
    exact ⟨⟨fun _ member => member, le_refl _, fun _ _ found => by cases found⟩, rfl⟩
  | newWaitingProducer =>
    have only := @LaneState.WaitingOnly.newWaitingProducer config run.lane
    simp only [LaneRun.step] at step
    split at step
    · rename_i lane error answer
      cases step
      rw [answer] at only
      exact ⟨⟨fun _ member => member, only.nextSequence.ge,
        fun _ _ found => Or.inl (only.entries ▸ found)⟩, only.dispatchCount⟩
    · rename_i lane ticket answer
      cases step
      rw [answer] at only
      exact ⟨⟨fun _ member => member, only.nextSequence.ge,
        fun _ _ found => Or.inl (only.entries ▸ found)⟩, only.dispatchCount⟩
  | finishWaitingProducer ticket =>
    simp only [LaneRun.step] at step
    split at step
    · cases step
      exact ⟨⟨fun _ member => member, le_refl _, fun _ _ => Or.inl⟩, rfl⟩
    · cases step
  | stats =>
    cases step
    exact ⟨⟨fun _ member => member, le_refl _, fun _ _ => Or.inl⟩, rfl⟩

theorem Later.of_move (inv : Inv config run) (moved : run.move config next = some after) :
    Later run after := by
  cases next with
  | lane action =>
    obtain ⟨other, step⟩ := move_lane.1 moved
    exact (Later.of_section other step).1
  | dispatch =>
    obtain ⟨id, entry, logged, one, eq, -⟩ := inv.dispatchOne moved
    have issued : after.issued = run.issued := by rw [eq]
    have sequence : after.lane.nextSequence = run.lane.nextSequence := by
      rw [one.eq]
      simp [LaneState.started]
    refine ⟨fun _ member => issued ▸ member, sequence.ge, fun a y found => ?_⟩
    rw [one.eq] at found
    simp only [LaneState.started, AssocMap.lookup_erase_eq] at found
    split at found
    · cases found
    · exact Or.inl found

theorem Later.of_reaches {ok : LaneRun → LaneMove → Prop} (inv : Inv config run)
    (reached : (laneDispatches config).Reaches ok run after) :
    Later run after ∧ Inv config after :=
  reached.invariant (I := fun after => Later run after ∧ Inv config after) ⟨.refl run, inv⟩
    fun both _ moved => ⟨both.1.trans (.of_move both.2 moved), both.2.move moved⟩

/-- An execution that is still queued was queued all along, under the same entry. -/
theorem Later.queued (later : Later run after) (inv : Inv config run)
    (queued : run.lane.entries.lookup e = some x) (still : e ∈ after.lane.entries) :
    after.lane.entries.lookup e = some x := by
  obtain ⟨y, found⟩ := AssocMap.mem_iff_lookup.1 still
  rcases later.origin e y found with earlier | ⟨unissued, -⟩
  · rw [found, ← earlier, queued]
  · exact (unissued (inv.queued_issued (AssocMap.mem_of_lookup queued))).elim

/-- The counter of dispatches fits its machine word. -/
theorem dispatchCount_le {ok : LaneRun → LaneMove → Prop}
    (reached : (laneDispatches config).Reaches ok (laneDispatches config).init run) :
    run.lane.dispatchCount ≤ Checked.u64Max := by
  have both : run.lane.dispatchCount ≤ Checked.u64Max ∧ Inv config run := by
    refine reached.invariant (I := fun run => run.lane.dispatchCount ≤ Checked.u64Max ∧
      Inv config run) ⟨Nat.zero_le _, .init⟩ ?_
    intro run after next both _ moved
    refine ⟨?_, both.2.move moved⟩
    cases next with
    | lane action =>
      obtain ⟨other, step⟩ := move_lane.1 moved
      rw [(Later.of_section other step).2]
      exact both.1
    | dispatch =>
      obtain ⟨id, entry, logged, one, -, -⟩ := both.2.dispatchOne moved
      rw [one.eq]
      exact (LaneState.nextDispatchCount_phase both.1).1
  exact both.1

/-! ## Bounded bypass -/

/-- Every dispatch that leaves a free entry in the queue brings it nearer to its own. -/
theorem bypass_exec (inv : Inv config run) (bound : run.lane.dispatchCount ≤ Checked.u64Max)
    (queued : run.lane.entries.lookup e = some x) {moves : List LaneMove}
    (runs : (laneDispatches config).exec run moves = some after)
    (free : (laneDispatches config).Meets
      (fun run next => next.isDispatch = true → run.lane.blocked x = false) run moves)
    (still : e ∈ after.lane.entries) :
    after.lane.bypass x.sequence + moves.countP LaneMove.isDispatch ≤
      run.lane.bypass x.sequence := by
  induction moves generalizing run with
  | nil =>
    cases runs
    exact le_refl _
  | cons next rest ih =>
    simp only [System.exec] at runs
    simp only [System.Meets] at free
    cases moved : (laneDispatches config).step run next with
    | none =>
      rw [moved] at runs
      cases runs
    | some mid =>
      rw [moved] at runs free
      have later := Later.of_move inv moved
      have kept : Inv config mid := inv.move moved
      have past : (Later mid after ∧ Inv config after) :=
        Later.of_reaches kept (System.Reaches.of_schedule rest runs)
      have present : e ∈ mid.lane.entries := by
        obtain ⟨y, found⟩ := AssocMap.mem_iff_lookup.1 still
        rcases past.1.origin e y found with earlier | ⟨unissued, -⟩
        · exact AssocMap.mem_of_lookup earlier
        · have issued := inv.queued_issued (AssocMap.mem_of_lookup queued)
          exact (unissued (later.issued e issued)).elim
      have queued' := later.queued inv queued present
      cases next with
      | dispatch =>
        obtain ⟨id, entry, logged, one, -, -⟩ := inv.dispatchOne moved
        have apart : e ≠ id := by
          rintro rfl
          rw [one.eq] at present
          exact (AList.mem_erase.1 present).1 rfl
        have count : mid.lane.dispatchCount ≤ Checked.u64Max := by
          rw [one.eq]
          exact (LaneState.nextDispatchCount_phase bound).1
        have nearer := inv.lane.bypass_dispatched one bound queued (free.1 rfl) apart
        have rest_ := ih kept count queued' runs free.2
        rw [List.countP_cons_of_pos rfl]
        omega
      | lane action =>
        obtain ⟨other, step⟩ := move_lane.1 moved
        have count := (Later.of_section other step).2
        have fewer : mid.lane.older x.sequence ≤ run.lane.older x.sequence := by
          refine LaneState.older_le inv.lane kept.lane fun id entry found small => ?_
          have newest := inv.lane.queue.bounded e x queued
          rcases later.origin id entry found with earlier | ⟨-, larger⟩
          · exact earlier
          · omega
        have rest_ := ih kept (count ▸ bound) queued' runs free.2
        rw [List.countP_cons_of_neg (by simp [LaneMove.isDispatch])]
        have same : mid.lane.bypass x.sequence ≤ run.lane.bypass x.sequence := by
          unfold LaneState.bypass
          rw [count]
          omega
        omega

end LaneRun

/-- **Bounded bypass.**  An entry with `r` older ones in the queue, free at every dispatch from
then on, is out of the queue after `8 * (r + 1)` dispatches: as long as it is still queued,
fewer have happened. -/
theorem bounded_bypass {config : LaneConfig} {run after : LaneRun} {e : ExecutionId}
    {x : QueueEntry} {moves : List LaneMove} (reached : (laneDispatches config).Reachable run)
    (queued : run.lane.entries.lookup e = some x)
    (runs : (laneDispatches config).exec run moves = some after)
    (free : (laneDispatches config).Meets
      (fun run next => next.isDispatch = true → run.lane.blocked x = false) run moves)
    (still : e ∈ after.lane.entries) :
    moves.countP LaneMove.isDispatch < 8 * (run.lane.older x.sequence + 1) := by
  have total := LaneRun.bypass_exec (.of_dispatches reached) (LaneRun.dispatchCount_le reached)
    queued runs free still
  unfold LaneState.bypass at total
  omega

def fourDeep : LaneConfig where
  capacity := 4
  concurrency := 1
  maxWaitingProducers := 1
  maxOrderingKeys := 1
  capacity_pos := Nat.succ_pos 3
  concurrency_pos := Nat.one_pos
  concurrency_le := Checked.one_le_usizeMax
  maxWaitingProducers_le := Checked.one_le_usizeMax

/-- One entry of the lowest priority is admitted between two of the highest. -/
def crowdedLane : List LaneMove :=
  [.lane (.insertPrepared 0 { priority := .highest } none),
    .lane (.insertPrepared 1 { priority := .lowest } none),
    .lane (.insertPrepared 2 { priority := .highest } none)]

def passedBy : List LaneMove :=
  [.dispatch, .lane (.executionFinished 0), .dispatch, .lane (.executionFinished 2)]

theorem bounded_bypass_crowded :
    ∃ run after, (laneDispatches fourDeep).exec (laneDispatches fourDeep).init crowdedLane =
        some run ∧
      (laneDispatches fourDeep).exec run passedBy = some after ∧ 1 ∈ after.lane.entries ∧
      passedBy.countP LaneMove.isDispatch < 8 * (run.lane.older 1 + 1) := by
  let s := laneDispatches fourDeep
  have crowd : (s.exec s.init crowdedLane).map (fun run => (run.lane.entries.lookup 1,
      decide (s.Meets (fun run next => next.isDispatch = true →
        run.lane.blocked ⟨{ priority := .lowest }, 1⟩ = false) run passedBy),
      (s.exec run passedBy).map fun after => decide (1 ∈ after.lane.entries))) =
      some (some ⟨{ priority := .lowest }, 1⟩, true, some true) := by decide +kernel
  obtain ⟨run, ran, facts⟩ := Option.map_eq_some_iff.1 crowd
  simp only [Prod.mk.injEq, decide_eq_true_eq] at facts
  obtain ⟨queued, free, passed⟩ := facts
  obtain ⟨after, ends, still⟩ := Option.map_eq_some_iff.1 passed
  have still := of_decide_eq_true still
  exact ⟨run, after, ran, ends, still,
    bounded_bypass (System.Reaches.of_schedule _ ran) queued ends free still⟩

/-- **Admission order.**  An execution that was admitted after `a`, under the same ordering key
or both under none, and with no higher priority, is never dispatched while `a` is queued. -/
theorem admission_order {config : LaneConfig} {run mid : LaneRun} {a b : ExecutionId}
    {x y : QueueEntry} {lane : LaneState} {logged : List LaneCode}
    (reached : (laneDispatches config).Reachable run)
    (queued : run.lane.entries.lookup a = some x) (unadmitted : b ∉ run.issued)
    (later : (laneDispatches config).Reaches (fun _ _ => True) run mid)
    (admitted : mid.lane.entries.lookup b = some y)
    (key : x.options.orderingKey = y.options.orderingKey)
    (priority : y.options.priority ≤ x.options.priority)
    (dispatched : mid.lane.dispatchOne config = .started lane b logged) :
    a ∉ mid.lane.entries := by
  intro still
  have inv := LaneRun.Inv.of_dispatches reached
  obtain ⟨since, kept⟩ := LaneRun.Later.of_reaches inv later
  have present := since.queued inv queued still
  obtain ⟨entry, one⟩ := kept.lane.dispatched_of_started dispatched
  obtain rfl : y = entry := Option.some.inj (admitted.symm.trans one.queued)
  have free : mid.lane.blocked x = false := by
    have open_ := one.free
    simp only [LaneState.blocked] at open_ ⊢
    rw [key]
    exact open_
  have newer : x.sequence < y.sequence := by
    have bound := inv.lane.queue.bounded a x queued
    rcases since.origin b y admitted with earlier | ⟨-, larger⟩
    · exact (unadmitted (inv.queued_issued (AssocMap.mem_of_lookup earlier))).elim
    · omega
  obtain ⟨oldest, newest⟩ := kept.lane.preferred one present free
  by_cases phase : mid.lane.dispatchCount % 8 = 7
  · have := oldest phase
    omega
  · rcases newest phase with better | ⟨-, older⟩
    · exact absurd priority (Fin.not_le.2 better)
    · omega

/-- Two executions under no key; the later one has its turn once the first is done with. -/
def inTurn : List LaneMove :=
  [.lane (.insertPrepared 1 {} none), .dispatch, .lane (.executionFinished 0)]

theorem admission_order_inTurn :
    ∃ run mid, (laneDispatches fourDeep).exec (laneDispatches fourDeep).init
        [.lane (.insertPrepared 0 {} none)] = some run ∧
      (laneDispatches fourDeep).exec run inTurn = some mid ∧ 0 ∉ mid.lane.entries := by
  have turn : ∃ run mid lane logged,
      (laneDispatches fourDeep).exec (laneDispatches fourDeep).init
        [.lane (.insertPrepared 0 {} none)] = some run ∧
      (laneDispatches fourDeep).exec run inTurn = some mid ∧
      run.lane.entries.lookup 0 = some ⟨{}, 0⟩ ∧ mid.lane.entries.lookup 1 = some ⟨{}, 1⟩ ∧
      run.issued = {0} ∧ mid.lane.dispatchOne fourDeep = .started lane 1 logged :=
    ⟨_, _, _, _, rfl, rfl, rfl, rfl, rfl, rfl⟩
  obtain ⟨run, mid, lane, logged, ran, ends, queued, admitted, issued, dispatched⟩ := turn
  have unadmitted : 1 ∉ run.issued := by simp [issued]
  exact ⟨run, mid, ran, ends, admission_order (System.Reaches.of_schedule _ ran) queued
    unadmitted (System.Reaches.of_schedule _ ends) admitted rfl (Nat.le_refl 3) dispatched⟩

end BusyBeaver
