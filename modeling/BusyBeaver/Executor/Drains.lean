import Mathlib.Algebra.BigOperators.Group.Finset.Basic
import Mathlib.Algebra.Order.BigOperators.Group.Finset
import BusyBeaver.Lib.Progress
import BusyBeaver.Lane.Refines
import BusyBeaver.Executor.Closing

/-!
# The executor drains

`ExecutorAction.settles` are the steps that are left once nothing new is asked for: the
admission calls that are under way, dispatcher passes, starts, runners and commits, bodies
that return or are lost, monitors, reports that are being sent, stops.  Each of them brings
some execution closer to its end, so `Executor.rank` is a variant of them; and where none of
them changes anything, nothing is left of any execution but of those whose commit unwound,
and of those queued behind them: `executor_drains`.
-/

namespace BusyBeaver

open Transition Execution

/-! ## How far one execution is from its end -/

/-- Sections left of the admission call. -/
def Admission.rank : Admission → Nat
  | .inserting => 7
  | .registering => 6
  | .swapped => 5
  | .entered | .rejected _ => 4
  | .announced | .rollback _ => 3
  | .dropping _ => 2
  | .returned _ => 0

/-- Sections left of the runner.  A dispatch also calls for a monitor, so it counts twice. -/
def Runner.rank : Runner → Nat
  | .prepared => 17
  | .queued => 16
  | .taken => 14
  | .spawned => 13
  | .claimed => 12
  | .announcing => 11
  | .working => 10
  | .exiting _ => 9
  | .discarding _ => 8
  | .selected _ => 7
  | .published _ => 6
  | .leaving _ => 5
  | .recording _ => 4
  | .closing _ => 3
  | .finished | .unwound => 0

/-- The runner was dropped unpolled: what it commits owns nothing of the user's. -/
def Runner.isDrained : Runner → Bool
  | .exiting exit => !exit.ownsUserValue
  | .selected _ | .published _ | .leaving _ | .recording _ | .closing _ | .finished => true
  | _ => false

/-- Only a value or error of the proposed exit can be lost. -/
theorem ownsUserValue_of_drops {core : CoreState} {exit : Exit} {committed : Committed Unit Unit}
    (written : core.commit none exit = some committed)
    (drops : committed.dropsUserValue = true) : exit.ownsUserValue = true := by
  have unused : ∀ lost, (selectExit core.stopCause (some exit)).unused = some lost →
      lost = exit := by
    intro lost eq
    unfold selectExit at eq
    split at eq
    · cases eq
    · split at eq
      · exact (Option.some.inj eq).symm
      · split at eq
        · cases eq
        · exact (Option.some.inj eq).symm
      · cases eq
  unfold CoreState.commit at written
  split at written
  · cases written
  · cases written
    obtain ⟨lost, found, owns⟩ := Option.any_eq_true .. |>.1 drops
    exact unused lost found ▸ owns

/-- Sections left of the accepted stop. -/
def Stop.rank : Stop → Nat
  | .accepted => 4
  | .loading _ => 3
  | .announcing _ => 2
  | .hooking => 1
  | .idle | .done => 0

theorem Stop.rank_emitted (hook : Bool) : (Stop.emitted hook).rank ≤ 1 := by
  cases hook <;> simp [Stop.emitted, Stop.rank]

namespace Execution

/-- Sections left of everything that is under way for the execution, and of the one stop
that may still be accepted. -/
def rank (x : Execution) : Nat :=
  x.admission.rank + x.runner.rank + x.stop.rank +
    (if x.core.stopCause = none then 5 else 0) + 2 * x.reports + x.announcements

variable {x y : Execution} {label : Label} {effect : Effect}

/-- Every move but a new report brings the execution closer to its end. -/
theorem Moved.rank_lt (moved : Moved x label effect y) (sound : x.Sound)
    (quiet : label ≠ .report) : y.rank < x.rank := by
  cases moved with
  | report => exact absurd rfl quiet
  | insert at_ | refuse _ at_ =>
    have prepared := (sound.inserting at_).2
    simp only [rank, at_, prepared, Admission.rank, Runner.rank]
    omega
  | launch at_ lane | abandon _ at_ lane =>
    have prepared := sound.direct lane (by rw [at_]; rfl)
    simp only [rank, at_, prepared, Admission.rank, Runner.rank]
    omega
  | rollBack _ at_ _ queued =>
    simp only [rank, at_, queued, Admission.rank, Runner.rank]
    omega
  | claim core at_ claimed =>
    obtain ⟨-, unstopped, rfl⟩ := CoreState.claimStart_eq_some.1 claimed
    simp only [rank, at_, Runner.rank]
    omega
  | commit exit committed at_ written | commitOver exit committed at_ written =>
    have kept : committed.core.stopCause = x.core.stopCause := by
      unfold CoreState.commit at written
      split at written
      · cases written
      · cases written
        rfl
    simp only [rank, at_, kept, Runner.rank]
    omega
  | requestStop cause core seen accepted =>
    obtain ⟨-, before, -, after⟩ := terminal_of_requestStop accepted
    simp only [rank, before, after, Stop.rank, reduceCtorEq, if_true, if_false]
    omega
  | stopUnset hook at_ | announceStop hook at_ =>
    have emitted := Stop.rank_emitted hook
    have before : 2 ≤ x.stop.rank := by
      rw [at_]
      simp [Stop.rank]
    simp only [rank]
    omega
  | takeHook at_ | stopSet _ at_ | hookMissed at_ =>
    simp only [rank, at_, Stop.rank]
    omega
  | hook at_ queued =>
    simp only [rank, at_, queued, Stop.rank, Runner.rank]
    omega
  | swap at_ | enter at_ | reject _ at_ | announce at_ | accept at_ | clear _ at_ | missed _ at_
  | dropped _ at_ =>
    simp only [rank, at_, Admission.rank]
    omega
  | reportSet pending | reportUnset pending | sendReport pending =>
    simp only [rank]
    omega
  | take at_ | drain at_ | start at_ | unclaimed at_ | loadSet at_ | loadUnset at_
  | announceStart at_ | finishBody _ at_ | loseSpawned at_ | loseWorking at_ | lost _ at_
  | discard _ at_ | unwind _ at_ | publish _ at_ | commitSet _ at_ | commitUnset _ at_
  | leave _ at_ | record _ at_ | close _ at_ =>
    simp only [rank, at_, Runner.rank]
    omega

theorem rank_take (queued : x.runner = .queued) : x.take.rank + 2 = x.rank := by
  have before : x.runner.rank = 16 := by
    rw [queued]
    rfl
  change x.admission.rank + 14 + x.stop.rank + (if x.core.stopCause = none then 5 else 0) +
    2 * x.reports + x.announcements + 2 = x.rank
  rw [rank, before]
  omega

/-- The admission call has answered, and no stop and no report is under way. -/
structure Answered (x : Execution) : Prop where
  answered : ∃ error, x.admission = .returned error
  stop : x.stop = .idle ∨ x.stop = .done
  reports : x.reports = 0
  announcements : x.announcements = 0

/-- What the lane of an execution says about how it came to be where it is. -/
structure Placed (x : Execution) : Prop where
  prepared : x.runner = .prepared →
    x.admission = .inserting ∨ x.lane = none ∧ x.admission.holdsStart = true
  dropping : ∀ error, x.admission = .dropping error → x.runner.isDrained = true
  unarmed : x.lane = none → x.queuedCancelHook = false
  unhooked : x.lane = none →
    x.stop ≠ .loading true ∧ x.stop ≠ .announcing true ∧ x.stop ≠ .hooking

theorem Placed.kept (placed : x.Placed) (moved : Moved x label effect y) : y.Placed := by
  have prepared := placed.prepared
  have dropping := placed.dropping
  have unarmed := placed.unarmed
  have unhooked := placed.unhooked
  constructor
  case prepared =>
    cases moved <;> first
      | exact prepared
      | (intro absurd; cases absurd)
      | simp_all [Admission.holdsStart]
  case dropping =>
    intro error at_
    cases moved with
    | refuse | abandon | rollBack => rfl
    | insert | swap | enter | reject | announce | accept | launch | clear | missed | dropped =>
      cases at_
    | commitOver exit committed runner written drops =>
      -- a start that was dropped unpolled proposes an exit that owns nothing
      have drained := dropping error at_
      rw [runner] at drained
      simp [Runner.isDrained, ownsUserValue_of_drops written drops] at drained
    | commit | lost | publish | commitSet | commitUnset | leave | record | close => rfl
    | _ =>
      have drained := dropping error at_
      first
        | exact drained
        | (rw [‹x.runner = _›] at drained
           cases drained)
  case unarmed => cases moved <;> first | exact unarmed | exact fun _ => rfl
  case unhooked =>
    cases moved with
    | requestStop => exact fun _ => by simp
    | takeHook at_ =>
      intro direct
      simp [unarmed direct]
    | stopSet hook at_ =>
      intro direct
      have silent := (unhooked direct).1
      rw [at_] at silent
      simpa using silent
    | stopUnset hook at_ =>
      intro direct
      have silent := (unhooked direct).1
      rw [at_] at silent
      cases hook <;> simp_all [Stop.emitted]
    | announceStop hook at_ =>
      intro direct
      have silent := (unhooked direct).2.1
      rw [at_] at silent
      cases hook <;> simp_all [Stop.emitted]
    | hook | hookMissed => exact fun _ => by simp
    | _ => exact unhooked

end Execution

theorem View.Fresh.placed {v : View} (fresh : v.Fresh) : v.execution.Placed := by
  cases fresh <;> constructor <;>
    simp [Execution.submitted, Execution.direct, Admission.holdsStart]

namespace LaneState

variable {config : LaneConfig} {state : LaneState}

/-- Nothing is queued or running, and no ordering key is counted. -/
structure Empty (state : LaneState) : Prop where
  queue : state.queue = []
  active : state.active = ∅
  running : state.running = 0
  activeOrderingKeys : state.activeOrderingKeys = ∅
  refcounts : ∀ key, key ∉ state.orderingKeyRefcounts

/-- A lane without an active execution is empty. -/
theorem Inv.empty (inv : Inv config state) (active : state.active = ∅) : state.Empty := by
  have unqueued : ∀ id, id ∉ state.entries := by
    intro id queued
    have member := inv.entries_active id queued
    rw [active] at member
    cases member
  have unheld : ∀ id, id ∉ state.runningOrderingKeys := by
    intro id held
    have member := (inv.keys_running id held).1
    rw [active] at member
    cases member
  constructor
  case queue =>
    exact List.eq_nil_iff_forall_not_mem.2 fun id at_ => unqueued id ((inv.queue.mem id).1 at_)
  case active => exact active
  case running =>
    have total := inv.running
    rw [active, Finset.card_empty] at total
    omega
  case activeOrderingKeys =>
    refine Finset.eq_empty_of_forall_notMem fun key held => ?_
    obtain ⟨id, found⟩ := (inv.keys_active key).1 held
    exact unheld id (AssocMap.mem_of_lookup found)
  case refcounts =>
    intro key counted
    obtain ⟨count, found⟩ := AssocMap.mem_iff_lookup.1 counted
    have positive := inv.refcounts.positive key count found
    have none_held : holders state.entries state.runningOrderingKeys key = 0 := by
      unfold holders
      rw [AssocMap.count_eq_zero _ unqueued, AssocMap.count_eq_zero _ unheld]
    rw [inv.refcounts.lookup found] at none_held
    omega

theorem Dispatches.eq_of_nil {ids : List ExecutionId} {after : LaneState}
    (run : Dispatches config state ids after) (none : ids = []) : after = state := by
  cases run with
  | refl => rfl
  | tail _ _ => exact (List.append_ne_nil_of_right_ne_nil _ (by simp) none).elim

/-- A pass that takes nothing leaves the lane as it was. -/
theorem Inv.takeStartable_eq (inv : Inv config state)
    (idle : (LaneState.takeStartable config state).starts = []) :
    LaneState.takeStartable config state = ⟨state, [], []⟩ ∧ dispatchOne config state = .idle := by
  have same := inv.dispatches.eq_of_nil idle
  have stuck := inv.takeStartable_idle
  rw [same] at stuck
  refine ⟨?_, stuck⟩
  unfold LaneState.takeStartable takeLoop
  rw [stuck]

/-- A lane that runs nothing and starts nothing has nothing queued. -/
theorem Inv.entries_of_idle (inv : Inv config state) (idle : dispatchOne config state = .idle)
    (none : state.running = 0) (id : ExecutionId) : id ∉ state.entries := by
  intro queued
  have running : state.keyedQueue.running = ∅ := by
    rw [← Finset.card_eq_zero, inv.card_running, none]
  have waiting := (inv.queue_saturated idle).waiting_eq_nil config.concurrency_pos running
  obtain ⟨entry, found⟩ := AssocMap.mem_iff_lookup.1 queued
  have job := inv.job_mem found
  rw [waiting] at job
  cases job

end LaneState

/-! ## The steps that are left -/

/-- The actions that ask for nothing new: no submission, no report of user code, no close. -/
def ExecutorAction.settles : ExecutorAction → Bool
  | .submit .. | .spawn .. | .closeAdmission | .requestClose _ | .dispatcherStopped _
  | .newWaitingProducer _ | .finishWaitingProducer .. | .report .. => false
  | .advanceAdmission _ | .dispatch _ | .start _ | .monitor _ | .run _ | .unwind _
  | .finishBody .. | .loseRunner _ | .loadReport _ | .sendReport _ | .requestStop ..
  | .advanceStop _ => true

/-- The execution the action moves, if it moves exactly one. -/
def ExecutorAction.moves : ExecutorAction → Option ExecutionId
  | .advanceAdmission id | .start id | .run id | .unwind id | .finishBody id _ | .loseRunner id
  | .loadReport id | .sendReport id | .requestStop id _ | .advanceStop id => some id
  | _ => none

namespace Executor

/-- `1` while a monitor of the execution has to run. -/
def due (s : Executor) (i : ExecutionId) (x : Execution) : Nat :=
  x.lane.elim 0 fun lane => if i ∈ (s.lanes lane).monitors then 1 else 0

def rankOf (s : Executor) (i : ExecutionId) : Nat :=
  (s.executions i).elim 0 fun x => x.rank + s.due i x

/-- Sections left of the executions in `ids`. -/
def rank (ids : Finset ExecutionId) (s : Executor) : Nat := ∑ i ∈ ids, s.rankOf i

/-- Every execution is one of `ids`. -/
def Within (ids : Finset ExecutionId) (s : Executor) : Prop :=
  ∀ i x, s.executions i = some x → i ∈ ids

variable {config : ExecutorConfig} {s t : Executor} {i j : ExecutionId} {x y : Execution}
  {action : ExecutorAction} {lane : LaneId} {ids : Finset ExecutionId}

theorem rankOf_of_found (found : s.executions i = some x) : s.rankOf i = x.rank + s.due i x := by
  rw [rankOf, found]
  rfl

theorem due_le_one : s.due i x ≤ 1 := by
  unfold due
  cases x.lane with
  | none => exact Nat.zero_le 1
  | some lane =>
    change (if _ then 1 else 0) ≤ 1
    split <;> omega

/-- The monitors of the execution's own lane decide. -/
theorem due_congr (place : y.lane = x.lane)
    (same : ∀ lane, x.lane = some lane →
      (i ∈ (t.lanes lane).monitors ↔ i ∈ (s.lanes lane).monitors)) :
    t.due i y = s.due i x := by
  unfold due
  rw [place]
  cases own : x.lane with
  | none => rfl
  | some lane => exact if_congr (same lane own) rfl rfl

theorem exists_within {ok : Executor → ExecutorAction → Prop}
    (run : (executor config).Reaches ok (executor config).init s) : ∃ ids, s.Within ids := by
  have both : s.Coupled config ∧ ∃ ids, s.Within ids := by
    refine run.invariant (I := fun s => s.Coupled config ∧ ∃ ids, s.Within ids)
      ⟨.init, ∅, fun i x absurd => by cases absurd⟩ ?_
    intro s t action inv _ step
    obtain ⟨coupled, ids, within⟩ := inv
    obtain ⟨after, changes⟩ := coupled.step step
    refine ⟨after, action.creates.toFinset ∪ ids, fun i y found => ?_⟩
    rw [Finset.mem_union]
    rcases changes i with ⟨same, -⟩ | ⟨-, creates, -, -⟩ | ⟨before, -, -, -⟩
    · exact Or.inr (within i y (same ▸ found))
    · exact Or.inl (by simp [creates])
    · exact Or.inr (within i _ (view_eq_some.1 before).1)
  exact both.2

/-! ### Actions that move one execution -/

/-- A move that is written back is seen. -/
theorem put_moved {label : Label} {effect : Effect} (sound : x.Sound)
    (moved : Moved x label effect y) (quiet : label ≠ .report) :
    (s.put i (y, effect)).executions i ≠ some x := by
  rw [put_executions, Pool.set_self]
  intro same
  have lower := moved.rank_lt sound quiet
  have kept : y = x := Option.some.inj same
  rw [kept] at lower
  exact Nat.lt_irrefl _ lower

theorem advanceAdmission_moves (sound : x.Sound) (step : s.advanceAdmission config i x = some t) :
    t.executions i ≠ some x := by
  unfold Executor.advanceAdmission at step
  split at step
  case h_1 lane at_ place =>
    obtain ⟨run, -, rfl⟩ := Option.map_eq_some_iff.1 step
    rw [put_executions, Pool.set_self]
    intro same
    have admission := congrArg Execution.admission (Option.some.inj same)
    rw [at_] at admission
    split at admission <;> cases admission
  case h_2 error lane at_ place =>
    cases step
    rw [rollBack, releaseAdmission_executions, put_executions, Pool.set_self]
    intro same
    have admission := congrArg Execution.admission (Option.some.inj same)
    rw [at_] at admission
    split at admission <;> cases admission
  case h_3 =>
    obtain ⟨⟨y, effect⟩, advanced, rfl⟩ := Option.map_eq_some_iff.1 step
    rw [releaseAdmission_executions]
    exact put_moved sound (Moved.of_advanceAdmission advanced) (by simp)

theorem advanceStop_moves (sound : x.Sound) (step : s.advanceStop i x = some t) :
    t.executions i ≠ some x := by
  unfold Executor.advanceStop at step
  split at step
  case h_1 lane at_ place =>
    cases step
    rw [runHook, put_executions, Pool.set_self]
    intro same
    have stop := congrArg Execution.stop (Option.some.inj same)
    rw [at_] at stop
    split at stop <;> cases stop
  case h_2 =>
    obtain ⟨⟨y, effect⟩, advanced, rfl⟩ := Option.map_eq_some_iff.1 step
    exact put_moved sound (Moved.of_advanceStop advanced) (by simp)

/-- An action that moves an execution does move it. -/
theorem executions_ne (sound : x.Sound) (moves : action.moves = some i)
    (step : s.move config i x action = some t) : t.executions i ≠ some x := by
  cases action with
  | advanceAdmission id =>
    cases moves
    exact advanceAdmission_moves sound step
  | advanceStop id =>
    cases moves
    exact advanceStop_moves sound step
  | start id =>
    obtain ⟨y, started, rfl⟩ := Option.map_eq_some_iff.1 step
    exact put_moved sound (Moved.of_start started) (by simp)
  | run id =>
    obtain ⟨⟨y, effect⟩, ran, rfl⟩ := Option.map_eq_some_iff.1 step
    exact put_moved sound (Moved.of_run ran) (by simp)
  | unwind id =>
    obtain ⟨y, unwound, rfl⟩ := Option.map_eq_some_iff.1 step
    exact put_moved sound (Moved.of_unwind unwound) (by simp)
  | finishBody id exit =>
    obtain ⟨y, finished, rfl⟩ := Option.map_eq_some_iff.1 step
    exact put_moved sound (Moved.of_body (Or.inl ⟨exit, finished⟩)) (by simp)
  | loseRunner id =>
    obtain ⟨y, lost, rfl⟩ := Option.map_eq_some_iff.1 step
    exact put_moved sound (Moved.of_body (Or.inr lost)) (by simp)
  | loadReport id =>
    obtain ⟨y, loaded, rfl⟩ := Option.map_eq_some_iff.1 step
    exact put_moved sound (Moved.of_loadReport loaded) (by simp)
  | sendReport id =>
    obtain ⟨⟨y, effect⟩, sent, rfl⟩ := Option.map_eq_some_iff.1 step
    exact put_moved sound (Moved.of_sendReport sent) (by simp)
  | requestStop id cause =>
    obtain ⟨y, requested, rfl⟩ := Option.map_eq_some_iff.1 step
    exact put_moved sound (Moved.of_requestStop requested) (by simp)
  | _ => cases moves

theorem step_of_moves (moves : action.moves = some i) :
    s.step config action = (s.executions i).bind fun x => s.move config i x action := by
  cases action <;> cases moves <;> rfl

/-- Only passes and monitors touch the monitors of a lane. -/
theorem monitors_of_moves (moves : action.moves = some i)
    (step : s.move config i x action = some t) :
    ∀ lane, (t.lanes lane).monitors = (s.lanes lane).monitors := by
  cases action with
  | advanceAdmission id =>
    cases moves
    simp only [Executor.move, Executor.advanceAdmission] at step
    split at step
    · obtain ⟨run, inserted, rfl⟩ := Option.map_eq_some_iff.1 step
      rw [put_lanes]
      refine setLane_forall (P := fun l run => run.monitors = (s.lanes l).monitors) ?_
        fun _ _ => rfl
      simp only [LaneRun.step] at inserted
      split at inserted
      · cases inserted
      · split at inserted <;> cases inserted <;> rfl
    · cases step
      rw [rollBack, releaseAdmission_lanes, put_lanes]
      exact setLane_forall (P := fun l run => run.monitors = (s.lanes l).monitors) rfl
        fun _ _ => rfl
    · obtain ⟨moved, -, rfl⟩ := Option.map_eq_some_iff.1 step
      rw [releaseAdmission_lanes, put_lanes]
      exact fun _ => rfl
  | advanceStop id =>
    cases moves
    simp only [Executor.move, Executor.advanceStop] at step
    split at step
    · cases step
      rw [runHook, put_lanes]
      exact setLane_forall (P := fun l run => run.monitors = (s.lanes l).monitors) rfl
        fun _ _ => rfl
    · obtain ⟨moved, -, rfl⟩ := Option.map_eq_some_iff.1 step
      rw [put_lanes]
      exact fun _ => rfl
  | start id | run id | unwind id | finishBody id exit | loseRunner id | loadReport id
  | sendReport id | requestStop id cause =>
    obtain ⟨y, -, rfl⟩ := Option.map_eq_some_iff.1 step
    rw [put_lanes]
    exact fun _ => rfl
  | _ => cases moves

/-- The move is one of the execution's own, and no new report. -/
theorem of_moves {label : Label} (of : label.Of config s action j)
    (moves : action.moves = some i) : j = i ∧ label ≠ .report := by
  cases label with
  | admission refused =>
    obtain ⟨rfl, -⟩ := of
    exact ⟨Option.some.inj moves, by simp⟩
  | start | run | unwind | loadReport | sendReport | stop =>
    obtain rfl := of
    exact ⟨Option.some.inj moves, by simp⟩
  | body =>
    rcases of with rfl | ⟨exit, rfl⟩ <;> exact ⟨Option.some.inj moves, by simp⟩
  | requestStop =>
    obtain ⟨cause, rfl⟩ := of
    exact ⟨Option.some.inj moves, by simp⟩
  | report =>
    obtain ⟨next, rfl⟩ := of
    cases moves
  | take =>
    obtain ⟨lane, rfl, -⟩ := of
    cases moves
  | drain =>
    obtain ⟨lane, rfl⟩ := of
    cases moves

/-- The step brings `i` closer to its end and nothing else farther from it. -/
def Lowers (s t : Executor) (i : ExecutionId) : Prop :=
  t.rankOf i < s.rankOf i ∧ ∀ j, t.rankOf j ≤ s.rankOf j

theorem lowers_of_moves (coupled : s.Coupled config) (moves : action.moves = some i)
    (step : s.step config action = some t) : Lowers s t i := by
  have whole := step
  rw [step_of_moves moves] at step
  obtain ⟨x, found, moved⟩ := Option.bind_eq_some_iff.1 step
  have changed := executions_ne (coupled.sound i x found) moves moved
  have monitors := monitors_of_moves moves moved
  have changes := (coupled.step whole).2
  have lower : t.rankOf i < s.rankOf i := by
    rcases changes i with ⟨same, -⟩ | ⟨-, -, absent, -⟩ | ⟨before, step_, of, after⟩
    · exact (changed (same.trans found)).elim
    · rw [absent] at found
      cases found
    · cases (view_eq_some.1 before).1.symm.trans found
      have here := (view_eq_some.1 after).1
      rw [View.after_execution] at here
      have closer := step_.rank_lt (coupled.sound i _ found) (of_moves of moves).2
      have dues := due_congr (s := s) (t := t) (i := i) step_.lane fun lane _ => by rw [monitors]
      rw [rankOf_of_found found, rankOf_of_found here, dues]
      omega
  refine ⟨lower, fun j => ?_⟩
  by_cases own : j = i
  · exact own ▸ Nat.le_of_lt lower
  · rcases changes j with ⟨same, -⟩ | ⟨-, creates, -, -⟩ | ⟨-, -, of, -⟩
    · refine Nat.le_of_eq ?_
      cases held : s.executions j with
      | none => simp [rankOf, same, held]
      | some z =>
        rw [rankOf_of_found held, rankOf_of_found (same.trans held)]
        exact congrArg _ (due_congr rfl fun lane _ => by rw [monitors])
    · cases action <;> cases moves <;> cases creates
    · exact (own (of_moves of moves).1).elim

/-! ### Passes and monitors -/

theorem lowers_of_monitor (step : s.step config (.monitor i) = some t) : Lowers s t i := by
  obtain ⟨x, found, finished⟩ := Option.bind_eq_some_iff.1 step
  simp only [Executor.move, Executor.monitor] at finished
  split at finished
  case h_2 => cases finished
  rename_i lane place
  split at finished
  case isFalse => cases finished
  obtain ⟨run, ended, rfl⟩ := Option.map_eq_some_iff.1 finished
  obtain ⟨monitored, eq⟩ := Option.ite_none_right_eq_some.1 ended
  have monitors : run.monitors = (s.lanes lane).monitors.erase i := by
    rw [← Option.some.inj eq]
  -- one monitor less in the lane of `i`
  have erased : ∀ j, j ≠ i → ∀ l, (j ∈ ((s.setLane lane run).lanes l).monitors ↔
      j ∈ (s.lanes l).monitors) := by
    intro j other
    refine setLane_forall (P := fun l run => j ∈ run.monitors ↔ j ∈ (s.lanes l).monitors) ?_
      fun _ _ => Iff.rfl
    rw [monitors, Finset.mem_erase]
    exact and_iff_right other
  have lower : (s.setLane lane run).rankOf i < s.rankOf i := by
    have before : s.due i x = 1 := by
      unfold due
      rw [place]
      exact if_pos monitored
    have after : (s.setLane lane run).due i x = 0 := by
      unfold due
      rw [place]
      refine if_neg ?_
      rw [setLane_self, monitors]
      exact Finset.notMem_erase i _
    have kept : (s.setLane lane run).executions i = some x := found
    rw [rankOf_of_found found, rankOf_of_found kept, before, after]
    omega
  refine ⟨lower, fun j => ?_⟩
  by_cases own : j = i
  · exact own ▸ Nat.le_of_lt lower
  · refine Nat.le_of_eq ?_
    have kept : (s.setLane lane run).executions j = s.executions j := rfl
    cases held : s.executions j with
    | none => simp [rankOf, kept, held]
    | some z =>
      rw [rankOf_of_found held, rankOf_of_found (kept.trans held)]
      exact congrArg _ (due_congr rfl fun l _ => erased j own l)

/-- A pass that takes nothing changes nothing. -/
theorem dispatch_eq_self (coupled : s.Coupled config)
    (idle : ((s.lanes lane).lane.takeStartable (config.lanes lane)).starts = []) :
    s.dispatch config lane = s := by
  have same := ((coupled.laneInv lane).lane.takeStartable_eq idle).1
  have run : (s.lanes lane).takeStartable (config.lanes lane) = s.lanes lane := by
    simp [LaneRun.takeStartable, same]
  simp only [Executor.dispatch, run, idle, Executor.setLane, Function.update_eq_self,
    List.not_mem_nil, if_false]

theorem lowers_of_dispatch (coupled : s.Coupled config)
    (taken : i ∈ ((s.lanes lane).lane.takeStartable (config.lanes lane)).starts) :
    Lowers s (s.dispatch config lane) i := by
  have loop := (coupled.laneInv lane).lane.takeStartable
  have lower : ∀ j ∈ ((s.lanes lane).lane.takeStartable (config.lanes lane)).starts,
      (s.dispatch config lane).rankOf j < s.rankOf j := by
    intro j starts
    obtain ⟨x, found, place, queued⟩ :=
      ((coupled.agrees lane).entries j).1 (loop.started j starts)
    have after : (s.dispatch config lane).executions j = some x.take := by
      simp [Executor.dispatch, starts, found]
    have closer := Execution.rank_take queued
    have dues : (s.dispatch config lane).due j x.take ≤ 1 := due_le_one
    rw [rankOf_of_found found, rankOf_of_found after]
    omega
  refine ⟨lower i taken, fun j => ?_⟩
  by_cases starts : j ∈ ((s.lanes lane).lane.takeStartable (config.lanes lane)).starts
  · exact Nat.le_of_lt (lower j starts)
  · refine Nat.le_of_eq ?_
    have kept : (s.dispatch config lane).executions j = s.executions j := by
      simp [Executor.dispatch, starts]
    have monitors : ∀ l, (j ∈ ((s.dispatch config lane).lanes l).monitors ↔
        j ∈ (s.lanes l).monitors) := by
      refine setLane_forall (P := fun l run => j ∈ run.monitors ↔ j ∈ (s.lanes l).monitors) ?_
        fun _ _ => Iff.rfl
      simp [LaneRun.takeStartable, starts]
    cases held : s.executions j with
    | none => simp [rankOf, kept, held]
    | some z =>
      rw [rankOf_of_found held, rankOf_of_found (kept.trans held)]
      exact congrArg _ (due_congr rfl fun l _ => monitors l)

theorem Lowers.irrefl (lowers : Lowers s s i) : False := Nat.lt_irrefl _ lowers.1

theorem Lowers.rank_lt (lowers : Lowers s t i) (member : i ∈ ids) : t.rank ids < s.rank ids :=
  Finset.sum_lt_sum (fun j _ => lowers.2 j) ⟨i, member, lowers.1⟩

/-- Every step that is left, and changes something, brings some execution closer to its end. -/
theorem exists_lowers (coupled : s.Coupled config) (settles : action.settles = true)
    (step : s.step config action = some t) (changed : t ≠ s) :
    ∃ i x, s.executions i = some x ∧ Lowers s t i := by
  cases action with
  | dispatch lane =>
    obtain rfl : s.dispatch config lane = t := Option.some.inj step
    cases starts : ((s.lanes lane).lane.takeStartable (config.lanes lane)).starts with
    | nil => exact (changed (dispatch_eq_self coupled starts)).elim
    | cons i rest =>
      have taken : i ∈ ((s.lanes lane).lane.takeStartable (config.lanes lane)).starts := by
        simp [starts]
      have queued := (coupled.laneInv lane).lane.takeStartable.started i taken
      obtain ⟨x, found, -⟩ := ((coupled.agrees lane).entries i).1 queued
      exact ⟨i, x, found, lowers_of_dispatch coupled taken⟩
  | monitor id =>
    obtain ⟨x, found, -⟩ := Option.bind_eq_some_iff.1 step
    exact ⟨id, x, found, lowers_of_monitor step⟩
  | advanceAdmission id | start id | run id | unwind id | finishBody id exit | loseRunner id
  | loadReport id | sendReport id | requestStop id cause | advanceStop id =>
    obtain ⟨x, found, -⟩ := Option.bind_eq_some_iff.1 step
    exact ⟨id, x, found, lowers_of_moves coupled rfl step⟩
  | _ => cases settles

theorem creates_of_settles (settles : action.settles = true) : action.creates = none := by
  cases action <;> first | rfl | cases settles

theorem Within.step (within : s.Within ids) (coupled : s.Coupled config)
    (settles : action.settles = true) (step : s.step config action = some t) :
    t.Within ids := by
  intro i y found
  rcases (coupled.step step).2 i with ⟨same, -⟩ | ⟨-, creates, -, -⟩ | ⟨before, -, -, -⟩
  · exact within i y (same ▸ found)
  · rw [creates_of_settles settles] at creates
    cases creates
  · exact within i _ (view_eq_some.1 before).1

theorem variant (config : ExecutorConfig) (ids : Finset ExecutionId) :
    (executor config).Variant (fun action => action.settles = true)
      (fun s => (executor config).Reachable s ∧ s.Within ids) (rank ids) where
  kept := by
    intro s t action inv settles step
    exact ⟨inv.1.tail trivial step, inv.2.step (.of_reaches inv.1) settles step⟩
  lowered := by
    intro s t action inv settles step changed
    obtain ⟨i, x, found, lowers⟩ := exists_lowers (.of_reaches inv.1) settles step changed
    exact lowers.rank_lt (inv.2 i x found)

/-! ## What is left at rest -/

theorem placed_of_reaches {ok : Executor → ExecutorAction → Prop}
    (run : (executor config).Reaches ok (executor config).init s) :
    ∀ i x, s.executions i = some x → x.Placed := by
  have views := view_invariant (P := fun v => v.execution.Placed) run (fun v fresh => fresh.placed)
    fun {_ _ _ v _ effect y} _ _ _ _ moved placed => by
      rw [View.after_execution]
      exact placed.kept moved
  intro i x found
  exact views i ⟨x, decide (i ∈ s.active), s.finishes.count i, s.eventsOf i⟩
    (view_eq_some.2 ⟨found, rfl, rfl, rfl⟩)

/-- An admission call that cannot go on has answered, or waits for its start to be dropped. -/
theorem admission_of_stuck (coupled : s.Coupled config) (found : s.executions i = some x)
    (stuck : s.advanceAdmission config i x = none) :
    (∃ error, x.admission = .returned error) ∨
      ∃ error, x.admission = .dropping error ∧ x.runner ≠ .finished := by
  have sound := coupled.sound i x found
  unfold Executor.advanceAdmission at stuck
  split at stuck
  case h_1 lane at_ place =>
    -- an id is issued to the lane by this very section
    rw [Executor.insertPrepared, Option.map_eq_none_iff] at stuck
    simp only [LaneRun.step] at stuck
    split at stuck
    · rename_i issued
      obtain ⟨z, again, -, inserted⟩ := (coupled.agrees lane).issued i issued
      cases again.symm.trans found
      exact (inserted at_).elim
    · split at stuck <;> cases stuck
  case h_2 => cases stuck
  case h_3 notInserting notRollback =>
    rw [Option.map_eq_none_iff] at stuck
    unfold Execution.advanceAdmission at stuck
    split at stuck
    case h_2 => split at stuck <;> cases stuck
    case h_4 => split at stuck <;> cases stuck
    case h_6 error at_ =>
      split at stuck
      · rename_i lane place
        exact (notRollback error lane at_ place).elim
      · cases stuck
    case h_7 error at_ =>
      split at stuck
      · cases stuck
      · rename_i waits
        exact Or.inr ⟨error, at_, waits⟩
    case h_8 at_ =>
      obtain ⟨lane, place⟩ := Option.ne_none_iff_exists'.1 (sound.inserting at_).1
      exact (notInserting lane at_ place).elim
    case h_9 error at_ => exact Or.inl ⟨error, at_⟩
    all_goals cases stuck

theorem runner_of_stuck {exit : Exit} (run : x.run = none) (start : x.start = none)
    (body : x.finishBody exit = none) :
    x.runner = .prepared ∨ x.runner = .queued ∨ x.runner = .finished ∨ x.runner = .unwound := by
  unfold Execution.run at run
  split at run
  case h_1 | h_2 | h_7 => split at run <;> cases run
  case h_4 =>
    split at run
    · split at run <;> cases run
    · cases run
  case h_11 at_ => exact Or.inl at_
  case h_12 at_ => exact Or.inr (Or.inl at_)
  case h_13 at_ =>
    unfold Execution.start at start
    rw [if_pos at_] at start
    cases start
  case h_14 at_ =>
    unfold Execution.finishBody at body
    rw [if_pos at_] at body
    cases body
  case h_15 at_ => exact Or.inr (Or.inr (Or.inl at_))
  case h_16 at_ => exact Or.inr (Or.inr (Or.inr at_))
  all_goals cases run

theorem stop_of_stuck (placed : x.Placed) (stuck : s.advanceStop i x = none) :
    x.stop = .idle ∨ x.stop = .done := by
  unfold Executor.advanceStop at stuck
  split at stuck
  case h_1 => cases stuck
  case h_2 notHooking =>
    rw [Option.map_eq_none_iff] at stuck
    unfold Execution.advanceStop at stuck
    split at stuck
    case h_2 => split at stuck <;> cases stuck
    case h_4 at_ => exact Or.inl at_
    case h_5 at_ =>
      cases place : x.lane with
      | none => exact ((placed.unhooked place).2.2 at_).elim
      | some lane => exact (notHooking lane at_ place).elim
    case h_6 at_ => exact Or.inr at_
    all_goals cases stuck

/-! ### The admission mutex -/

/-- The holder of the admission mutex has no answer yet. -/
def Held (s : Executor) : Prop :=
  ∀ i, s.admitting = some i →
    ∃ x, s.executions i = some x ∧ x.lane ≠ none ∧ ∀ error, x.admission ≠ .returned error

/-- An answer to a lane's submission gives the mutex back. -/
theorem admitting_of_answered (step : s.advanceAdmission config i x = some t)
    (place : x.lane ≠ none) (here : t.executions i = some y) {error : Option SpawnError}
    (answered : y.admission = .returned error) : t.admitting = none := by
  have given : ∀ {u : Executor} {z : Execution}, z.lane ≠ none → z.admission = .returned error →
      (u.releaseAdmission z).admitting = none := by
    intro u z own answered
    obtain ⟨lane, own⟩ := Option.ne_none_iff_exists'.1 own
    simp [releaseAdmission, own, answered]
  unfold Executor.advanceAdmission at step
  split at step
  case h_1 lane at_ _ =>
    obtain ⟨run, -, rfl⟩ := Option.map_eq_some_iff.1 step
    rw [put_executions, Pool.set_self] at here
    obtain rfl := Option.some.inj here
    split at answered <;> cases answered
  case h_2 =>
    cases step
    rw [rollBack, releaseAdmission_executions, put_executions, Pool.set_self] at here
    obtain rfl := Option.some.inj here
    refine given ?_ answered
    split <;> exact place
  case h_3 =>
    obtain ⟨⟨z, effect⟩, advanced, rfl⟩ := Option.map_eq_some_iff.1 step
    rw [releaseAdmission_executions, put_executions, Pool.set_self] at here
    obtain rfl := Option.some.inj here
    exact given ((Moved.of_advanceAdmission advanced).lane ▸ place) answered

theorem Held.step (held : s.Held) (coupled : s.Coupled config)
    (step : s.step config action = some t) : t.Held := by
  have changes := (coupled.step step).2
  -- whoever held the mutex still does, unless its own call is the one that goes on
  have still : (∀ i, action ≠ .advanceAdmission i) → t.admitting = s.admitting → t.Held := by
    intro other same i holds
    rw [same] at holds
    obtain ⟨x, found, place, unanswered⟩ := held i holds
    rcases changes i with ⟨kept, -⟩ | ⟨-, -, absent, -⟩ | ⟨before, moved, of, after⟩
    · exact ⟨x, kept.trans found, place, unanswered⟩
    · rw [absent] at found
      cases found
    · cases (view_eq_some.1 before).1.symm.trans found
      have here := (view_eq_some.1 after).1
      rw [View.after_execution] at here
      refine ⟨_, here, moved.lane ▸ place, ?_⟩
      rw [moved.admission fun r eq => by
        subst eq
        exact other i of.1]
      exact unanswered
  cases action with
  | advanceAdmission id =>
    obtain ⟨x, found, advanced⟩ := Option.bind_eq_some_iff.1 step
    obtain ⟨-, others, mutex⟩ := admitting_of_advanceAdmission advanced
    intro i holds
    rcases mutex with same | ⟨free, -⟩
    · rw [same] at holds
      obtain ⟨z, before, place, unanswered⟩ := held i holds
      by_cases own : i = id
      · subst own
        cases before.symm.trans found
        rcases changes i with ⟨kept, -⟩ | ⟨-, -, absent, -⟩ | ⟨-, -, -, after⟩
        · exact ⟨x, kept.trans found, place, unanswered⟩
        · rw [absent] at found
          cases found
        · have here := (view_eq_some.1 after).1
          refine ⟨_, here, ?_, fun error answered => ?_⟩
          · rw [(changes i).lane_eq found here]
            exact place
          · have free := admitting_of_answered advanced place here answered
            rw [same, holds] at free
            cases free
      · exact ⟨z, (others i own).trans before, place, unanswered⟩
    · rw [free] at holds
      cases holds
  | submit id lane options ticket tagTooLong =>
    simp only [Executor.step] at step
    split at step
    · split at step
      · cases step
      · cases step
        intro i holds
        obtain rfl := Option.some.inj holds
        refine ⟨_, Pool.set_self, ?_, ?_⟩ <;> simp [Execution.submitted]
    · cases step
  | spawn id tagTooLong =>
    refine still (by simp) ?_
    simp only [Executor.step] at step
    split at step
    · cases step
      rfl
    · cases step
  | closeAdmission =>
    refine still (by simp) ?_
    simp only [Executor.step] at step
    split at step
    · cases step
      rfl
    · cases step
  | dispatch lane | dispatcherStopped lane | requestClose lane =>
    refine still (by simp) ?_
    cases step
    rfl
  | newWaitingProducer lane | finishWaitingProducer lane ticket =>
    refine still (by simp) ?_
    obtain ⟨run, -, rfl⟩ := Option.map_eq_some_iff.1 step
    rfl
  | monitor id =>
    refine still (by simp) ?_
    obtain ⟨x, -, finished⟩ := Option.bind_eq_some_iff.1 step
    simp only [Executor.move, Executor.monitor] at finished
    split at finished
    · split at finished
      · obtain ⟨run, -, rfl⟩ := Option.map_eq_some_iff.1 finished
        rfl
      · cases finished
    · cases finished
  | advanceStop id =>
    refine still (by simp) ?_
    obtain ⟨x, -, advanced⟩ := Option.bind_eq_some_iff.1 step
    simp only [Executor.move, Executor.advanceStop] at advanced
    split at advanced
    · cases advanced
      exact put_admitting _
    · obtain ⟨moved, -, rfl⟩ := Option.map_eq_some_iff.1 advanced
      exact put_admitting _
  | start id | run id | unwind id | finishBody id exit | loseRunner id | report id next
  | loadReport id | sendReport id | requestStop id cause =>
    refine still (by simp) ?_
    obtain ⟨x, -, moved⟩ := Option.bind_eq_some_iff.1 step
    obtain ⟨y, -, rfl⟩ := Option.map_eq_some_iff.1 moved
    exact put_admitting _

theorem Held.of_reaches {ok : Executor → ExecutorAction → Prop}
    (run : (executor config).Reaches ok (executor config).init s) : s.Held := by
  have both : s.Coupled config ∧ s.Held := by
    refine run.invariant (I := fun s => s.Coupled config ∧ s.Held)
      ⟨.init, fun i absurd => by cases absurd⟩ ?_
    intro s t action inv _ step
    exact ⟨(inv.1.step step).1, inv.2.step inv.1 step⟩
  exact both.2

/-! ### The steps that are not enabled -/

/-- The commit of an execution of the lane was left by unwinding: the execution is terminal, its
exit is never published, and it keeps its place in the lane. -/
def Unwound (s : Executor) (lane : LaneId) : Prop :=
  ∃ i x, s.executions i = some x ∧ x.lane = some lane ∧ x.runner = .unwound

/-- The execution has its exit and its runner is gone, or it is queued in a lane where a commit
unwound. -/
def Ended (s : Executor) (x : Execution) : Prop :=
  (x.runner = .finished ∨ x.runner = .unwound) ∧ x.core.terminal.isSome = true ∨
    x.runner = .queued ∧ ∃ lane, x.lane = some lane ∧ s.Unwound lane

section Rest

variable (rest : (executor config).AtRest (fun action => action.settles = true) s)
  (coupled : s.Coupled config)

include rest coupled

/-- What would move an execution is not enabled. -/
theorem move_eq_none (action : ExecutorAction) (found : s.executions i = some x)
    (moves : action.moves = some i) (settles : action.settles = true) :
    s.move config i x action = none := by
  cases moved : s.move config i x action with
  | none => rfl
  | some t =>
    have step : s.step config action = some t := by
      rw [step_of_moves moves, found]
      exact moved
    have same := rest action t settles step
    have changed := executions_ne (coupled.sound i x found) moves moved
    rw [same] at changed
    exact (changed found).elim

theorem starts_eq_nil (lane : LaneId) :
    ((s.lanes lane).lane.takeStartable (config.lanes lane)).starts = [] := by
  refine List.eq_nil_iff_forall_not_mem.2 fun i taken => ?_
  have lowers := lowers_of_dispatch coupled taken
  rw [rest (.dispatch lane) _ rfl rfl] at lowers
  exact lowers.irrefl

theorem admission_at_rest (found : s.executions i = some x) :
    (∃ error, x.admission = .returned error) ∨
      ∃ error, x.admission = .dropping error ∧ x.runner ≠ .finished :=
  admission_of_stuck coupled found
    (move_eq_none rest coupled (.advanceAdmission i) found rfl rfl)

theorem runner_at_rest (placed : x.Placed) (found : s.executions i = some x) :
    x.runner = .queued ∨ x.runner = .finished ∨ x.runner = .unwound := by
  have run := move_eq_none rest coupled (.run i) found rfl rfl
  have start := move_eq_none rest coupled (.start i) found rfl rfl
  have body := move_eq_none rest coupled (.finishBody i .runnerCancelled) found rfl rfl
  refine (runner_of_stuck (Option.map_eq_none_iff.1 run) (Option.map_eq_none_iff.1 start)
    (Option.map_eq_none_iff.1 body)).resolve_left fun prepared => ?_
  -- a prepared runner is in the hands of a call that can go on
  rcases admission_at_rest rest coupled found with ⟨error, at_⟩ | ⟨error, at_, -⟩ <;>
    (have hands := placed.prepared prepared
     rw [at_] at hands
     simp [Admission.holdsStart] at hands)

theorem answered_at_rest (placed : x.Placed) (found : s.executions i = some x) : x.Answered := by
  have stop := move_eq_none rest coupled (.advanceStop i) found rfl rfl
  have load := move_eq_none rest coupled (.loadReport i) found rfl rfl
  have send := move_eq_none rest coupled (.sendReport i) found rfl rfl
  constructor
  case answered =>
    refine (admission_at_rest rest coupled found).resolve_right fun refused => ?_
    obtain ⟨error, at_, waits⟩ := refused
    have drained := placed.dropping error at_
    rcases runner_at_rest rest coupled placed found with runner | finished | runner
    · rw [runner] at drained
      cases drained
    · exact waits finished
    · rw [runner] at drained
      cases drained
  case stop => exact stop_of_stuck placed stop
  case reports =>
    by_contra pending
    have pending : 0 < x.reports := by omega
    rw [Executor.move, Option.map_eq_none_iff, Execution.loadReport, if_pos pending] at load
    split at load <;> cases load
  case announcements =>
    by_contra pending
    have pending : 0 < x.announcements := by omega
    rw [Executor.move, Option.map_eq_none_iff, Execution.sendReport, if_pos pending] at send
    cases send

/-- Only the monitors of executions whose commit unwound have not run. -/
theorem monitors_at_rest (placed : ∀ i x, s.executions i = some x → x.Placed) {lane : LaneId}
    (monitored : i ∈ (s.lanes lane).monitors) : s.Unwound lane := by
  obtain ⟨issued, unqueued⟩ := (coupled.laneInv lane).monitored i monitored
  obtain ⟨x, found, place, -⟩ := (coupled.agrees lane).issued i issued
  rcases runner_at_rest rest coupled (placed i x found) found with queued | finished | unwound
  · exact (unqueued (((coupled.agrees lane).entries_self found).2 ⟨place, queued⟩)).elim
  · have waited : x.waited = true := by simp [Execution.waited, finished]
    cases step : s.step config (.monitor i) with
    | none => simp [Executor.step, Executor.move, Executor.monitor, Executor.lane, LaneRun.step,
        found, place, waited, monitored] at step
    | some t =>
      have lowers := lowers_of_monitor step
      rw [rest (.monitor i) t rfl step] at lowers
      exact lowers.irrefl.elim
  · exact ⟨i, x, found, place, unwound⟩

theorem active_at_rest (placed : ∀ i x, s.executions i = some x → x.Placed) {lane : LaneId}
    (whole : ¬ s.Unwound lane) : (s.lanes lane).lane.active = ∅ := by
  have inv := coupled.laneInv lane
  -- whatever is active is queued, so nothing runs, and a pass would have taken the queued ones
  have queued : ∀ i ∈ (s.lanes lane).lane.active, i ∈ (s.lanes lane).lane.entries := fun i active =>
    (inv.covered i active).resolve_right fun monitored =>
      whole (monitors_at_rest rest coupled placed monitored)
  have running : (s.lanes lane).lane.running = 0 := by
    rw [← inv.lane.card_running, Finset.card_eq_zero]
    exact Finset.filter_eq_empty_iff.2 fun i active unqueued => unqueued (queued i active)
  have idle := (inv.lane.takeStartable_eq (starts_eq_nil rest coupled lane)).2
  refine Finset.eq_empty_of_forall_notMem fun i active => ?_
  exact inv.lane.entries_of_idle idle running i (queued i active)

theorem ended_at_rest (placed : ∀ i x, s.executions i = some x → x.Placed)
    (found : s.executions i = some x) : s.Ended x := by
  have sound := coupled.sound i x found
  rcases runner_at_rest rest coupled (placed i x found) found with queued | finished | unwound
  · cases place : x.lane with
    | none => exact ((sound.unqueued place).1 queued).elim
    | some lane =>
      refine Or.inr ⟨queued, lane, place, ?_⟩
      by_contra whole
      have entry := ((coupled.agrees lane).entries_self found).2 ⟨place, queued⟩
      have active := (coupled.laneInv lane).lane.entries_active i entry
      rw [active_at_rest rest coupled placed whole] at active
      cases active
  · exact Or.inl ⟨Or.inl finished, by rw [sound.terminal, finished]; rfl⟩
  · exact Or.inl ⟨Or.inr unwound, by rw [sound.terminal, unwound]; rfl⟩

end Rest

/-- Every call has answered and every execution has ended; a lane in which no commit unwound is
empty; and nobody holds the admission mutex. -/
structure Drained (s : Executor) : Prop where
  executions : ∀ i x, s.executions i = some x → x.Answered ∧ s.Ended x
  lanes : ∀ lane, ¬ s.Unwound lane → (s.lanes lane).lane.Empty ∧ (s.lanes lane).monitors = ∅
  admitting : s.admitting = none

theorem drained_of_rest (reached : (executor config).Reachable s)
    (rest : (executor config).AtRest (fun action => action.settles = true) s) : s.Drained := by
  have coupled : s.Coupled config := .of_reaches reached
  have placed := placed_of_reaches reached
  have answered : ∀ i x, s.executions i = some x → x.Answered := fun i x found =>
    answered_at_rest rest coupled (placed i x found) found
  constructor
  case executions =>
    exact fun i x found => ⟨answered i x found, ended_at_rest rest coupled placed found⟩
  case lanes =>
    intro lane whole
    refine ⟨(coupled.laneInv lane).lane.empty (active_at_rest rest coupled placed whole), ?_⟩
    exact Finset.eq_empty_of_forall_notMem fun i monitored =>
      whole (monitors_at_rest rest coupled placed monitored)
  case admitting =>
    cases holder : s.admitting with
    | none => rfl
    | some i =>
      obtain ⟨x, found, -, unanswered⟩ := Held.of_reaches reached i holder
      obtain ⟨error, returned⟩ := (answered i x found).answered
      exact (unanswered error returned).elim

end Executor

end BusyBeaver
