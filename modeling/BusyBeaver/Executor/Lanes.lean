import BusyBeaver.Executor.View
import BusyBeaver.Lane.Dispatches

/-!
# The executor seen from one lane

`Executor.LaneChange` lists what a step of the executor can do to the state of one lane,
with the execution it does it for.  Together with `Executor.Change` it says what a step
does to a lane and to the executions in it at once.
-/

namespace BusyBeaver

open Transition Execution

namespace Executor

/-- What a step of the executor makes of the state of `lane`. -/
inductive LaneChange (config : ExecutorConfig) (s : Executor) (lane : LaneId) :
    ExecutorAction → LaneState → Prop
  | same {action : ExecutorAction} : LaneChange config s lane action (s.lanes lane).lane
  | insert {i : ExecutionId} {x : Execution} {after : LaneState} :
    s.executions i = some x → x.lane = some lane → i ∉ (s.lanes lane).issued →
    (s.lanes lane).lane.insertPrepared (config.lanes lane) i x.options x.waiterTicket =
      .ok after → LaneChange config s lane (.advanceAdmission i) after
  | remove {action : ExecutorAction} {i : ExecutionId} {x : Execution} :
    s.executions i = some x → x.lane = some lane →
    (action = .advanceAdmission i ∧ ∃ error, x.admission = .rollback error) ∨
      action = .advanceStop i ∧ x.stop = .hooking →
    LaneChange config s lane action ((s.lanes lane).lane.removeQueued i).1
  | dispatch : LaneChange config s lane (.dispatch lane)
    ((s.lanes lane).lane.takeStartable (config.lanes lane)).state
  | finish {i : ExecutionId} {x : Execution} : s.executions i = some x → x.lane = some lane →
    x.waited = true → i ∈ (s.lanes lane).monitors →
    LaneChange config s lane (.monitor i) ((s.lanes lane).lane.executionFinished i).1
  | requestClose : LaneChange config s lane (.requestClose lane) (s.lanes lane).lane.requestClose
  | dispatcherStopped :
    LaneChange config s lane (.dispatcherStopped lane) (s.lanes lane).lane.dispatcherStopped
  | newWaitingProducer : LaneChange config s lane (.newWaitingProducer lane)
    ((s.lanes lane).lane.newWaitingProducer (config.lanes lane)).1
  | finishWaitingProducer {ticket : Nat} : ticket ∈ (s.lanes lane).producers →
    LaneChange config s lane (.finishWaitingProducer lane ticket)
      ((s.lanes lane).lane.finishWaitingProducer (config.lanes lane) ticket).1

variable {config : ExecutorConfig} {s t : Executor} {i : ExecutionId} {x y : Execution}
  {action : ExecutorAction} {lane : LaneId}

theorem LaneChange.of_lanes_eq (lanes : t.lanes = s.lanes) :
    LaneChange config s lane action (t.lanes lane).lane := by
  rw [lanes]
  exact .same

/-- A section of `lane` is nothing to the other lanes. -/
theorem LaneChange.setLane {run : LaneRun}
    (here : LaneChange config s lane action run.lane)
    (lanes : t.lanes = (s.setLane lane run).lanes) :
    ∀ other, LaneChange config s other action (t.lanes other).lane := by
  intro other
  rw [lanes]
  by_cases same : other = lane
  · subst same
    rw [setLane_self]
    exact here
  · rw [setLane_of_ne same]
    exact .same

@[simp] theorem releaseAdmission_lanes (s : Executor) (x : Execution) :
    (s.releaseAdmission x).lanes = s.lanes := by
  unfold releaseAdmission
  split <;> rfl

theorem LaneChange.of_advanceAdmission (found : s.executions i = some x)
    (step : s.advanceAdmission config i x = some t) :
    ∀ lane, LaneChange config s lane (.advanceAdmission i) (t.lanes lane).lane := by
  unfold Executor.advanceAdmission at step
  split at step
  case h_1 lane at_ place =>
    obtain ⟨run, inserted, rfl⟩ := Option.map_eq_some_iff.1 step
    suffices here : LaneChange config s lane (.advanceAdmission i) run.lane from
      here.setLane (put_lanes _)
    simp only [LaneRun.step] at inserted
    split at inserted
    · cases inserted
    · rename_i unissued
      cases answer : (s.lanes lane).lane.insertPrepared (config.lanes lane) i x.options
          x.waiterTicket with
      | error error =>
        rw [answer] at inserted
        cases inserted
        exact .same
      | ok after =>
        rw [answer] at inserted
        cases inserted
        exact .insert found place unissued answer
  case h_2 error lane at_ place =>
    cases step
    have here : LaneChange config s lane (.advanceAdmission i)
        ((s.lanes lane).removeQueued i).lane := .remove found place (Or.inl ⟨rfl, error, at_⟩)
    refine here.setLane ?_
    rw [rollBack, releaseAdmission_lanes, put_lanes]
  case h_3 =>
    obtain ⟨moved, -, rfl⟩ := Option.map_eq_some_iff.1 step
    intro lane
    exact .of_lanes_eq (by rw [releaseAdmission_lanes, put_lanes])

theorem LaneChange.of_advanceStop (found : s.executions i = some x)
    (step : s.advanceStop i x = some t) :
    ∀ lane, LaneChange config s lane (.advanceStop i) (t.lanes lane).lane := by
  unfold Executor.advanceStop at step
  split at step
  case h_1 lane at_ place =>
    cases step
    have here : LaneChange config s lane (.advanceStop i)
        ((s.lanes lane).removeQueued i).lane := .remove found place (Or.inr ⟨rfl, at_⟩)
    refine here.setLane ?_
    rw [runHook, put_lanes]
  case h_2 =>
    obtain ⟨moved, -, rfl⟩ := Option.map_eq_some_iff.1 step
    intro lane
    exact .of_lanes_eq (put_lanes _)

theorem LaneChange.of_monitor (found : s.executions i = some x)
    (step : s.monitor config i x = some t) :
    ∀ lane, LaneChange config s lane (.monitor i) (t.lanes lane).lane := by
  unfold Executor.monitor at step
  split at step
  · rename_i lane place
    split at step
    · rename_i waited
      obtain ⟨run, finished, rfl⟩ := Option.map_eq_some_iff.1 step
      suffices here : LaneChange config s lane (.monitor i) run.lane from here.setLane rfl
      simp only [LaneRun.step] at finished
      split at finished
      · rename_i monitored
        cases finished
        exact .finish found place waited monitored
      · cases finished
    · cases step
  · cases step

/-- **One step, seen from every lane.** -/
theorem lane_change (step : s.step config action = some t) :
    ∀ lane, LaneChange config s lane action (t.lanes lane).lane := by
  cases action with
  | submit id lane options ticket tagTooLong =>
    simp only [Executor.step] at step
    split at step
    · split at step
      · cases step
      · cases step
        exact fun _ => .same
    · cases step
  | spawn id tagTooLong =>
    simp only [Executor.step] at step
    split at step
    · cases step
      exact fun _ => .same
    · cases step
  | closeAdmission =>
    simp only [Executor.step] at step
    split at step
    · cases step
      exact fun _ => .same
    · cases step
  | dispatch lane =>
    cases step
    have here : LaneChange config s lane (.dispatch lane)
        ((s.lanes lane).takeStartable (config.lanes lane)).lane := .dispatch
    exact here.setLane rfl
  | dispatcherStopped lane =>
    cases step
    have here : LaneChange config s lane (.dispatcherStopped lane)
      { s.lanes lane with lane := (s.lanes lane).lane.dispatcherStopped }.lane := .dispatcherStopped
    exact here.setLane rfl
  | requestClose lane =>
    cases step
    have here : LaneChange config s lane (.requestClose lane)
      { s.lanes lane with lane := (s.lanes lane).lane.requestClose }.lane := .requestClose
    exact here.setLane rfl
  | newWaitingProducer lane =>
    obtain ⟨run, stepped, rfl⟩ := Option.map_eq_some_iff.1 step
    suffices here : LaneChange config s lane (.newWaitingProducer lane) run.lane from
      here.setLane rfl
    have made : run.lane = ((s.lanes lane).lane.newWaitingProducer (config.lanes lane)).1 := by
      simp only [LaneRun.step] at stepped
      split at stepped
      · rename_i answer
        cases stepped
        rw [answer]
      · rename_i answer
        cases stepped
        rw [answer]
    rw [made]
    exact .newWaitingProducer
  | finishWaitingProducer lane ticket =>
    obtain ⟨run, stepped, rfl⟩ := Option.map_eq_some_iff.1 step
    suffices here : LaneChange config s lane (.finishWaitingProducer lane ticket) run.lane from
      here.setLane rfl
    simp only [LaneRun.step] at stepped
    split at stepped
    · rename_i live
      cases stepped
      exact .finishWaitingProducer live
    · cases stepped
  | advanceAdmission id =>
    obtain ⟨x, found, moved⟩ := Option.bind_eq_some_iff.1 step
    exact LaneChange.of_advanceAdmission found moved
  | advanceStop id =>
    obtain ⟨x, found, moved⟩ := Option.bind_eq_some_iff.1 step
    exact LaneChange.of_advanceStop found moved
  | monitor id =>
    obtain ⟨x, found, moved⟩ := Option.bind_eq_some_iff.1 step
    exact LaneChange.of_monitor found moved
  | start id | run id | unwind id | finishBody id exit | loseRunner id | report id next
  | loadReport id | sendReport id | requestStop id cause =>
    obtain ⟨x, found, moved⟩ := Option.bind_eq_some_iff.1 step
    obtain ⟨y, -, rfl⟩ := Option.map_eq_some_iff.1 moved
    exact fun _ => .of_lanes_eq (put_lanes _)

end Executor

end BusyBeaver
