import BusyBeaver.Lib.History
import BusyBeaver.Lane.Refines
import BusyBeaver.Executor.Lanes

/-!
# The sections of one lane in a run of the executor

`Executor.laneAction` is the section of a lane that a step of the executor runs, if it runs
one.  Read off along a run they are a run of that lane, so what the lane refines and keeps
is known of every lane of the executor, with the moves of the abstract queue that its
sections make.
-/

namespace BusyBeaver

open Transition Execution KeyedQueue

namespace Executor

/-- The section of `lane` that the action runs. -/
def laneAction (lane : LaneId) (s : Executor) : ExecutorAction → Option LaneAction
  | .advanceAdmission id =>
    (s.executions id).bind fun x =>
      if x.lane = some lane then
        match x.admission with
        | .inserting => some (.insertPrepared id x.options x.waiterTicket)
        | .rollback _ => some (.removeQueued id)
        | _ => none
      else none
  | .advanceStop id =>
    (s.executions id).bind fun x =>
      if x.lane = some lane ∧ x.stop = .hooking then some (.removeQueued id) else none
  | .monitor id =>
    (s.executions id).bind fun x =>
      if x.lane = some lane then some (.executionFinished id) else none
  | .dispatch at_ => if at_ = lane then some .takeStartable else none
  | .dispatcherStopped at_ => if at_ = lane then some .dispatcherStopped else none
  | .requestClose at_ => if at_ = lane then some .requestClose else none
  | .newWaitingProducer at_ => if at_ = lane then some .newWaitingProducer else none
  | .finishWaitingProducer at_ ticket =>
    if at_ = lane then some (.finishWaitingProducer ticket) else none
  | _ => none

/-- The sections of `lane` in the run of `actions`. -/
def sections (config : ExecutorConfig) (lane : LaneId) (actions : List ExecutorAction) :
    List LaneAction :=
  (executor config).outputs (laneAction lane) (executor config).init actions

/-- What these sections do to the queue the lane stands for. -/
def moves (config : ExecutorConfig) (lane : LaneId) (actions : List ExecutorAction) :
    List (Action ExecutionId Priority OrderingKey) :=
  LaneRun.trace (config.lanes lane) (laneSystem (config.lanes lane)).init
    (sections config lane actions)

variable {config : ExecutorConfig} {s t : Executor} {i : ExecutionId} {x : Execution}
  {action : ExecutorAction} {lane : LaneId} {actions : List ExecutorAction}

/-- The lane has run the section, or nothing. -/
def Ran (config : ExecutorConfig) (s : Executor) (lane : LaneId) (act : Option LaneAction)
    (run : LaneRun) : Prop :=
  act.elim (run = s.lanes lane) fun act => (s.lanes lane).step (config.lanes lane) act = some run

/-- A section of `here` is nothing to the other lanes. -/
theorem Ran.setLane {here : LaneId} {act : LaneAction} {run : LaneRun}
    (ran : (s.lanes here).step (config.lanes here) act = some run)
    (lanes : t.lanes = (s.setLane here run).lanes) :
    s.Ran config lane (if here = lane then some act else none) (t.lanes lane) := by
  rw [lanes]
  by_cases same : here = lane
  · subst same
    rw [if_pos rfl, setLane_self]
    exact ran
  · rw [if_neg same, setLane_of_ne (Ne.symm same)]
    rfl

theorem Ran.idle (lanes : t.lanes = s.lanes) : s.Ran config lane none (t.lanes lane) := by
  rw [lanes]
  rfl

/-- The section of an execution is one of its own lane. -/
theorem Ran.own {here : LaneId} {act : LaneAction} {run : LaneRun} (place : x.lane = some here)
    (ran : (s.lanes here).step (config.lanes here) act = some run)
    (lanes : t.lanes = (s.setLane here run).lanes) :
    s.Ran config lane (if x.lane = some lane then some act else none) (t.lanes lane) := by
  have same : (x.lane = some lane) = (here = lane) := by rw [place, Option.some.injEq]
  simp only [same]
  exact Ran.setLane ran lanes

theorem Ran.of_advanceAdmission (found : s.executions i = some x)
    (step : s.advanceAdmission config i x = some t) :
    s.Ran config lane (s.laneAction lane (.advanceAdmission i)) (t.lanes lane) := by
  simp only [laneAction, found, Option.bind_some]
  unfold Executor.advanceAdmission at step
  split at step
  case h_1 here at_ place =>
    obtain ⟨run, inserted, rfl⟩ := Option.map_eq_some_iff.1 step
    rw [at_]
    exact Ran.own place inserted (put_lanes _)
  case h_2 error here at_ place =>
    obtain rfl := Option.some.inj step
    rw [at_]
    have removed : (s.lanes here).step (config.lanes here) (.removeQueued i) =
        some ((s.lanes here).removeQueued i) := rfl
    refine Ran.own place removed ?_
    rw [rollBack, releaseAdmission_lanes, put_lanes]
  case h_3 fresh waiting =>
    obtain ⟨moved, advanced, rfl⟩ := Option.map_eq_some_iff.1 step
    have idle : (if x.lane = some lane then
        match x.admission with
        | .inserting => some (.insertPrepared i x.options x.waiterTicket)
        | .rollback _ => some (.removeQueued i)
        | _ => none
      else none) = (none : Option LaneAction) := by
      split
      · rename_i place
        cases at_ : x.admission with
        | inserting => exact (fresh lane at_ place).elim
        | rollback error => exact (waiting error lane at_ place).elim
        | _ => rfl
      · rfl
    rw [idle]
    exact Ran.idle ((releaseAdmission_lanes ..).trans (put_lanes _))

theorem Ran.of_advanceStop (found : s.executions i = some x)
    (step : s.advanceStop i x = some t) :
    s.Ran config lane (s.laneAction lane (.advanceStop i)) (t.lanes lane) := by
  simp only [laneAction, found, Option.bind_some]
  unfold Executor.advanceStop at step
  split at step
  case h_1 here at_ place =>
    obtain rfl := Option.some.inj step
    simp only [at_, and_true]
    have removed : (s.lanes here).step (config.lanes here) (.removeQueued i) =
        some ((s.lanes here).removeQueued i) := rfl
    refine Ran.own place removed ?_
    rw [runHook, put_lanes]
  case h_2 elsewhere =>
    obtain ⟨moved, -, rfl⟩ := Option.map_eq_some_iff.1 step
    rw [if_neg fun both => elsewhere lane both.2 both.1]
    exact Ran.idle (put_lanes _)

theorem Ran.of_monitor (found : s.executions i = some x)
    (step : s.monitor config i x = some t) :
    s.Ran config lane (s.laneAction lane (.monitor i)) (t.lanes lane) := by
  simp only [laneAction, found, Option.bind_some]
  unfold Executor.monitor at step
  split at step
  · rename_i here place
    split at step
    · obtain ⟨run, finished, rfl⟩ := Option.map_eq_some_iff.1 step
      exact Ran.own place finished rfl
    · cases step
  · cases step

/-- **Step lemma.** -/
theorem ran_of_step (step : s.step config action = some t) :
    s.Ran config lane (s.laneAction lane action) (t.lanes lane) := by
  cases action with
  | submit id here options ticket tagTooLong =>
    obtain ⟨-, eq⟩ := Option.ite_none_right_eq_some.1 step
    split at eq
    · cases eq
    · obtain rfl := Option.some.inj eq
      exact Ran.idle rfl
  | spawn id tagTooLong =>
    obtain ⟨-, eq⟩ := Option.ite_none_right_eq_some.1 step
    obtain rfl := Option.some.inj eq
    exact Ran.idle rfl
  | closeAdmission =>
    obtain ⟨-, eq⟩ := Option.ite_none_right_eq_some.1 step
    obtain rfl := Option.some.inj eq
    exact Ran.idle rfl
  | dispatch here =>
    obtain rfl := Option.some.inj step
    have ran : (s.lanes here).step (config.lanes here) .takeStartable =
        some ((s.lanes here).takeStartable (config.lanes here)) := rfl
    exact Ran.setLane ran rfl
  | dispatcherStopped here =>
    obtain rfl := Option.some.inj step
    have ran : (s.lanes here).step (config.lanes here) .dispatcherStopped =
        some { s.lanes here with lane := (s.lanes here).lane.dispatcherStopped } := rfl
    exact Ran.setLane ran rfl
  | requestClose here =>
    obtain rfl := Option.some.inj step
    have ran : (s.lanes here).step (config.lanes here) .requestClose =
        some { s.lanes here with lane := (s.lanes here).lane.requestClose } := rfl
    exact Ran.setLane ran rfl
  | newWaitingProducer here | finishWaitingProducer here ticket =>
    obtain ⟨run, ran, rfl⟩ := Option.map_eq_some_iff.1 step
    exact Ran.setLane ran rfl
  | advanceAdmission id =>
    obtain ⟨x, found, moved⟩ := Option.bind_eq_some_iff.1 step
    exact Ran.of_advanceAdmission found moved
  | advanceStop id =>
    obtain ⟨x, found, moved⟩ := Option.bind_eq_some_iff.1 step
    exact Ran.of_advanceStop found moved
  | monitor id =>
    obtain ⟨x, found, moved⟩ := Option.bind_eq_some_iff.1 step
    exact Ran.of_monitor found moved
  | start id | run id | unwind id | finishBody id exit | loseRunner id | report id next
  | loadReport id | sendReport id | requestStop id cause =>
    obtain ⟨x, found, moved⟩ := Option.bind_eq_some_iff.1 step
    obtain ⟨y, -, rfl⟩ := Option.map_eq_some_iff.1 moved
    exact Ran.idle (put_lanes _)

theorem sections_snoc (run : (executor config).exec (executor config).init actions = some s) :
    sections config lane (actions ++ [action]) =
      sections config lane actions ++ (s.laneAction lane action).toList :=
  System.outputs_snoc run

/-- **Run lemma.**  The sections of a lane are a run of it. -/
theorem exec_sections (run : (executor config).exec (executor config).init actions = some t) :
    (laneSystem (config.lanes lane)).exec (laneSystem (config.lanes lane)).init
      (sections config lane actions) = some (t.lanes lane) := by
  refine System.exec_invariant (I := fun actions t =>
    (laneSystem (config.lanes lane)).exec (laneSystem (config.lanes lane)).init
      (sections config lane actions) = some (t.lanes lane)) rfl ?_ run
  intro actions s t action run before step
  have ran : s.Ran config lane (s.laneAction lane action) (t.lanes lane) := ran_of_step step
  rw [sections_snoc run, System.exec_append, before, Option.bind_some]
  cases act : s.laneAction lane action with
  | none =>
    rw [act] at ran
    exact congrArg some ran.symm
  | some act =>
    rw [act] at ran
    exact @System.exec_snoc _ _ _ _ _ _ [] _ rfl ran

/-- Each section adds its moves. -/
theorem moves_snoc (run : (executor config).exec (executor config).init actions = some s) :
    moves config lane (actions ++ [action]) = moves config lane actions ++
      (s.laneAction lane action).elim [] ((s.lanes lane).moves (config.lanes lane)) := by
  unfold moves
  rw [sections_snoc run]
  cases s.laneAction lane action with
  | none => simp
  | some act => exact LaneRun.trace_snoc (exec_sections run)

/-! ## What was never dispatched -/

/-- A dispatched execution stays one. -/
theorem Coupled.dispatched_kept (coupled : s.Coupled config) (step : s.step config action = some t)
    (found : s.executions i = some x) (dispatched : x.dispatched = true) :
    ∃ y, t.executions i = some y ∧ y.dispatched = true := by
  rcases (coupled.step step).2 i with ⟨same, -⟩ | ⟨-, -, absent, -⟩ | ⟨before, moved, -, after⟩
  · exact ⟨x, same.trans found, dispatched⟩
  · cases absent.symm.trans found
  · obtain rfl := Option.some.inj ((view_eq_some.1 before).1.symm.trans found)
    refine ⟨_, (view_eq_some.1 after).1, ?_⟩
    rw [View.after_execution]
    exact moved.dispatched dispatched

/-- The moves of a section start and end only what is monitored. -/
theorem monitored_of_moves {act : LaneAction}
    (ran : (s.lanes lane).step (config.lanes lane) act = some (t.lanes lane))
    (member : .start i ∈ (s.lanes lane).moves (config.lanes lane) act ∨
      .finish i ∈ (s.lanes lane).moves (config.lanes lane) act) :
    i ∈ (t.lanes lane).monitors ∨ i ∈ (s.lanes lane).monitors := by
  cases act with
  | takeStartable =>
    left
    rw [← Option.some.inj ran]
    refine Finset.mem_union_right _ (List.mem_toFinset.2 ?_)
    simpa [LaneRun.moves, Action.starts] using member
  | executionFinished id =>
    right
    obtain ⟨monitored, -⟩ := Option.ite_none_right_eq_some.1 ran
    simp only [LaneRun.moves] at member
    split at member
    · obtain rfl : i = id := by simpa using member
      exact monitored
    · simp at member
  | insertPrepared | removeQueued =>
    simp only [LaneRun.moves] at member
    split at member <;> simp at member
  | _ => simp [LaneRun.moves] at member

/-- What a lane has started or ended was dispatched. -/
theorem dispatched_of_moves (run : (executor config).exec (executor config).init actions = some t)
    (member : .start i ∈ moves config lane actions ∨ .finish i ∈ moves config lane actions) :
    ∃ x, t.executions i = some x ∧ x.dispatched = true := by
  have kept := System.exec_invariant (A := executor config) (s := (executor config).init)
    (I := fun actions t => (.start i ∈ moves config lane actions ∨
      .finish i ∈ moves config lane actions) → ∃ x, t.executions i = some x ∧ x.dispatched = true)
    ?_ ?_ run
  · exact kept member
  · intro absurd
    rcases absurd with absurd | absurd <;> cases absurd
  intro actions s t action run before step member
  have coupled := Coupled.of_reaches (System.Reaches.of_schedule _ run)
  have step : s.step config action = some t := step
  have stays : (∃ x, s.executions i = some x ∧ x.dispatched = true) →
      ∃ y, t.executions i = some y ∧ y.dispatched = true := by
    rintro ⟨x, found, dispatched⟩
    exact coupled.dispatched_kept step found dispatched
  rw [moves_snoc run, List.mem_append, List.mem_append] at member
  have ran : s.Ran config lane (s.laneAction lane action) (t.lanes lane) := ran_of_step step
  cases act : s.laneAction lane action with
  | none =>
    simp only [act, Option.elim_none, List.not_mem_nil, or_false] at member
    exact stays (before member)
  | some act' =>
    simp only [act, Option.elim_some] at member
    rw [act] at ran
    by_cases new : .start i ∈ (s.lanes lane).moves (config.lanes lane) act' ∨
        .finish i ∈ (s.lanes lane).moves (config.lanes lane) act'
    · rcases monitored_of_moves ran new with after | earlier
      · exact ((coupled.step step).1.agrees lane).monitors i after
      · exact stays ((coupled.agrees lane).monitors i earlier)
    · exact stays (before (by tauto))

/-- **As if it had never been submitted.**  The queue of an execution that was never dispatched
and does not wait any more is the one that all the other moves make. -/
theorem queue_without (run : (executor config).exec (executor config).init actions = some t)
    (undispatched : ∀ x, t.executions i = some x → x.dispatched = false)
    (absent : i ∉ (t.lanes lane).lane.entries) :
    (keyedQueue ExecutionId Priority OrderingKey (config.lanes lane).limits).exec .empty
      ((moves config lane actions).filter fun move => !move.concerns i) =
        some (t.lanes lane).lane.keyedQueue := by
  have traced : (keyedQueue ExecutionId Priority OrderingKey (config.lanes lane).limits).exec .empty
      (moves config lane actions) = some (t.lanes lane).lane.keyedQueue :=
    LaneRun.exec_trace .refl (exec_sections run)
  have never :
      ¬ (.start i ∈ moves config lane actions ∨ .finish i ∈ moves config lane actions) := by
    intro member
    obtain ⟨x, found, dispatched⟩ := dispatched_of_moves run member
    exact Bool.false_ne_true ((undispatched x found).symm.trans dispatched)
  have rest := Queue.exec_without (fun a : Priority => Nat.lt_irrefl a.val)
    (fun _ _ _ => Nat.lt_trans) (fun _ _ _ above other =>
      Nat.lt_of_le_of_lt (Nat.le_of_not_lt other) above) traced
    (fun member => never (.inl member)) fun member => never (.inr member)
  have gone : (t.lanes lane).lane.keyedQueue.without i = (t.lanes lane).lane.keyedQueue := by
    refine Queue.without_eq_self fun job member => ?_
    obtain ⟨id, -, entry, found, rfl⟩ := LaneState.mem_jobs.1 member
    rintro rfl
    exact absent (AssocMap.mem_of_lookup found)
  rw [gone] at rest
  exact rest

end Executor

end BusyBeaver
