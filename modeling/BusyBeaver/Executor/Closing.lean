import BusyBeaver.Executor.Outstanding

/-!
# Lanes that close

`request_close` sets `closing` and takes a snapshot of `active`.  Taken under the
admission mutex, it comes after the answer of every submission to the lane and before
every later one, so what the lane has accepted is settled at that moment
(`Executor.Shut`).  What is accepted and not in the snapshot is terminal, or it left
`active` ahead of its exit: its cancelled entry is still to be dropped, or the
dispatcher has stopped and swept it out (`Executor.complete_iff`).
-/

namespace BusyBeaver

open Transition Execution

namespace Execution

variable {x y : Execution} {label : Label} {effect : Effect}

/-- The submission to the lane was answered with `Ok`. -/
structure Accepted (x : Execution) (lane : LaneId) : Prop where
  lane : x.lane = some lane
  answered : x.admission = .returned none

/-- An answer is final. -/
theorem Moved.returned (moved : Moved x label effect y) {error : Option SpawnError}
    (answered : x.admission = .returned error) : y.admission = .returned error := by
  cases moved with
  | insert at_ | refuse _ at_ | swap at_ | enter at_ | reject _ at_ | announce at_ | accept at_
  | launch at_ | clear _ at_ | abandon _ at_ | rollBack _ at_ | missed _ at_ | dropped _ at_ =>
    rw [at_] at answered
    cases answered
  | _ => exact answered

/-- Only the admission call writes the answer. -/
theorem Moved.admission (moved : Moved x label effect y) (other : ∀ r, label ≠ .admission r) :
    y.admission = x.admission := by
  cases moved with
  | insert | refuse | swap | enter | reject | announce | accept | launch | clear | abandon
  | rollBack | missed | dropped => exact (other _ rfl).elim
  | _ => rfl

/-- The guard of a lane submission leaves the call with its insertion. -/
theorem Moved.prepared (moved : Moved x label effect y)
    (before : x.lane ≠ none → x.runner = .prepared → x.admission = .inserting)
    (place : y.lane ≠ none) (prepared : y.runner = .prepared) : y.admission = .inserting := by
  cases moved with
  | swap at_ | enter at_ | reject _ at_ | announce at_ | accept at_ | clear _ at_ | missed _ at_
  | dropped _ at_ =>
    have inserting := before place prepared
    rw [at_] at inserting
    cases inserting
  | reportSet | reportUnset | sendReport | takeHook | stopSet | stopUnset | announceStop
  | hookMissed | report | requestStop => exact before place prepared
  | _ => cases prepared

end Execution

namespace Executor

variable {config : ExecutorConfig} {s t : Executor} {i j : ExecutionId} {x y : Execution}
  {action : ExecutorAction} {lane : LaneId}

/-! ## Closing is final -/

/-- Nothing reopens a lane. -/
theorem LaneChange.closing {after : LaneState} (coupled : s.Coupled config)
    (change : LaneChange config s lane action after)
    (closing : (s.lanes lane).lane.closing = true) : after.closing = true := by
  cases change with
  | insert found place unissued ok =>
    have admitted := (LaneState.Inserted.of_ok ok).admitted
    have opened := (LaneState.not_closing_of_admissionError admitted).2.1
    rw [closing] at opened
    cases opened
  | remove found place by_ =>
    rw [LaneState.removeQueued_closing]
    exact closing
  | dispatch =>
    rw [(coupled.laneInv lane).lane.takeStartable.closing]
    exact closing
  | finish found place waited monitored =>
    rw [(LaneRun.executionFinished_fields _ _).2.2.2]
    exact closing
  | requestClose | dispatcherStopped => rfl
  | newWaitingProducer =>
    rw [LaneState.WaitingOnly.newWaitingProducer.closing]
    exact closing
  | same | finishWaitingProducer live => exact closing

/-- A step that creates an execution of a lane found the lane open. -/
theorem opened_of_created (step : s.step config action = some t) (creates : action.creates = some i)
    (found : t.executions i = some y) (place : y.lane = some lane) :
    (s.lanes lane).lane.closing = false := by
  cases action with
  | submit id lane' options ticket tagTooLong =>
    simp only [ExecutorAction.creates, Option.some.injEq] at creates
    subst creates
    simp only [Executor.step] at step
    split at step
    · split at step
      · cases step
      · rename_i admitted
        cases step
        simp only [Pool.set_self, Option.some.injEq] at found
        rw [← found] at place
        cases place
        exact (LaneState.not_closing_of_admissionError admitted).2.1
    · cases step
  | spawn id tagTooLong =>
    simp only [ExecutorAction.creates, Option.some.injEq] at creates
    subst creates
    simp only [Executor.step] at step
    split at step
    · cases step
      simp only [Pool.set_self, Option.some.injEq] at found
      rw [← found] at place
      cases place
    · cases step
  | _ => cases creates

/-- The lane is closing, and every submission to it has its answer. -/
structure Shut (s : Executor) (lane : LaneId) : Prop where
  closing : (s.lanes lane).lane.closing = true
  answered : ∀ i x, s.executions i = some x → x.lane = some lane →
    ∃ error, x.admission = .returned error

/-- A step creates no execution of a shut lane, and takes back no answer and no exit. -/
theorem Shut.earlier (shut : s.Shut lane) (step : s.step config action = some t)
    (change : Change config s action t i) (found : t.executions i = some y)
    (place : y.lane = some lane) :
    ∃ x, s.executions i = some x ∧ x.lane = some lane ∧ y.admission = x.admission ∧
      (y.core.terminal = none → x.core.terminal = none) := by
  rcases change with ⟨same, -⟩ | ⟨-, creates, -, -⟩ | ⟨before, moved, -, after⟩
  · exact ⟨y, same ▸ found, place, rfl, fun running => running⟩
  · have opened := opened_of_created step creates found place
    rw [shut.closing] at opened
    cases opened
  · have here := (view_eq_some.1 after).1
    rw [View.after_execution] at here
    cases here.symm.trans found
    have earlier := (view_eq_some.1 before).1
    have place' := moved.lane.symm.trans place
    obtain ⟨error, answered⟩ := shut.answered i _ earlier place'
    refine ⟨_, earlier, place', ?_, moved.terminal_none⟩
    rw [answered, moved.returned answered]

theorem Shut.step (shut : s.Shut lane) (coupled : s.Coupled config)
    (step : s.step config action = some t) : t.Shut lane := by
  constructor
  · exact (lane_change step lane).closing coupled shut.closing
  · intro i y found place
    obtain ⟨x, earlier, place', same, -⟩ := shut.earlier step ((coupled.step step).2 i) found place
    rw [same]
    exact shut.answered i x earlier place'

/-- What a shut lane has accepted it had accepted before. -/
theorem Shut.final (shut : s.Shut lane) (coupled : s.Coupled config)
    (run : (executor config).Reaches (fun _ _ => True) s t) :
    t.Shut lane ∧ t.Coupled config ∧ ∀ i y, t.executions i = some y → y.Accepted lane →
      ∃ x, s.executions i = some x ∧ x.Accepted lane := by
  induction run with
  | refl => exact ⟨shut, coupled, fun i y found accepted => ⟨y, found, accepted⟩⟩
  | tail _ _ step ih =>
    obtain ⟨shut, coupled, final⟩ := ih
    obtain ⟨coupled', changes⟩ := coupled.step step
    refine ⟨shut.step coupled step, coupled', fun i y found accepted => ?_⟩
    obtain ⟨x, earlier, place, same, -⟩ := shut.earlier step (changes i) found accepted.lane
    exact final i x earlier ⟨place, same ▸ accepted.answered⟩

/-! ## The admission mutex -/

/-- A submission without its answer holds the admission mutex. -/
def Exclusive (s : Executor) : Prop :=
  ∀ i x, s.executions i = some x → x.lane ≠ none →
    (∃ error, x.admission = .returned error) ∨ s.admitting = some i

/-- A step of neither kind of call that answers submissions leaves the mutex alone. -/
theorem Exclusive.other (exclusive : s.Exclusive) (coupled : s.Coupled config)
    (step : s.step config action = some t) (mutex : t.admitting = s.admitting)
    (admits : action.admits = none)
    (created : ∀ i y, action.creates = some i → t.executions i = some y → y.lane = none) :
    t.Exclusive := by
  intro i y found place
  rcases (coupled.step step).2 i with ⟨same, -⟩ | ⟨-, creates, -, -⟩ | ⟨before, moved, of, after⟩
  · rw [mutex]
    exact exclusive i y (same ▸ found) place
  · exact (place (created i y creates found)).elim
  · have here := (view_eq_some.1 after).1
    rw [View.after_execution] at here
    cases here.symm.trans found
    have other := moved.admission fun r eq => by
      subst eq
      obtain ⟨rfl, -⟩ := of
      cases admits
    rw [mutex, other]
    exact exclusive i _ (view_eq_some.1 before).1 (moved.lane ▸ place)

@[simp] theorem put_admitting (moved : Execution × Effect) :
    (s.put i moved).admitting = s.admitting := by
  rcases moved with ⟨x, _ | _ | _ | _ | _⟩ <;> rfl

@[simp] theorem releaseAdmission_executions (s : Executor) (x : Execution) :
    (s.releaseAdmission x).executions = s.executions := by
  unfold releaseAdmission
  split <;> rfl

/-- `admitting` is given back with an answer. -/
theorem releaseAdmission_admitting (s : Executor) (x : Execution) :
    (s.releaseAdmission x).admitting = s.admitting ∨
      (s.releaseAdmission x).admitting = none ∧ x.lane ≠ none ∧
        ∃ error, x.admission = .returned error := by
  unfold releaseAdmission
  split
  · rename_i error lane answered place
    exact Or.inr ⟨rfl, by simp [place], error, answered⟩
  · exact Or.inl rfl

/-- The call had no answer, and gives the mutex back with it. -/
theorem admitting_of_advanceAdmission (step : s.advanceAdmission config i x = some t) :
    (∀ error, x.admission ≠ .returned error) ∧
      (∀ j, j ≠ i → t.executions j = s.executions j) ∧
      (t.admitting = s.admitting ∨ t.admitting = none ∧
        ∃ y, t.executions i = some y ∧ y.lane ≠ none ∧ ∃ error, y.admission = .returned error) := by
  unfold Executor.advanceAdmission at step
  split at step
  case h_1 lane at_ place =>
    obtain ⟨run, inserted, rfl⟩ := Option.map_eq_some_iff.1 step
    refine ⟨fun error answered => ?_, fun j other => ?_, Or.inl ?_⟩
    · rw [at_] at answered
      cases answered
    · rw [put_executions, Pool.set_of_ne other]
      rfl
    · rw [put_admitting]
      rfl
  case h_2 error lane at_ place =>
    cases step
    refine ⟨fun error answered => ?_, fun j other => ?_, ?_⟩
    · rw [at_] at answered
      cases answered
    · rw [rollBack, releaseAdmission_executions, put_executions, Pool.set_of_ne other]
      rfl
    · rw [rollBack, releaseAdmission_executions, put_executions]
      rcases releaseAdmission_admitting _ _ with kept | answered
      · exact Or.inl (kept.trans (put_admitting _))
      · exact Or.inr ⟨answered.1, _, Pool.set_self, answered.2⟩
  case h_3 =>
    obtain ⟨moved, advanced, rfl⟩ := Option.map_eq_some_iff.1 step
    refine ⟨fun error answered => ?_, fun j other => ?_, ?_⟩
    · simp [Execution.advanceAdmission, answered] at advanced
    · rw [releaseAdmission_executions, put_executions, Pool.set_of_ne other]
    · rw [releaseAdmission_executions, put_executions]
      rcases releaseAdmission_admitting _ _ with kept | answered
      · exact Or.inl (kept.trans (put_admitting _))
      · exact Or.inr ⟨answered.1, _, Pool.set_self, answered.2⟩

@[simp] theorem put_admissionOpen (moved : Execution × Effect) :
    (s.put i moved).admissionOpen = s.admissionOpen := by
  rcases moved with ⟨x, _ | _ | _ | _ | _⟩ <;> rfl

@[simp] theorem releaseAdmission_admissionOpen (s : Executor) (x : Execution) :
    (s.releaseAdmission x).admissionOpen = s.admissionOpen := by
  unfold releaseAdmission
  split <;> rfl

/-- Only `closeAdmission` writes `admission_open`. -/
theorem admissionOpen_of_step (step : s.step config action = some t)
    (other : action ≠ .closeAdmission) : t.admissionOpen = s.admissionOpen := by
  cases action with
  | closeAdmission => exact (other rfl).elim
  | submit id lane options ticket tagTooLong =>
    simp only [Executor.step] at step
    split at step
    · split at step
      · cases step
      · exact Option.some.inj step ▸ rfl
    · cases step
  | spawn id tagTooLong =>
    simp only [Executor.step] at step
    split at step
    · exact Option.some.inj step ▸ rfl
    · cases step
  | dispatch lane | dispatcherStopped lane | requestClose lane => exact Option.some.inj step ▸ rfl
  | newWaitingProducer lane | finishWaitingProducer lane ticket =>
    obtain ⟨run, -, rfl⟩ := Option.map_eq_some_iff.1 step
    rfl
  | advanceAdmission id =>
    obtain ⟨x, -, advanced⟩ := Option.bind_eq_some_iff.1 step
    simp only [Executor.move, Executor.advanceAdmission] at advanced
    split at advanced
    · obtain ⟨run, -, rfl⟩ := Option.map_eq_some_iff.1 advanced
      exact put_admissionOpen _
    · obtain rfl := Option.some.inj advanced
      rw [rollBack, releaseAdmission_admissionOpen, put_admissionOpen]
      rfl
    · obtain ⟨moved, -, rfl⟩ := Option.map_eq_some_iff.1 advanced
      rw [releaseAdmission_admissionOpen, put_admissionOpen]
  | monitor id =>
    obtain ⟨x, -, finished⟩ := Option.bind_eq_some_iff.1 step
    simp only [Executor.move, Executor.monitor] at finished
    split at finished
    · split at finished
      · obtain ⟨run, -, rfl⟩ := Option.map_eq_some_iff.1 finished
        rfl
      · cases finished
    · cases finished
  | advanceStop id =>
    obtain ⟨x, -, advanced⟩ := Option.bind_eq_some_iff.1 step
    simp only [Executor.move, Executor.advanceStop] at advanced
    split at advanced
    · exact Option.some.inj advanced ▸ put_admissionOpen _
    · obtain ⟨moved, -, rfl⟩ := Option.map_eq_some_iff.1 advanced
      exact put_admissionOpen _
  | start id | run id | unwind id | finishBody id exit | loseRunner id | report id next
  | loadReport id | sendReport id | requestStop id cause =>
    obtain ⟨x, -, moved⟩ := Option.bind_eq_some_iff.1 step
    obtain ⟨y, -, rfl⟩ := Option.map_eq_some_iff.1 moved
    exact put_admissionOpen _

/-- The lane of an execution never changes. -/
theorem Change.lane_eq (change : Change config s action t i) (before : s.executions i = some x)
    (after : t.executions i = some y) : y.lane = x.lane := by
  rcases change with ⟨same, -⟩ | ⟨-, -, absent, -⟩ | ⟨earlier, moved, -, later⟩
  · cases (same.symm.trans after).symm.trans before
    rfl
  · rw [absent] at before
    cases before
  · cases (view_eq_some.1 earlier).1.symm.trans before
    have now := (view_eq_some.1 later).1
    rw [View.after_execution] at now
    cases now.symm.trans after
    exact moved.lane

theorem Exclusive.advanceAdmission (exclusive : s.Exclusive) (coupled : s.Coupled config)
    (step : s.step config (.advanceAdmission i) = some t) : t.Exclusive := by
  obtain ⟨x, found, advanced⟩ := Option.bind_eq_some_iff.1 step
  obtain ⟨unanswered, others, mutex⟩ := admitting_of_advanceAdmission advanced
  have change := (coupled.step step).2 i
  -- a call for a lane holds the mutex up to its answer
  have holds : ∀ y, t.executions i = some y → y.lane ≠ none → s.admitting = some i := by
    intro y here place
    have place' : x.lane ≠ none := change.lane_eq found here ▸ place
    refine (exclusive i x found place').resolve_left fun ⟨error, answered⟩ => ?_
    exact unanswered error answered
  intro j y here place
  by_cases same : j = i
  · subst same
    rcases mutex with kept | ⟨-, z, there, -, answered⟩
    · rw [kept]
      exact Or.inr (holds y here place)
    · cases there.symm.trans here
      exact Or.inl answered
  · rw [others j same] at here
    refine (exclusive j y here place).imp_right fun held => ?_
    rcases mutex with kept | ⟨-, z, there, place', -⟩
    · rw [kept, held]
    · rw [holds z there place'] at held
      exact (same (Option.some.inj held).symm).elim

theorem Exclusive.submit (exclusive : s.Exclusive) {options : SpawnOptions} {ticket : Option Nat}
    {tagTooLong : Bool} (step : s.step config (.submit i lane options ticket tagTooLong) = some t) :
    t.Exclusive := by
  simp only [Executor.step] at step
  split at step
  · rename_i free
    split at step
    · cases step
    · cases step
      intro j y here place
      rcases Pool.of_set_eq_some here with ⟨rfl, -⟩ | ⟨-, earlier⟩
      · exact Or.inr rfl
      · refine (exclusive j y earlier place).imp_right fun held => ?_
        rw [free.2.1] at held
        cases held
  · cases step

theorem Exclusive.step (exclusive : s.Exclusive) (coupled : s.Coupled config)
    (step : s.step config action = some t) : t.Exclusive := by
  cases action with
  | submit id lane options ticket tagTooLong => exact exclusive.submit step
  | advanceAdmission id => exact exclusive.advanceAdmission coupled step
  | spawn id tagTooLong =>
    have taken := step
    simp only [Executor.step] at taken
    split at taken
    · cases taken
      refine exclusive.other coupled step rfl rfl fun i y creates here => ?_
      cases creates
      simp only [Pool.set_self, Option.some.injEq] at here
      rw [← here]
      rfl
    · cases taken
  | closeAdmission =>
    have taken := step
    simp only [Executor.step] at taken
    split at taken
    · cases taken
      exact exclusive.other coupled step rfl rfl fun _ _ creates => by cases creates
    · cases taken
  | dispatch lane | dispatcherStopped lane | requestClose lane =>
    have taken := step
    cases taken
    exact exclusive.other coupled step rfl rfl fun _ _ creates => by cases creates
  | newWaitingProducer lane | finishWaitingProducer lane ticket =>
    obtain ⟨run, -, rfl⟩ := Option.map_eq_some_iff.1 step
    exact exclusive.other coupled step rfl rfl fun _ _ creates => by cases creates
  | monitor id =>
    obtain ⟨x, -, finished⟩ := Option.bind_eq_some_iff.1 step
    refine exclusive.other coupled step ?_ rfl fun _ _ creates => by cases creates
    simp only [Executor.move, Executor.monitor] at finished
    split at finished
    · split at finished
      · obtain ⟨run, -, rfl⟩ := Option.map_eq_some_iff.1 finished
        rfl
      · cases finished
    · cases finished
  | advanceStop id =>
    obtain ⟨x, -, advanced⟩ := Option.bind_eq_some_iff.1 step
    refine exclusive.other coupled step ?_ rfl fun _ _ creates => by cases creates
    simp only [Executor.move, Executor.advanceStop] at advanced
    split at advanced
    · cases advanced
      exact put_admitting _
    · obtain ⟨moved, -, rfl⟩ := Option.map_eq_some_iff.1 advanced
      exact put_admitting _
  | start id | run id | unwind id | finishBody id exit | loseRunner id | report id next
  | loadReport id | sendReport id | requestStop id cause =>
    obtain ⟨x, -, moved⟩ := Option.bind_eq_some_iff.1 step
    obtain ⟨y, -, rfl⟩ := Option.map_eq_some_iff.1 moved
    exact exclusive.other coupled step (put_admitting _) rfl fun _ _ creates => by cases creates

theorem executions_of_requestClose (step : s.step config (.requestClose lane) = some t) :
    t.executions = s.executions := by
  cases step
  rfl

/-- Nobody holds the mutex, so the lane that is closed now is shut. -/
theorem Exclusive.shut (exclusive : s.Exclusive) (free : s.admitting = none)
    (step : s.step config (.requestClose lane) = some t) : t.Shut lane := by
  cases step
  constructor
  · exact congrArg (fun run => LaneState.closing run.lane) setLane_self
  · intro i x found place
    refine (exclusive i x found (by simp [place])).resolve_right fun held => ?_
    rw [free] at held
    cases held

/-! ## What a snapshot misses -/

/-- A lane without its runtime has no active execution. -/
def Vacant (s : Executor) (lane : LaneId) : Prop :=
  (s.lanes lane).lane.runtimeUnavailable = true → (s.lanes lane).lane.active = ∅

theorem LaneChange.vacant {after : LaneState} (coupled : s.Coupled config)
    (change : LaneChange config s lane action after) (vacant : s.Vacant lane) :
    after.runtimeUnavailable = true → after.active = ∅ := by
  intro unavailable
  cases change with
  | insert found place unissued ok =>
    have inserted := LaneState.Inserted.of_ok ok
    have available := (LaneState.not_closing_of_admissionError inserted.admitted).1
    rw [inserted.eq] at unavailable
    rw [show (s.lanes lane).lane.runtimeUnavailable = true from unavailable] at available
    cases available
  | @remove action i x found place by_ =>
    rw [LaneState.removeQueued_keys.2] at unavailable
    refine Finset.eq_empty_of_forall_notMem fun j active => ?_
    have earlier := ((LaneRun.removeQueued_fields (s.lanes lane).lane i).1 j active).1
    rw [vacant unavailable] at earlier
    cases earlier
  | dispatch =>
    have run := (coupled.laneInv lane).lane.dispatches
    rw [run.active]
    exact vacant (run.runtimeUnavailable ▸ unavailable)
  | finish found place waited monitored =>
    rw [LaneState.executionFinished_runtimeUnavailable] at unavailable
    rw [(LaneRun.executionFinished_fields _ _).1, vacant unavailable, Finset.erase_empty]
  | dispatcherStopped => rfl
  | newWaitingProducer =>
    have only := @LaneState.WaitingOnly.newWaitingProducer (config.lanes lane) (s.lanes lane).lane
    rw [only.active]
    exact vacant (only.runtimeUnavailable ▸ unavailable)
  | same | requestClose | finishWaitingProducer live => exact vacant unavailable

theorem vacant_of_reaches (reached : (executor config).Reachable s) : s.Vacant lane := by
  induction reached with
  | refl =>
    intro absurd
    cases absurd
  | tail run _ step ih => exact (lane_change step lane).vacant (Coupled.of_reaches run) ih

theorem exclusive_of_reaches (reached : (executor config).Reachable s) : s.Exclusive := by
  induction reached with
  | refl =>
    intro i x found
    cases found
  | tail run _ step ih => exact ih.step (Coupled.of_reaches run) step

theorem prepared_of_reaches (reached : (executor config).Reachable s)
    (found : s.executions i = some x) :
    x.lane ≠ none → x.runner = .prepared → x.admission = .inserting := by
  have seen : s.view i =
      some ⟨x, decide (i ∈ s.active), s.finishes.count i, s.eventsOf i⟩ :=
    view_eq_some.2 ⟨found, rfl, rfl, rfl⟩
  refine view_invariant
    (P := fun v => v.execution.lane ≠ none → v.execution.runner = .prepared →
      v.execution.admission = .inserting) reached ?_ ?_ i _ seen
  · intro v fresh
    cases fresh with
    | submitted => exact fun _ _ => rfl
    | direct => exact fun place => (place rfl).elim
  · intro s action i v label effect y _ _ _ _ moved before
    rw [View.after_execution]
    exact moved.prepared before

/-- A snapshot of `active` taken now has every accepted execution that is not terminal. -/
structure Complete (s : Executor) (lane : LaneId) : Prop where
  /-- No cancelled entry is out of the queue and still to be dropped. -/
  dropped : ∀ i x, s.executions i = some x → x.Accepted lane → x.dispatched = false →
    ∀ exit, x.runner ≠ .exiting exit
  /-- The dispatcher has not stopped ahead of an execution it had started. -/
  swept : (s.lanes lane).lane.runtimeUnavailable = true →
    ∀ i x, s.executions i = some x → x.Accepted lane → x.dispatched = true →
      x.core.terminal.isSome = true

/-- An execution the dispatcher has not taken and the lane has let go of is exiting, or done. -/
theorem exiting_of_inactive (reached : (executor config).Reachable s)
    (found : s.executions i = some x) (accepted : x.Accepted lane)
    (untaken : x.dispatched = false) (inactive : i ∉ (s.lanes lane).lane.active) :
    x.core.terminal.isSome = true ∨ ∃ exit, x.runner = .exiting exit := by
  have coupled := Coupled.of_reaches reached
  have sound := coupled.sound i x found
  have place : x.lane ≠ none := by simp [accepted.lane]
  have idle := (sound.dispatched place untaken).1
  have terminal := sound.terminal
  cases at_ : x.runner with
  | prepared =>
    have inserting := prepared_of_reaches reached found place at_
    rw [accepted.answered] at inserting
    cases inserting
  | queued =>
    have queued := ((coupled.agrees lane).entries_self found).2 ⟨accepted.lane, at_⟩
    exact (inactive ((coupled.laneInv lane).lane.entries_active i queued)).elim
  | exiting exit => exact Or.inr ⟨exit, rfl⟩
  | taken | spawned | claimed | announcing | working =>
    rw [at_] at idle
    cases idle
  | _ =>
    rw [at_] at terminal
    exact Or.inl terminal

/-- **What a snapshot misses.**  The accepted executions outside of `active` are all
terminal exactly when no removed entry is still to be dropped and the dispatcher has not
stopped ahead of an execution it had started. -/
theorem complete_iff (reached : (executor config).Reachable s) :
    s.Complete lane ↔ ∀ i x, s.executions i = some x → x.Accepted lane →
      i ∉ (s.lanes lane).lane.active → x.core.terminal.isSome = true := by
  have coupled := Coupled.of_reaches reached
  constructor
  · intro complete i x found accepted inactive
    cases taken : x.dispatched with
    | false =>
      rcases exiting_of_inactive reached found accepted taken inactive with ended | ⟨exit, at_⟩
      · exact ended
      · exact (complete.dropped i x found accepted taken exit at_).elim
    | true =>
      cases available : (s.lanes lane).lane.runtimeUnavailable with
      | true => exact complete.swept available i x found accepted taken
      | false =>
        cases running : x.core.terminal with
        | some summary => rfl
        | none =>
          have flight : s.Flight config lane := .of_reaches reached
          exact (inactive (flight.accounted available i x found
            ⟨accepted.lane, taken, running⟩).1).elim
  · intro all
    constructor
    · intro i x found accepted untaken exit at_
      have unqueued : i ∉ (s.lanes lane).lane.entries := by
        rw [(coupled.agrees lane).entries_self found, at_]
        simp
      have ended := all i x found accepted fun active =>
        unqueued (coupled.queued_of_active found untaken active)
      rw [(coupled.sound i x found).terminal, at_] at ended
      cases ended
    · intro unavailable i x found accepted _
      refine all i x found accepted ?_
      rw [vacant_of_reaches reached unavailable]
      exact Finset.notMem_empty i

end Executor

end BusyBeaver
