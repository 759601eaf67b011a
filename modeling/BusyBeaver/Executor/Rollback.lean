import BusyBeaver.Executor.Events
import BusyBeaver.Executor.Outstanding
import BusyBeaver.Executor.Sections

/-!
# Taking a refused submission back

`insert_prepared` shows the submission to the dispatcher, gives the lane mutex back
and only then registers.  `rollback_clean` says that a refusal leaves no trace in
every run where the dispatcher has kept away from the submission when the registry
refuses it and until it is taken back, and no `emit_state` or `commit` has read its
flag as set or reads it before it is cleared.

That the lane is as if the submission had never been made is said twice: of the section
that gives the submission up, which leaves the lane without it and otherwise the same, and of
the whole run, since everything that happened to the other executions makes the same queue
when nothing is submitted.
-/

namespace BusyBeaver

open Transition Execution KeyedQueue

/-- The registry has refused the execution, and its flag is still set. -/
def Admission.isRejected : Admission → Bool
  | .rejected _ => true
  | _ => false

/-- The registry has refused the execution, and its submission is still in the lane. -/
def Admission.isRefused : Admission → Bool
  | .rejected _ | .rollback _ => true
  | _ => false

/-- The admission call of the execution fails or has failed. -/
def Admission.fails : Admission → Bool
  | .rejected _ | .rollback _ | .dropping _ | .returned (some _) => true
  | _ => false

/-- A failing admission has its flag set only until the refusal is noted. -/
theorem Admission.isRejected_of_flag {admission : Admission} (flag : admission.flag = true)
    (fails : admission.fails = true) : admission.isRejected = true := by
  cases admission with
  | returned error => cases error <;> simp_all [Admission.flag, Admission.fails]
  | _ => simp_all [Admission.flag, Admission.fails, Admission.isRejected]

namespace Executor

/-- The execution whose flag the action reads. -/
def readsFlag (s : Executor) : ExecutorAction → Option ExecutionId
  | .run id =>
    if (s.executions id).any fun x => x.runner == .claimed || x.runner.isPublished then some id
    else none
  | .loadReport id => some id
  | .advanceStop id =>
    if (s.executions id).any fun x => x.stop.isLoading then some id else none
  | _ => none

/-- The executions the action takes out of a lane to start them. -/
def takes (config : ExecutorConfig) (s : Executor) : ExecutorAction → List ExecutionId
  | .dispatch lane => ((s.lanes lane).lane.takeStartable (config.lanes lane)).starts
  | _ => []

/-- The registry refuses only submissions that the dispatcher has not taken and whose
flag nobody has read as set; until they are taken back the dispatcher leaves them in
the lane, and until the flag is cleared nobody reads it. -/
def RefusesUnseen (config : ExecutorConfig) (s : Executor) (action : ExecutorAction) : Prop :=
  (∀ x ∈ action.admits.bind s.executions, x.admission = .swapped → s.refusal config x ≠ none →
    x.dispatched = false ∧ x.noticed = false) ∧
  (∀ i ∈ takes config s action, ∀ x ∈ s.executions i, x.admission.isRefused = false) ∧
  ∀ x ∈ (s.readsFlag action).bind s.executions, x.admission.isRejected = false

instance (config : ExecutorConfig) (s : Executor) (action : ExecutorAction) :
    Decidable (RefusesUnseen config s action) :=
  inferInstanceAs (Decidable (_ ∧ _ ∧ _))

/-- The lane holds nothing of execution `i`, and its books are exact without it. -/
structure Absent (config : LaneConfig) (lane : LaneState) (i : ExecutionId) : Prop where
  exact_ : lane.Inv config
  queue : i ∉ lane.queue
  entries : i ∉ lane.entries
  active : i ∉ lane.active
  held : i ∉ lane.runningOrderingKeys

/-- Earlier in the run the call gave the submission up: its lane section refused it and left the
lane as it was, or its `remove_queued` left the lane without it. -/
inductive GivenUp (config : ExecutorConfig) (s : Executor) (i : ExecutionId) (lane : LaneId) : Prop
  | refused {before after : Executor} {x : Execution} :
    (executor config).Reachable before → before.executions i = some x →
    x.admission = .inserting → before.step config (.advanceAdmission i) = some after →
    (executor config).Reaches (fun _ _ => True) after s →
    (after.lanes lane).lane = (before.lanes lane).lane → GivenUp config s i lane
  | removed {before after : Executor} {x : Execution} {error : SpawnError} :
    (executor config).Reachable before → before.executions i = some x →
    x.admission = .rollback error → before.step config (.advanceAdmission i) = some after →
    (executor config).Reaches (fun _ _ => True) after s →
    LaneState.Without (config.lanes lane) (before.lanes lane).lane i (after.lanes lane).lane →
    GivenUp config s i lane

/-- Nothing is left of the failed admission of execution `i`, after `actions`. -/
structure NoTrace (config : ExecutorConfig) (actions : List ExecutorAction) (s : Executor)
    (i : ExecutionId) (x : Execution) : Prop where
  unpolled : x.polled = false
  lane : ∀ lane, Absent (config.lanes lane) (s.lanes lane).lane i
  givenUp : ∀ lane, x.lane = some lane → s.GivenUp config i lane
  /-- The moves of all others, and nothing for `i`, make the queue of every lane. -/
  queue : ∀ lane,
    (keyedQueue ExecutionId Priority OrderingKey (config.lanes lane).limits).exec .empty
      ((moves config lane actions).filter fun move => !move.concerns i) =
        some (s.lanes lane).lane.keyedQueue
  registry : i ∉ s.active
  events : s.eventsOf i = []
  records : s.finishes.count i = 0

end Executor

namespace View

variable {v : View} {label : Label} {effect : Effect} {y : Execution}

/-- A failing admission of a lane submission has been seen by nobody. -/
structure Unseen (v : View) : Prop where
  listed : v.Listed
  unnoticed : v.Unnoticed
  inserting : v.execution.admission = .inserting →
    v.execution.dispatched = false ∧ v.execution.noticed = false
  failing : v.execution.lane ≠ none → v.execution.admission.fails = true →
    v.execution.dispatched = false ∧ v.execution.noticed = false
  gone : v.execution.lane ≠ none → v.execution.admission.fails = true →
    v.execution.admission.isRefused = false → v.execution.runner ≠ .queued

theorem Unseen.fresh (fresh : v.Fresh) : v.Unseen := by
  refine ⟨.fresh fresh, .fresh fresh, ?_, ?_, ?_⟩ <;> cases fresh <;>
    simp [Execution.submitted, Execution.direct, Admission.fails]

/-- Whoever moves an execution whose submission is still to be inserted finds it unseen. -/
theorem Unseen.inserting_kept (inserting : v.execution.admission = .inserting →
      v.execution.dispatched = false ∧ v.execution.noticed = false)
    (prepared : v.execution.admission = .inserting →
      v.execution.lane ≠ none ∧ v.execution.runner = .prepared)
    (unset : v.execution.registered = true → v.execution.admission ≠ .inserting)
    (moved : v.execution.Moved label effect y) :
    y.admission = .inserting → y.dispatched = false ∧ y.noticed = false := by
  intro at_
  have before : v.execution.admission = .inserting := by
    by_contra past
    exact moved.inserted past at_
  have runner := (prepared before).2
  have flag : v.execution.registered = false := by
    by_contra set
    exact unset (by simpa using set) before
  have unseen := inserting before
  cases moved with
  | take queued => rw [runner] at queued; cases queued
  | loadSet working set | commitSet summary working set | reportSet pending set
  | stopSet hook working set => rw [flag] at set; cases set
  | _ => exact unseen

/-- An admission that fails has failed already, unless the registry refuses it now. -/
theorem Unseen.failing_kept (failing : v.execution.lane ≠ none →
      v.execution.admission.fails = true →
      v.execution.dispatched = false ∧ v.execution.noticed = false)
    (inserting : v.execution.admission = .inserting →
      v.execution.dispatched = false ∧ v.execution.noticed = false)
    (gone : v.execution.lane ≠ none → v.execution.admission.fails = true →
      v.execution.admission.isRefused = false → v.execution.runner ≠ .queued)
    (rejected : v.execution.registered = true → v.execution.admission.fails = true →
      v.execution.admission.isRejected = true)
    (moved : v.execution.Moved label effect y)
    (refused : ∀ error, label = .admission (some error) → v.execution.admission = .swapped →
      v.execution.dispatched = false ∧ v.execution.noticed = false)
    (left : label = .take → v.execution.admission.isRefused = false)
    (unread : (label = .run ∧
        (v.execution.runner = .claimed ∨ v.execution.runner.isPublished = true)
      ∨ label = .loadReport ∨ label = .stop ∧ v.execution.stop.isLoading = true) →
      v.execution.admission.isRejected = false) :
    y.lane ≠ none → y.admission.fails = true → y.dispatched = false ∧ y.noticed = false := by
  intro hasLane fails
  rw [moved.lane] at hasLane
  have before := failing hasLane
  cases moved with
  | insert | swap | enter | announce | accept | launch => cases fails
  | refuse error at_ => exact inserting at_
  | reject error at_ => exact refused error rfl at_
  | clear error at_ | abandon error at_ | rollBack error at_ | missed error at_
  | dropped error at_ => exact before (by rw [at_]; rfl)
  | loadSet at_ set | commitSet summary at_ set | reportSet pending set | stopSet hook at_ set =>
    have still := rejected set fails
    rw [unread (by simp [*, Runner.isPublished, Stop.isLoading])] at still
    cases still
  | take queued => exact (gone hasLane fails (left rfl) queued).elim
  | _ => exact before fails

/-- A failing admission that is not in the lane does not come back to it. -/
theorem Unseen.gone_kept (gone : v.execution.lane ≠ none → v.execution.admission.fails = true →
      v.execution.admission.isRefused = false → v.execution.runner ≠ .queued)
    (moved : v.execution.Moved label effect y) :
    y.lane ≠ none → y.admission.fails = true → y.admission.isRefused = false →
      y.runner ≠ .queued := by
  intro hasLane fails unrefused
  rw [moved.lane] at hasLane
  have before := gone hasLane
  cases moved with
  | insert | swap | enter | announce | accept | launch => cases fails
  | reject | clear => cases unrefused
  | missed error at_ inLane unqueued => exact unqueued
  | dropped error at_ finished => simp [finished]
  | _ => first | exact before fails unrefused | simp

/-- One move of a run that refuses unseen. -/
theorem Unseen.kept (unseen : v.Unseen) (sound : v.execution.Sound)
    (moved : v.execution.Moved label effect y)
    (refused : ∀ error, label = .admission (some error) → v.execution.admission = .swapped →
      v.execution.dispatched = false ∧ v.execution.noticed = false)
    (left : label = .take → v.execution.admission.isRefused = false)
    (unread : (label = .run ∧
        (v.execution.runner = .claimed ∨ v.execution.runner.isPublished = true)
      ∨ label = .loadReport ∨ label = .stop ∧ v.execution.stop.isLoading = true) →
      v.execution.admission.isRejected = false) : (v.after y effect).Unseen := by
  obtain ⟨listed, unnoticed, inserting, failing, gone⟩ := unseen
  have unset : v.execution.registered = true → v.execution.admission ≠ .inserting := by
    intro registered at_
    rw [sound.flag, at_] at registered
    cases registered
  have rejected : v.execution.registered = true → v.execution.admission.fails = true →
      v.execution.admission.isRejected = true := by
    intro registered
    exact Admission.isRejected_of_flag (sound.flag ▸ registered)
  refine ⟨listed.kept sound moved, unnoticed.kept moved, ?_, ?_, ?_⟩
  · rw [after_execution]
    exact inserting_kept inserting sound.inserting unset moved
  · rw [after_execution]
    exact failing_kept failing inserting gone rejected moved refused left unread
  · rw [after_execution]
    exact gone_kept gone moved

end View

/-! ## Runs -/

namespace Executor

variable {config : ExecutorConfig} {s t : Executor} {i : ExecutionId} {x : Execution}

/-- The views of a run that refuses unseen. -/
theorem unseen_of_reaches
    (run : (executor config).Reaches (RefusesUnseen config) (executor config).init s) :
    ∀ i v, s.view i = some v → v.Unseen := by
  refine view_invariant run (fun v fresh => .fresh fresh) ?_
  intro s action i v label effect y unseen found of sound moved before
  have here := (view_eq_some.1 found).1
  obtain ⟨refuses, takes, reads⟩ := unseen
  refine before.kept sound moved ?_ ?_ ?_
  · intro error eq at_
    subst eq
    obtain ⟨action_, x, at_i, refused⟩ := of
    cases at_i.symm.trans here
    subst action_
    exact refuses _ here at_ (by rw [← refused]; simp)
  · intro eq
    subst eq
    obtain ⟨lane, action_, taken⟩ := of
    subst action_
    exact takes i taken _ here
  · intro reading
    refine reads _ ?_
    rcases reading with ⟨eq, loads⟩ | eq | ⟨eq, loads⟩ <;> subst eq <;> cases of
    · have test : ((s.executions i).any fun x => x.runner == .claimed || x.runner.isPublished) =
          true := by
        simpa [here] using loads
      simp only [readsFlag, test, if_true, Option.bind_some]
      exact here
    · exact here
    · have test : ((s.executions i).any fun x => x.stop.isLoading) = true := by
        simpa [here] using loads
      simp only [readsFlag, test, if_true, Option.bind_some]
      exact here

/-- A lane has nothing of an execution that is neither queued in it nor monitored. -/
theorem Coupled.absent (coupled : s.Coupled config) (found : s.executions i = some x)
    (unqueued : x.runner ≠ .queued) (undispatched : x.dispatched = false) (lane : LaneId) :
    Absent (config.lanes lane) (s.lanes lane).lane i := by
  have inv := coupled.laneInv lane
  have entries : i ∉ (s.lanes lane).lane.entries := by
    intro queued
    exact unqueued (((coupled.agrees lane).entries_self found).1 queued).2
  have monitors : i ∉ (s.lanes lane).monitors := by
    intro monitor
    obtain ⟨y, at_i, dispatched⟩ := (coupled.agrees lane).monitors i monitor
    cases at_i.symm.trans found
    rw [undispatched] at dispatched
    cases dispatched
  have active : i ∉ (s.lanes lane).lane.active := by
    intro member
    exact (inv.covered i member).elim entries monitors
  exact ⟨inv.lane, fun queued => entries ((inv.lane.queue.mem i).1 queued), entries, active,
    fun held => active (inv.lane.keys_running i held).1⟩

/-! ### The section that gives the submission up -/

theorem GivenUp.tail {action : ExecutorAction} {lane : LaneId} (givenUp : s.GivenUp config i lane)
    (step : s.step config action = some t) : t.GivenUp config i lane := by
  cases givenUp with
  | refused reached found at_ gave later same =>
    exact .refused reached found at_ gave (later.tail trivial step) same
  | removed reached found at_ gave later without =>
    exact .removed reached found at_ gave (later.tail trivial step) without

/-- A submission that the lane refuses has not touched it. -/
theorem lane_of_refused {lane : LaneId} {y : Execution} (found : s.executions i = some x)
    (place : x.lane = some lane) (at_ : x.admission = .inserting)
    (step : s.step config (.advanceAdmission i) = some t) (after : t.executions i = some y)
    (refused : y.admission ≠ .registering) : (t.lanes lane).lane = (s.lanes lane).lane := by
  obtain ⟨x', here, advanced⟩ := Option.bind_eq_some_iff.1 step
  obtain rfl : x = x' := Option.some.inj (found.symm.trans here)
  simp only [Executor.move, Executor.advanceAdmission, at_, place, Executor.insertPrepared,
    Option.map_eq_some_iff] at advanced
  obtain ⟨run, inserted, rfl⟩ := advanced
  rw [put_lanes, setLane_self]
  obtain ⟨-, answer⟩ := Option.ite_none_left_eq_some.1 inserted
  split at answer
  · obtain rfl := Option.some.inj answer
    rfl
  · rename_i ok
    rw [put_executions, Pool.set_self] at after
    simp only [ok] at after
    obtain rfl := Option.some.inj after
    exact (refused rfl).elim

/-- The roll-back of a submission that was not dispatched leaves the lane without it. -/
theorem Coupled.rollBack_without {lane : LaneId} {error : SpawnError} (coupled : s.Coupled config)
    (found : s.executions i = some x) (place : x.lane = some lane)
    (untaken : x.dispatched = false) (at_ : x.admission = .rollback error)
    (step : s.step config (.advanceAdmission i) = some t) :
    LaneState.Without (config.lanes lane) (s.lanes lane).lane i (t.lanes lane).lane := by
  obtain ⟨x', here, advanced⟩ := Option.bind_eq_some_iff.1 step
  obtain rfl : x = x' := Option.some.inj (found.symm.trans here)
  simp only [Executor.move, Executor.advanceAdmission, at_, place, Option.some.injEq] at advanced
  have after : (t.lanes lane).lane = ((s.lanes lane).lane.removeQueued i).1 := by
    rw [← advanced, rollBack, releaseAdmission_lanes, put_lanes, setLane_self]
    rfl
  rw [after]
  exact (coupled.laneInv lane).lane.without (coupled.queued_of_active found untaken)

/-- An admission that has failed without a dispatch has given the submission up. -/
theorem givenUp_of_fails (reached : (executor config).Reachable s) :
    ∀ {x : Execution} {lane : LaneId}, s.executions i = some x → x.lane = some lane →
      x.admission.fails = true → x.admission.isRefused = false → x.dispatched = false →
      s.GivenUp config i lane := by
  induction reached with
  | refl =>
    intro x lane absurd
    cases absurd
  | @tail t u action run _ step ih =>
    intro x lane found place fails gone untaken
    have coupled := Coupled.of_reaches run
    rcases (coupled.step step).2 i with ⟨same, -⟩ | ⟨fresh, -, -, created⟩ |
      @⟨v, label, effect, y, before, moved, of, after⟩
    · exact (ih (same ▸ found) place fails gone untaken).tail step
    · obtain rfl := Option.some.inj ((view_eq_some.1 created).1.symm.trans found)
      cases fresh <;> cases fails
    · have at_u := (view_eq_some.1 after).1
      rw [View.after_execution] at at_u
      obtain rfl := Option.some.inj (at_u.symm.trans found)
      have at_t := (view_eq_some.1 before).1
      have place' := moved.lane.symm.trans place
      have untaken' : v.execution.dispatched = false := by
        refine Bool.eq_false_iff.2 fun taken => ?_
        exact Bool.false_ne_true (untaken.symm.trans (moved.dispatched taken))
      -- the call has just failed, or had failed before
      by_cases earlier : v.execution.admission.fails = true ∧
          v.execution.admission.isRefused = false
      · exact (ih at_t place' earlier.1 earlier.2 untaken').tail step
      · cases moved with
        | refuse error at_ =>
          obtain ⟨rfl, -⟩ := of
          exact .refused run at_t at_ step .refl
            (lane_of_refused at_t place' at_ step at_u (by simp))
        | rollBack error at_ | missed error at_ =>
          obtain ⟨rfl, -⟩ := of
          exact .removed run at_t at_ step .refl
            (coupled.rollBack_without at_t place' untaken' at_ step)
        | abandon error at_ unplaced => exact absurd (unplaced.symm.trans place') (by simp)
        | dropped error at_ =>
          exact (earlier (by simp [at_, Admission.fails, Admission.isRefused])).elim
        | insert | swap | enter | announce | accept | launch => cases fails
        | reject | clear => cases gone
        | _ => exact (earlier ⟨fails, gone⟩).elim

/-- Once in the registry, an admission cannot fail any more. -/
theorem entered_stays {ok : Executor → ExecutorAction → Prop} {v : View}
    (coupled : s.Coupled config) (run : (executor config).Reaches ok s t)
    (found : s.view i = some v) (entered : v.execution.admission.isEntered = true) :
    ∃ w, t.view i = some w ∧ w.execution.admission.isEntered = true := by
  refine view_stays (P := fun v => v.execution.admission.isEntered = true) coupled run found
    entered ?_
  intro v label effect y sound moved entered
  rw [View.after_execution]
  by_cases enters : effect = .enter
  · subst enters
    cases moved
    rfl
  · exact (moved.isEntered enters).trans entered

end Executor

/-- **A refused submission leaves no trace.**  In every run that refuses unseen, a
lane admission that answers `Err` has polled nothing, its submission is gone from
the lane, which is as if it had never been made, and neither the registry nor the
subscriber has ever heard of it. -/
theorem rollback_clean {config : ExecutorConfig} {before after : List ExecutorAction}
    {s t : Executor} {i : ExecutionId} {x : Execution} {error : SpawnError}
    (run : (executor config).exec (executor config).init before = some s)
    (rest : (executor config).exec s after = some t)
    (meets : (executor config).Meets (Executor.RefusesUnseen config) (executor config).init
      (before ++ after))
    (found : t.executions i = some x) (hasLane : x.lane ≠ none)
    (refused : x.admission = .returned (some error)) :
    t.NoTrace config (before ++ after) i x ∧ i ∉ s.active := by
  obtain ⟨early, late⟩ := (System.Meets.append run).1 meets
  have ran : (executor config).exec (executor config).init (before ++ after) = some t := by
    rw [System.exec_append, run]
    exact rest
  have first := System.Reaches.of_exec run early
  have second := System.Reaches.of_exec rest late
  have reached := first.trans second
  have coupled := Executor.Coupled.of_reaches reached
  have view := Executor.view_eq_some.2
    (⟨found, rfl, rfl, rfl⟩ : t.executions i = some (View.mk x (decide (i ∈ t.active))
      (t.finishes.count i) (t.eventsOf i)).execution ∧ _)
  have unseen := Executor.unseen_of_reaches reached i _ view
  have fails : x.admission.fails = true := by rw [refused]; rfl
  have over_ : x.admission.isRefused = false := by rw [refused]; rfl
  obtain ⟨undispatched, unnoticed⟩ := unseen.failing hasLane fails
  have unqueued := unseen.gone hasLane fails over_
  have silent := unseen.unnoticed unnoticed
  have absent := coupled.absent found unqueued undispatched
  refine ⟨⟨?_, absent, ?_, ?_, ?_, ?_, ?_⟩, ?_⟩
  · exact ((coupled.sound i x found).dispatched hasLane undispatched).2
  · intro lane place
    exact Executor.givenUp_of_fails (System.Reaches.of_schedule _ ran) found place fails over_
      undispatched
  · intro lane
    refine Executor.queue_without ran (fun y at_i => ?_) (absent lane).entries
    obtain rfl := Option.some.inj (found.symm.trans at_i)
    exact undispatched
  · have inactive := unseen.listed.unentered (by rw [refused]; rfl)
    simpa using inactive
  · exact silent.unannounced (by rw [refused]; rfl)
  · exact silent.finishes
  · intro member
    have coupled' := Executor.Coupled.of_reaches first
    cases at_s : s.executions i with
    | none => exact (coupled'.unborn i at_s).1 member
    | some z =>
      have seen := Executor.view_eq_some.2
        (⟨at_s, rfl, rfl, rfl⟩ : s.executions i = some (View.mk z (decide (i ∈ s.active))
          (s.finishes.count i) (s.eventsOf i)).execution ∧ _)
      have listed := (Executor.unseen_of_reaches first i _ seen).listed
      have entered : z.admission.isEntered = true := by
        by_contra outside
        have inactive := listed.unentered (by simpa using outside)
        simp [member] at inactive
      obtain ⟨w, later, still⟩ := Executor.entered_stays coupled' second seen entered
      cases view.symm.trans later
      rw [refused] at still
      cases still

/-- One place in the registry. -/
def fullExecutor : ExecutorConfig where
  lanes _ := narrowLane
  maxActiveExecutions := 1

/-- Execution 0 fills the registry. -/
def fillingRun : List ExecutorAction :=
  [.spawn 0 false, .advanceAdmission 0, .advanceAdmission 0, .advanceAdmission 0,
    .advanceAdmission 0]

/-- The dispatcher keeps away from submission 1 until it is taken back. -/
def refusedRun : List ExecutorAction :=
  fillingRun ++ [.submit 1 0 {} none false, .advanceAdmission 1, .advanceAdmission 1,
    .advanceAdmission 1, .advanceAdmission 1, .advanceAdmission 1, .run 1, .run 1, .run 1,
    .advanceAdmission 1, .dispatch 0]

/-- The dispatcher starts submission 1 before the registry refuses it. -/
def ghostRun : List ExecutorAction :=
  fillingRun ++ [.submit 1 0 {} none false, .advanceAdmission 1, .dispatch 0, .start 1, .run 1,
    .run 1, .advanceAdmission 1, .advanceAdmission 1, .advanceAdmission 1, .advanceAdmission 1]

theorem rollback_clean_refused :
    ∃ s x, (executor fullExecutor).exec (executor fullExecutor).init refusedRun = some s ∧
      s.executions 1 = some x ∧
      x.admission = .returned (some (.internal "active executions")) ∧
      s.NoTrace fullExecutor refusedRun 1 x := by
  have ends : ((executor fullExecutor).exec (executor fullExecutor).init refusedRun).map
      (fun s => (s.executions 1).map fun x => (x.admission, x.lane)) =
        some (some (.returned (some (.internal "active executions")), some 0)) := rfl
  obtain ⟨s, run, facts⟩ := Option.map_eq_some_iff.1 ends
  obtain ⟨x, found, fields⟩ := Option.map_eq_some_iff.1 facts
  rw [Prod.mk.injEq] at fields
  obtain ⟨admission, lane⟩ := fields
  have meets : (executor fullExecutor).Meets (Executor.RefusesUnseen fullExecutor)
      (executor fullExecutor).init (refusedRun ++ []) := by decide
  have clean := rollback_clean run (rfl : (executor fullExecutor).exec s [] = some s) meets found
    (by simp [lane]) admission
  rw [List.append_nil] at clean
  exact ⟨s, x, run, found, admission, clean.1⟩

/-- The call answers `Err`, yet the submission runs and holds the lane's only slot. -/
theorem rollback_ghost :
    ∃ s x, (executor fullExecutor).exec (executor fullExecutor).init ghostRun = some s ∧
      s.executions 1 = some x ∧ x.lane = some 0 ∧
      x.admission = .returned (some (.internal "active executions")) ∧
      x.polled = true ∧ 1 ∈ (s.lanes 0).lane.active ∧ (s.lanes 0).lane.running = 1 := by
  have ends : ((executor fullExecutor).exec (executor fullExecutor).init ghostRun).map
      (fun s => ((s.executions 1).map fun x => (x.admission, x.lane, x.polled),
        (s.lanes 0).lane.active, (s.lanes 0).lane.running)) =
        some (some (.returned (some (.internal "active executions")), some 0, true), {1}, 1) := rfl
  obtain ⟨s, run, facts⟩ := Option.map_eq_some_iff.1 ends
  simp only [Prod.mk.injEq, Option.map_eq_some_iff] at facts
  obtain ⟨⟨x, found, admission, lane, polled⟩, active, running⟩ := facts
  exact ⟨s, x, run, found, lane, admission, polled, by simp [active], running⟩

end BusyBeaver
