import BusyBeaver.Executor.Outstanding

/-!
# Cancelling a queued execution

A stop accepted before `claim_start` succeeds wins over every start that is on its way:
whoever takes the queued-cancel hook first, the factory is not called and the exit is the
one the stop selects.  If the dispatcher has not taken the execution by the time the call
returns, the call's `remove_queued` has left the lane as it was without the execution.
-/

namespace BusyBeaver

open Transition Execution

/-- The exit `commit` selects for an execution that was stopped before it ran. -/
def StopCauseSummary.exitSummary : StopCauseSummary → TaskExitSummary
  | .cancel reason => .cancelled reason
  | .deadline => .failed

/-- `claim_start` has succeeded. -/
def Execution.hasClaimed (x : Execution) : Bool :=
  x.polled ||
    match x.runner with
    | .claimed | .announcing => true
    | _ => false

/-- A cause overrides the exit of a runner that never ran. -/
theorem summary_of_commit {core : CoreState} {cause : StopCauseSummary}
    {committed : Committed Unit Unit} (stopped : committed.core.stopCause = some cause)
    (written : core.commit none Exit.runnerCancelled = some committed) :
    committed.core.terminal = some cause.exitSummary := by
  unfold CoreState.commit at written
  split at written
  · cases written
  · cases written
    have before : core.stopCause = some cause := stopped
    rw [before]
    cases cause <;> rfl

namespace View

variable {v : View} {label : Label} {effect : Effect} {y : Execution}

/-- What holds of an execution whose `claim_start` has not succeeded. -/
structure NotClaimed (v : View) : Prop where
  working : v.execution.runner = .working → v.execution.polled = true
  exit : v.execution.hasClaimed = false → ∀ exit, v.execution.runner = .exiting exit →
    exit = .runnerCancelled
  terminal : v.execution.hasClaimed = false → ∀ cause, v.execution.core.stopCause = some cause →
    v.execution.core.terminal = none ∨ v.execution.core.terminal = some cause.exitSummary

theorem NotClaimed.fresh (fresh : v.Fresh) : v.NotClaimed := by
  cases fresh <;> exact ⟨nofun, nofun, nofun⟩

/-- A claim is not taken back. -/
theorem NotClaimed.unclaimed (before : v.NotClaimed) (sound : v.execution.Sound)
    (moved : v.execution.Moved label effect y) (unclaimed : y.hasClaimed = false) :
    v.execution.hasClaimed = false := by
  have working := before.working
  have inserting := sound.inserting
  have direct := sound.direct
  cases moved <;> first
    | exact unclaimed
    | simp_all [Execution.hasClaimed, Admission.holdsStart]

theorem NotClaimed.working_kept (before : v.NotClaimed)
    (moved : v.execution.Moved label effect y) : y.runner = .working → y.polled = true := by
  have working := before.working
  cases moved <;> first
    | exact working
    | simp_all

theorem NotClaimed.exit_kept (before : v.NotClaimed) (sound : v.execution.Sound)
    (moved : v.execution.Moved label effect y)
    (unclaimed : y.hasClaimed = false) : ∀ exit, y.runner = .exiting exit →
      exit = .runnerCancelled := by
  have unclaimed' := before.unclaimed sound moved unclaimed
  have exit := before.exit unclaimed'
  have working := before.working
  cases moved <;> first
    | exact exit
    | simp_all [Execution.hasClaimed]

theorem NotClaimed.terminal_kept (before : v.NotClaimed) (sound : v.execution.Sound)
    (moved : v.execution.Moved label effect y) (unclaimed : y.hasClaimed = false) :
    ∀ cause, y.core.stopCause = some cause →
      y.core.terminal = none ∨ y.core.terminal = some cause.exitSummary := by
  have unclaimed' := before.unclaimed sound moved unclaimed
  have terminal := before.terminal unclaimed'
  have exit := before.exit unclaimed'
  cases moved with
  | claim core at_ claimed => simp [Execution.hasClaimed] at unclaimed
  | commit proposed committed at_ written | commitOver proposed committed at_ written =>
    intro cause stopped
    obtain rfl := exit proposed at_
    exact Or.inr (summary_of_commit stopped written)
  | report next core polled written =>
    obtain ⟨-, unstopped, eq⟩ := CoreState.setActiveState_eq_some.1 written
    intro cause stopped
    rw [eq, unstopped] at stopped
    cases stopped
  | requestStop cause core seen accepted =>
    intro _ _
    exact Or.inl (terminal_of_requestStop accepted).2.2.1
  | _ => exact terminal

theorem NotClaimed.kept (before : v.NotClaimed) (sound : v.execution.Sound)
    (moved : v.execution.Moved label effect y) :
    (v.after y effect).NotClaimed := by
  constructor
  · rw [after_execution]
    exact before.working_kept moved
  · rw [after_execution]
    exact before.exit_kept sound moved
  · rw [after_execution]
    exact before.terminal_kept sound moved

/-- A stop was accepted, and `claim_start` had not succeeded. -/
structure StoppedFirst (cause : StopCauseSummary) (v : View) : Prop extends v.NotClaimed where
  stopped : v.execution.core.stopCause = some cause
  unclaimed : v.execution.hasClaimed = false

theorem StoppedFirst.stopped_kept {cause : StopCauseSummary} (before : v.StoppedFirst cause)
    (moved : v.execution.Moved label effect y) : y.core.stopCause = some cause := by
  have stopped := before.stopped
  cases moved with
  | claim core at_ claimed =>
    rw [(CoreState.claimStart_eq_some.1 claimed).2.1] at stopped
    cases stopped
  | report next core polled written =>
    rw [(CoreState.setActiveState_eq_some.1 written).2.1] at stopped
    cases stopped
  | requestStop cause core seen accepted =>
    rw [(terminal_of_requestStop accepted).2.1] at stopped
    cases stopped
  | commit exit committed at_ written | commitOver exit committed at_ written =>
    unfold CoreState.commit at written
    split at written
    · cases written
    · cases written
      exact stopped
  | _ => exact stopped

/-- `claim_start` answers `false` from then on. -/
theorem StoppedFirst.unclaimed_kept {cause : StopCauseSummary} (before : v.StoppedFirst cause)
    (moved : v.execution.Moved label effect y) : y.hasClaimed = false := by
  have unclaimed := before.unclaimed
  have stopped := before.stopped
  cases moved with
  | claim core at_ claimed =>
    rw [(CoreState.claimStart_eq_some.1 claimed).2.1] at stopped
    cases stopped
  | _ => first
    | exact unclaimed
    | simp_all [Execution.hasClaimed]

theorem StoppedFirst.kept {cause : StopCauseSummary} (before : v.StoppedFirst cause)
    (sound : v.execution.Sound) (moved : v.execution.Moved label effect y) :
    (v.after y effect).StoppedFirst cause := by
  refine ⟨before.toNotClaimed.kept sound moved, ?_, ?_⟩
  · rw [after_execution]
    exact before.stopped_kept moved
  · rw [after_execution]
    exact before.unclaimed_kept moved

/-! ## The hook -/

/-- The stop of an execution the dispatcher has not taken still has its hook. -/
structure Hooked (v : View) : Prop where
  idle : v.execution.stop = .idle ↔ v.execution.core.stopCause = none
  inserted : v.execution.stop ≠ .idle → v.execution.admission ≠ .inserting
  armed : v.execution.lane ≠ none → v.execution.dispatched = false →
    v.execution.stop = .idle ∨ v.execution.stop = .accepted → v.execution.queuedCancelHook = true
  taken : v.execution.lane ≠ none → v.execution.dispatched = false →
    ∀ hook, v.execution.stop = .loading hook ∨ v.execution.stop = .announcing hook → hook = true
  removed : v.execution.lane ≠ none → v.execution.dispatched = false →
    v.execution.stop = .done → v.execution.runner ≠ .queued

theorem Hooked.fresh (fresh : v.Fresh) : v.Hooked := by
  cases fresh <;> constructor <;>
    simp [Execution.submitted, Execution.direct, CoreState.new]

theorem emitted_ne_idle (hook : Bool) : Stop.emitted hook ≠ .idle := by
  cases hook <;> simp [Stop.emitted]

/-- Nobody holds a control of a submission before it is inserted. -/
theorem inserted_of_visible {x : Execution} (visible : x.visible = true) :
    x.admission ≠ .inserting := by
  intro inserting
  simp [Execution.visible, inserting, Admission.isEntered] at visible

theorem Hooked.idle_kept (before : v.Hooked) (moved : v.execution.Moved label effect y) :
    y.stop = .idle ↔ y.core.stopCause = none := by
  have idle := before.idle
  cases moved with
  | claim core at_ claimed =>
    obtain ⟨-, unstopped, eq⟩ := CoreState.claimStart_eq_some.1 claimed
    simp [idle, unstopped, eq]
  | report next core polled written =>
    obtain ⟨-, unstopped, eq⟩ := CoreState.setActiveState_eq_some.1 written
    simp [idle, unstopped, eq]
  | requestStop cause core seen accepted =>
    simp [(terminal_of_requestStop accepted).2.2.2]
  | commit exit committed at_ written | commitOver exit committed at_ written =>
    unfold CoreState.commit at written
    split at written
    · cases written
    · cases written
      exact idle
  | takeHook at_ | stopSet hook at_ | hook at_ | hookMissed at_ =>
    have stopped : ¬ v.execution.core.stopCause = none := by simp [← idle, at_]
    exact iff_of_false (by simp) stopped
  | stopUnset hook at_ | announceStop hook at_ =>
    have stopped : ¬ v.execution.core.stopCause = none := by simp [← idle, at_]
    exact iff_of_false (emitted_ne_idle hook) stopped
  | _ => exact idle

theorem Hooked.inserted_kept (before : v.Hooked) (moved : v.execution.Moved label effect y) :
    y.stop ≠ .idle → y.admission ≠ .inserting := by
  have inserted := before.inserted
  cases moved with
  | requestStop cause core seen accepted => exact fun _ => inserted_of_visible seen
  | takeHook at_ | stopSet hook at_ | stopUnset hook at_ | announceStop hook at_ | hook at_
  | hookMissed at_ => exact fun _ => inserted (by simp [at_])
  | insert | refuse | swap | enter | reject | announce | accept | launch | clear | abandon
  | rollBack | missed | dropped => exact fun _ => by simp
  | _ => exact inserted

/-- Nobody but `start` disarms the hook, and a start was dispatched before. -/
theorem Hooked.armed_kept (before : v.Hooked) (sound : v.execution.Sound)
    (moved : v.execution.Moved label effect y) :
    y.lane ≠ none → y.dispatched = false → y.stop = .idle ∨ y.stop = .accepted →
      y.queuedCancelHook = true := by
  have armed := before.armed
  cases moved with
  | take => exact fun _ absurd => by cases absurd
  | start at_ =>
    intro lane untaken _
    have idle := (sound.dispatched lane untaken).1
    rw [at_] at idle
    cases idle
  | requestStop cause core seen accepted =>
    intro lane untaken _
    exact armed lane untaken (Or.inl (before.idle.2 (terminal_of_requestStop accepted).2.1))
  | takeHook at_ | stopSet hook at_ | hook at_ | hookMissed at_ =>
    intro _ _ absurd
    simp at absurd
  | stopUnset hook at_ | announceStop hook at_ =>
    intro _ _ absurd
    cases hook <;> simp [Stop.emitted] at absurd
  | _ => exact armed

theorem Hooked.taken_kept (before : v.Hooked) (moved : v.execution.Moved label effect y) :
    y.lane ≠ none → y.dispatched = false →
      ∀ hook, y.stop = .loading hook ∨ y.stop = .announcing hook → hook = true := by
  have taken := before.taken
  have armed := before.armed
  cases moved with
  | take => exact fun _ absurd => by cases absurd
  | takeHook at_ =>
    intro lane untaken hook loading
    simp only [Stop.loading.injEq, reduceCtorEq, or_false] at loading
    rw [← loading]
    exact armed lane untaken (Or.inr at_)
  | stopSet own at_ =>
    intro lane untaken hook announcing
    simp only [Stop.announcing.injEq, reduceCtorEq, false_or] at announcing
    exact announcing ▸ taken lane untaken own (Or.inl at_)
  | requestStop | hook | hookMissed =>
    intro _ _ hook absurd
    simp at absurd
  | stopUnset hook at_ | announceStop hook at_ =>
    intro _ _ other absurd
    cases hook <;> simp [Stop.emitted] at absurd
  | _ => exact taken

/-- The stop of an execution that was not taken ends with its removal. -/
theorem Hooked.removed_kept (before : v.Hooked) (moved : v.execution.Moved label effect y) :
    y.lane ≠ none → y.dispatched = false → y.stop = .done → y.runner ≠ .queued := by
  have removed := before.removed
  have taken := before.taken
  cases moved with
  | insert at_ =>
    intro _ _ stopped _
    exact before.inserted (by simp [show v.execution.stop = .done from stopped]) at_
  | requestStop | takeHook | stopSet =>
    intro _ _ absurd
    cases absurd
  | stopUnset hook at_ =>
    intro lane untaken stopped
    obtain rfl := taken lane untaken hook (Or.inl at_)
    cases stopped
  | announceStop hook at_ =>
    intro lane untaken stopped
    obtain rfl := taken lane untaken hook (Or.inr at_)
    cases stopped
  | hookMissed at_ gone => exact fun _ _ _ => gone
  | refuse | launch | abandon | rollBack | take | drain | start | claim | unclaimed | loadSet
  | loadUnset | announceStart | finishBody | loseSpawned | loseWorking | commit | commitOver
  | discard | unwind | lost | publish | commitSet | commitUnset | leave | record | close | hook =>
    intro _ _ _ absurd
    cases absurd
  | _ => exact removed

theorem Hooked.kept (before : v.Hooked) (sound : v.execution.Sound)
    (moved : v.execution.Moved label effect y) : (v.after y effect).Hooked := by
  constructor
  all_goals rw [after_execution]
  · exact before.idle_kept moved
  · exact before.inserted_kept moved
  · exact before.armed_kept sound moved
  · exact before.taken_kept moved
  · exact before.removed_kept moved

/-- A stop of an execution that was not taken ends with its hook. -/
theorem Hooked.done_of (before : v.Hooked) (moved : v.execution.Moved label effect y)
    (lane : v.execution.lane ≠ none) (untaken : v.execution.dispatched = false)
    (stopped : y.stop = .done) :
    v.execution.stop = .done ∨ label = .stop ∧ v.execution.stop = .hooking := by
  have taken := before.taken lane untaken
  cases moved with
  | stopUnset hook at_ =>
    obtain rfl := taken hook (Or.inl at_)
    cases stopped
  | announceStop hook at_ =>
    obtain rfl := taken hook (Or.inr at_)
    cases stopped
  | hook at_ | hookMissed at_ => exact Or.inr ⟨rfl, at_⟩
  | requestStop | takeHook | stopSet => cases stopped
  | _ => exact Or.inl stopped

end View

namespace Executor

variable {config : ExecutorConfig} {s t : Executor} {i : ExecutionId} {x : Execution}
  {lane : LaneId}

theorem Coupled.hook_without (coupled : s.Coupled config) (found : s.executions i = some x)
    (place : x.lane = some lane) (untaken : x.dispatched = false) (at_ : x.stop = .hooking)
    (step : s.step config (.advanceStop i) = some t) :
    LaneState.Without (config.lanes lane) (s.lanes lane).lane i (t.lanes lane).lane := by
  obtain ⟨y, here, advanced⟩ := Option.bind_eq_some_iff.1 step
  obtain rfl : x = y := Option.some.inj (found.symm.trans here)
  simp only [Executor.move, Executor.advanceStop, at_, place, Option.some.injEq] at advanced
  have after : (t.lanes lane).lane = ((s.lanes lane).lane.removeQueued i).1 := by
    rw [← advanced, runHook, put_lanes, setLane_self]
    rfl
  rw [after]
  exact (coupled.laneInv lane).lane.without (coupled.queued_of_active found untaken)

theorem hooked_of_reaches {ok : Executor → ExecutorAction → Prop}
    (run : (executor config).Reaches ok (executor config).init s) :
    ∀ i v, s.view i = some v → v.Hooked :=
  view_invariant run (fun _ fresh => .fresh fresh) fun _ _ _ sound moved before =>
    before.kept sound moved

theorem notClaimed_of_reaches {ok : Executor → ExecutorAction → Prop}
    (run : (executor config).Reaches ok (executor config).init s) :
    ∀ i v, s.view i = some v → v.NotClaimed :=
  view_invariant run (fun _ fresh => .fresh fresh) fun _ _ _ sound moved before =>
    before.kept sound moved

/-- Earlier in the run the call's `remove_queued` left the lane without the execution. -/
def Removal (config : ExecutorConfig) (s : Executor) (i : ExecutionId) (lane : LaneId) : Prop :=
  ∃ before after, (executor config).Reachable before ∧
    before.step config (.advanceStop i) = some after ∧
    (executor config).Reaches (fun _ _ => True) after s ∧
    LaneState.Without (config.lanes lane) (before.lanes lane).lane i (after.lanes lane).lane

theorem Removal.tail {action : ExecutorAction} (removal : s.Removal config i lane)
    (step : s.step config action = some t) : t.Removal config i lane := by
  obtain ⟨before, after, reached, hooked, later, without⟩ := removal
  exact ⟨before, after, reached, hooked, later.tail trivial step, without⟩

/-- A stop that has ended without a dispatch has removed the execution. -/
theorem removal_of_done (reached : (executor config).Reachable s) :
    s.executions i = some x → x.lane = some lane → x.stop = .done → x.dispatched = false →
      s.Removal config i lane := by
  induction reached generalizing x with
  | refl =>
    intro absurd
    cases absurd
  | @tail t u action run _ step ih =>
    intro found place stopped untaken
    have coupled := Coupled.of_reaches run
    rcases (coupled.step step).2 i with ⟨same, -⟩ | ⟨fresh, -, -, created⟩ |
      ⟨before, moved, of, moved_⟩
    · exact (ih (same ▸ found) place stopped untaken).tail step
    · have here := (view_eq_some.1 created).1
      cases here.symm.trans found
      cases fresh <;> cases stopped
    · rename_i v label effect y
      have here := (view_eq_some.1 moved_).1
      rw [View.after_execution] at here
      cases here.symm.trans found
      have earlier := (view_eq_some.1 before).1
      have hooked := hooked_of_reaches run i _ before
      have place' := moved.lane.symm.trans place
      have untaken' : v.execution.dispatched = false := by
        refine Bool.eq_false_iff.2 fun taken => ?_
        exact Bool.false_ne_true (untaken.symm.trans (moved.dispatched taken))
      rcases hooked.done_of moved (by simp [place']) untaken' stopped with done | ⟨rfl, at_⟩
      · exact (ih earlier place' done untaken').tail step
      · cases of
        exact ⟨t, u, run, step, .refl, coupled.hook_without earlier place' untaken' at_ step⟩

end Executor

/-- Execution 1 is queued on lane 0 and cancelled by a call that returns before any
dispatch. -/
def cancelRun : List ExecutorAction :=
  [.submit 1 0 {} none false, .advanceAdmission 1, .advanceAdmission 1, .advanceAdmission 1,
    .advanceAdmission 1, .advanceAdmission 1, .requestStop 1 (.cancel .userRequested),
    .advanceStop 1, .advanceStop 1, .advanceStop 1, .advanceStop 1]

end BusyBeaver
