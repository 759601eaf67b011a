import BusyBeaver.Executor.Closing

/-!
# `close_and_cancel` as a barrier

Calls of `Lane::close_and_cancel` run beside the executor.  A call closes the lane and
takes its snapshot of `active` under the admission mutex, cancels the executions of the
snapshot one after the other, and then waits for each of them.  When it returns, the
lane accepts nothing any more, and everything the lane has accepted is terminal if the
snapshot was complete (`close_and_cancel_barrier`).  An entry that an individual
cancellation has just taken out of the queue is in no snapshot, and the call returns
ahead of its exit (`close_and_cancel_overtakes`).
-/

namespace BusyBeaver

open Transition Execution

/-! ## The call -/

/-- A call of `close_and_cancel` that has its snapshot `controls`. -/
inductive CloseAndCancel : Type
  /-- `control.cancel` of the first of `rest` is next. -/
  | cancelling (rest controls : List ExecutionId)
  /-- Inside the `control.cancel` of `current`, which was accepted. -/
  | stopping (current : ExecutionId) (rest controls : List ExecutionId)
  /-- `control.wait` of the first of `rest` is next. -/
  | waiting (rest : List ExecutionId)
  | returned
  deriving DecidableEq, Repr

/-- The executions the call has not waited for. -/
def CloseAndCancel.pending : CloseAndCancel → List ExecutionId
  | .cancelling _ controls | .stopping _ _ controls => controls
  | .waiting rest => rest
  | .returned => []

structure Closer : Type where
  lane : LaneId
  call : CloseAndCancel
  deriving DecidableEq, Repr

/-- An executor and the calls of `close_and_cancel` on its lanes. -/
structure Closing : Type where
  beaver : Executor
  closers : Pool Closer

inductive ClosingAction : Type
  | executor (action : ExecutorAction)
  /-- The section under the admission mutex; the map of the source lists its controls in
  some order. -/
  | closeAndCancel (closer : Nat) (lane : LaneId) (controls : List ExecutionId)
  /-- What the call does next. -/
  | advance (closer : Nat)

namespace Closing

/-- The call moves, and the executor with it. -/
def put (s : Closing) (closer : Nat) (lane : LaneId) (beaver : Executor)
    (call : CloseAndCancel) : Closing :=
  ⟨beaver, s.closers.set closer ⟨lane, call⟩⟩

def closeAndCancel (config : ExecutorConfig) (s : Closing) (closer : Nat) (lane : LaneId)
    (controls : List ExecutionId) : Option Closing :=
  if s.closers closer = none ∧ s.beaver.admitting = none ∧ controls.Nodup ∧
      controls.toFinset = (s.beaver.lanes lane).lane.active then
    (s.beaver.step config (.requestClose lane)).map fun beaver =>
      s.put closer lane beaver (.cancelling controls controls)
  else none

def advance (config : ExecutorConfig) (s : Closing) (closer : Nat) (lane : LaneId) :
    CloseAndCancel → Option Closing
  | .cancelling [] controls => some (s.put closer lane s.beaver (.waiting controls))
  | .cancelling (current :: rest) controls =>
    match s.beaver.step config (.requestStop current (.cancel .laneClosing)) with
    | some beaver => some (s.put closer lane beaver (.stopping current rest controls))
    -- a stop that is not accepted changes nothing
    | none => some (s.put closer lane s.beaver (.cancelling rest controls))
  | .stopping current rest controls =>
    -- the sections after the accepted one are the executor's own steps
    if (s.beaver.executions current).any fun x => decide (x.stop = .done) then
      some (s.put closer lane s.beaver (.cancelling rest controls))
    else none
  | .waiting [] => some (s.put closer lane s.beaver .returned)
  | .waiting (current :: rest) =>
    if (s.beaver.executions current).any Execution.waited then
      some (s.put closer lane s.beaver (.waiting rest))
    else none
  | .returned => none

def step (config : ExecutorConfig) (s : Closing) : ClosingAction → Option Closing
  | .executor action => (s.beaver.step config action).map fun beaver => { s with beaver }
  | .closeAndCancel closer lane controls => s.closeAndCancel config closer lane controls
  | .advance closer =>
    (s.closers closer).bind fun call => s.advance config closer call.lane call.call

end Closing

/-- An executor created with `config`, and nobody closing a lane of it. -/
def closing (config : ExecutorConfig) : System Closing ClosingAction where
  init := ⟨(executor config).init, fun _ => none⟩
  step := Closing.step config

namespace Closing

variable {config : ExecutorConfig} {s t : Closing} {action : ClosingAction} {closer : Nat}
  {lane : LaneId} {call : CloseAndCancel}

/-! ## One step -/

/-- What a call does next moves it past an answered wait, or past none. -/
theorem of_advance (advanced : s.advance config closer lane call = some t) :
    ∃ beaver call', t = s.put closer lane beaver call' ∧
      (beaver = s.beaver ∨ ∃ action, (executor config).step s.beaver action = some beaver) ∧
      ∀ i ∈ call.pending, i ∈ call'.pending ∨
        ∃ x, s.beaver.executions i = some x ∧ x.waited = true := by
  unfold Closing.advance at advanced
  split at advanced
  · cases advanced
    exact ⟨_, _, rfl, Or.inl rfl, fun i member => Or.inl member⟩
  · split at advanced
    · rename_i current rest controls _ _ stepped
      cases advanced
      have accepted : (executor config).step s.beaver
        (.requestStop current (.cancel .laneClosing)) = some _ := stepped
      exact ⟨_, _, rfl, Or.inr ⟨_, accepted⟩, fun i member => Or.inl member⟩
    · cases advanced
      exact ⟨_, _, rfl, Or.inl rfl, fun i member => Or.inl member⟩
  · split at advanced
    · cases advanced
      exact ⟨_, _, rfl, Or.inl rfl, fun i member => Or.inl member⟩
    · cases advanced
  · cases advanced
    exact ⟨_, _, rfl, Or.inl rfl, fun i absurd => by cases absurd⟩
  · split at advanced
    · rename_i answered
      cases advanced
      obtain ⟨x, here, waited⟩ := (Option.any_eq_true _ _).1 answered
      refine ⟨_, _, rfl, Or.inl rfl, fun i member => ?_⟩
      rcases List.mem_cons.1 member with rfl | later
      · exact Or.inr ⟨x, here, waited⟩
      · exact Or.inl later
    · cases advanced
  · cases advanced

/-- The executor takes at most one of its steps. -/
theorem executor_step (step : s.step config action = some t) :
    t.beaver = s.beaver ∨
      ∃ action, (executor config).step s.beaver action = some t.beaver := by
  cases action with
  | executor action =>
    obtain ⟨beaver, stepped, rfl⟩ := Option.map_eq_some_iff.1 step
    exact Or.inr ⟨action, stepped⟩
  | closeAndCancel closer lane controls =>
    simp only [Closing.step, Closing.closeAndCancel] at step
    split at step
    · obtain ⟨beaver, stepped, rfl⟩ := Option.map_eq_some_iff.1 step
      exact Or.inr ⟨.requestClose lane, stepped⟩
    · cases step
  | advance closer =>
    obtain ⟨⟨lane, call⟩, -, advanced⟩ := Option.bind_eq_some_iff.1 step
    obtain ⟨beaver, call', rfl, moved, -⟩ := of_advance advanced
    exact moved

/-- A run of the calls is a run of the executor. -/
theorem executor_reaches {ok : Closing → ClosingAction → Prop}
    (run : (closing config).Reaches ok s t) :
    (executor config).Reaches (fun _ _ => True) s.beaver t.beaver := by
  refine run.map fun _ _ step => ?_
  rcases executor_step step with same | ⟨action, stepped⟩
  · rw [same]
    exact .refl
  · exact .single trivial stepped

/-- A call as it is after the step: unchanged, new with a snapshot of `active`, or moved on
after the waits it has left behind. -/
inductive Progress (config : ExecutorConfig) (s t : Closing) (action : ClosingAction)
    (closer : Nat) (after : Closer) : Prop
  | same : s.closers closer = some after → Progress config s t action closer after
  | snapshot (controls : List ExecutionId) :
    action = .closeAndCancel closer after.lane controls →
    after.call = .cancelling controls controls → s.beaver.admitting = none →
    (∀ i, i ∈ controls ↔ i ∈ (s.beaver.lanes after.lane).lane.active) →
    s.beaver.step config (.requestClose after.lane) = some t.beaver →
    Progress config s t action closer after
  | moved {before : Closer} : s.closers closer = some before → before.lane = after.lane →
    (∀ i ∈ before.call.pending, i ∈ after.call.pending ∨
      ∃ x, s.beaver.executions i = some x ∧ x.waited = true) →
    Progress config s t action closer after

theorem Progress.of_put {other : Nat} {after : Closer} {beaver : Executor}
    (found : (s.put other lane beaver call).closers closer = some after)
    (own : closer = other → after = ⟨lane, call⟩ → Progress config s t action closer after) :
    Progress config s t action closer after := by
  rcases Pool.of_set_eq_some found with ⟨here, same⟩ | ⟨-, earlier⟩
  · exact own here same.symm
  · exact .same earlier

/-- **One step, seen from every call.** -/
theorem progress (step : s.step config action = some t) {after : Closer}
    (found : t.closers closer = some after) : Progress config s t action closer after := by
  cases action with
  | executor action =>
    obtain ⟨beaver, -, rfl⟩ := Option.map_eq_some_iff.1 step
    exact .same found
  | closeAndCancel other lane controls =>
    simp only [Closing.step, Closing.closeAndCancel] at step
    split at step
    · rename_i enabled
      obtain ⟨beaver, stepped, rfl⟩ := Option.map_eq_some_iff.1 step
      obtain ⟨-, free, -, snapshot⟩ := enabled
      refine .of_put found fun here same => ?_
      subst here same
      refine .snapshot controls rfl rfl free (fun i => ?_) stepped
      rw [← snapshot, List.mem_toFinset]
    · cases step
  | advance other =>
    obtain ⟨⟨lane, call⟩, at_, advanced⟩ := Option.bind_eq_some_iff.1 step
    obtain ⟨beaver, call', rfl, -, passed⟩ := of_advance advanced
    refine .of_put found fun here same => ?_
    subst here same
    exact .moved at_ rfl passed

/-- From its snapshot on, the lane of a call accepts nothing. -/
theorem shut_of_reaches {ok : Closing → ClosingAction → Prop}
    (reached : (closing config).Reaches ok (closing config).init s) :
    ∀ closer after, s.closers closer = some after → s.beaver.Shut after.lane := by
  induction reached with
  | refl =>
    intro closer after absurd
    cases absurd
  | @tail s t action run _ step ih =>
    intro closer after found
    have before := executor_reaches run
    have stays : s.beaver.Shut after.lane → t.beaver.Shut after.lane := by
      intro shut
      rcases executor_step step with same | ⟨move, stepped⟩
      · exact same ▸ shut
      · exact shut.step (Executor.Coupled.of_reaches before) stepped
    rcases progress step found with same | ⟨controls, rfl, call, free, snapshot, stepped⟩ |
      ⟨earlier, lane, passed⟩
    · exact stays (ih closer after same)
    · exact (Executor.exclusive_of_reaches before).shut free stepped
    · exact stays (lane ▸ ih closer _ earlier)

/-! ## What a call promises -/

/-- What the lane has accepted is terminal, or the call has still to wait for it. -/
def Covers (e : Executor) (closer : Closer) : Prop :=
  ∀ i x, e.executions i = some x → x.Accepted closer.lane →
    x.core.terminal.isSome = true ∨ i ∈ closer.call.pending

/-- The executor's steps keep what a call has come to. -/
theorem Covers.step {e f : Executor} {after : Closer} {move : ExecutorAction}
    (covers : Covers e after) (shut : e.Shut after.lane) (coupled : e.Coupled config)
    (step : e.step config move = some f) : Covers f after := by
  intro i y found accepted
  obtain ⟨x, earlier, place, same, kept⟩ :=
    shut.earlier step ((coupled.step step).2 i) found accepted.lane
  have before := covers i x earlier ⟨place, same ▸ accepted.answered⟩
  refine before.imp_left fun ended => ?_
  rw [Option.isSome_iff_ne_none] at ended ⊢
  exact fun running => ended (kept running)

/-- An execution the call has waited for is terminal. -/
theorem Covers.advance {e : Executor} {before after : Closer} (covers : Covers e before)
    (coupled : e.Coupled config) (lane : before.lane = after.lane)
    (passed : ∀ i ∈ before.call.pending, i ∈ after.call.pending ∨
      ∃ x, e.executions i = some x ∧ x.waited = true) : Covers e after := by
  intro i x found accepted
  rcases covers i x found (lane ▸ accepted) with ended | pending
  · exact Or.inl ended
  · rcases passed i pending with still | ⟨y, here, waited⟩
    · exact Or.inr still
    · cases here.symm.trans found
      refine Or.inl ?_
      rw [(coupled.sound i x found).terminal]
      exact isCommitted_of_waited waited

/-- A complete snapshot has everything there is to wait for. -/
theorem Covers.snapshot {e f : Executor} {after : Closer} {controls : List ExecutionId}
    (reached : (executor config).Reachable e) (complete : e.Complete after.lane)
    (call : after.call = .cancelling controls controls)
    (snapshot : ∀ i, i ∈ controls ↔ i ∈ (e.lanes after.lane).lane.active)
    (step : e.step config (.requestClose after.lane) = some f) : Covers f after := by
  intro i x found accepted
  rw [Executor.executions_of_requestClose step] at found
  by_cases active : i ∈ (e.lanes after.lane).lane.active
  · refine Or.inr ?_
    rw [call]
    exact (snapshot i).2 active
  · exact Or.inl ((Executor.complete_iff reached).1 complete i x found accepted active)

/-- The snapshots of the run are complete. -/
def Timely (s : Closing) : ClosingAction → Prop
  | .closeAndCancel _ lane _ => s.beaver.Complete lane
  | _ => True

theorem covers_of_reaches (reached : (closing config).Reaches Timely (closing config).init s) :
    ∀ closer after, s.closers closer = some after → Covers s.beaver after := by
  induction reached with
  | refl =>
    intro closer after absurd
    cases absurd
  | @tail s t action run timely step ih =>
    intro closer after found
    have before := executor_reaches run
    have coupled := Executor.Coupled.of_reaches before
    have stays : s.beaver.Shut after.lane → Covers s.beaver after →
        Covers t.beaver after := by
      intro shut covers
      rcases executor_step step with same | ⟨move, stepped⟩
      · exact same ▸ covers
      · exact covers.step shut coupled stepped
    rcases progress step found with same | ⟨controls, rfl, call, free, snapshot, stepped⟩ |
      ⟨earlier, lane, passed⟩
    · exact stays (shut_of_reaches run closer after same) (ih closer after same)
    · exact .snapshot before timely call snapshot stepped
    · exact stays (lane ▸ shut_of_reaches run closer _ earlier)
        ((ih closer _ earlier).advance coupled lane passed)

/-- What `close_and_cancel` promises when it returns: every execution the lane has accepted
is terminal, and the lane accepts no other. -/
structure Barrier (config : ExecutorConfig) (s : Closing) (lane : LaneId) : Prop where
  terminal : ∀ i x, s.beaver.executions i = some x → x.Accepted lane →
    x.core.terminal.isSome = true
  final : ∀ t, (closing config).Reaches (fun _ _ => True) s t → ∀ i y,
    t.beaver.executions i = some y → y.Accepted lane →
      ∃ x, s.beaver.executions i = some x ∧ x.Accepted lane

/-- The second half of the promise is kept in every run, from the snapshot on. -/
theorem final_of_reaches (reached : (closing config).Reachable s) {after : Closer}
    (found : s.closers closer = some after) (run : (closing config).Reaches (fun _ _ => True) s t) :
    ∀ i y, t.beaver.executions i = some y → y.Accepted after.lane →
      ∃ x, s.beaver.executions i = some x ∧ x.Accepted after.lane := by
  have shut := shut_of_reaches reached closer after found
  have coupled := Executor.Coupled.of_reaches (executor_reaches reached)
  exact (shut.final coupled (executor_reaches run)).2.2

end Closing

open Closing

/-- **`close_and_cancel` is a barrier.**  In every run whose snapshots are complete, whatever
submissions, cancellations, dispatches and completions run beside it, a call that has returned
finds every execution its lane has accepted terminal, and the lane accepts no other. -/
theorem close_and_cancel_barrier {config : ExecutorConfig} {s : Closing}
    (reached : (closing config).Reaches Timely (closing config).init s) {closer : Nat}
    {call : Closer} (found : s.closers closer = some call) (returned : call.call = .returned) :
    s.Barrier config call.lane := by
  constructor
  · intro i x here accepted
    have covers := covers_of_reaches reached closer call found
    refine (covers i x here accepted).resolve_right fun pending => ?_
    rw [returned] at pending
    cases pending
  · intro t run
    exact final_of_reaches reached.reachable found run

/-- A run of the executor, with no call of `close_and_cancel` beside it. -/
theorem Closing.exec_executor {config : ExecutorConfig} {e f : Executor} {closers : Pool Closer}
    {actions : List ExecutorAction} (run : (executor config).exec e actions = some f) :
    (closing config).exec ⟨e, closers⟩ (actions.map .executor) = some ⟨f, closers⟩ := by
  induction actions generalizing e with
  | nil =>
    cases run
    rfl
  | cons action rest ih =>
    simp only [System.exec] at run
    cases step : (executor config).step e action with
    | none => simp [step] at run
    | some g =>
      have stepped : (closing config).step ⟨e, closers⟩ (.executor action) = some ⟨g, closers⟩ :=
        Option.map_eq_some_iff.2 ⟨g, step, rfl⟩
      rw [step] at run
      simp only [List.map_cons, System.exec, stepped]
      exact ih run

/-- The admission of execution `i` to lane 0, up to its answer. -/
def admission (i : ExecutionId) : List ExecutorAction :=
  .submit i 0 {} none false :: List.replicate 5 (.advanceAdmission i)

/-- Execution 1 runs and execution 2 is queued. -/
def halfRun : List ExecutorAction :=
  admission 1 ++ .dispatch 0 :: .start 1 :: List.replicate 3 (.run 1) ++ admission 2

/-- The call cancels both, in the order of its snapshot, and waits for both. -/
def drained : List ClosingAction :=
  let stop (i : ExecutionId) : ClosingAction := .executor (.advanceStop i)
  let run (i : ExecutionId) : ClosingAction := .executor (.run i)
  [.advance 0, stop 2, stop 2, stop 2, stop 2, .advance 0, .advance 0, stop 1, stop 1, stop 1,
    .advance 0, .advance 0, run 2, run 2, .advance 0, .executor (.finishBody 1 .runnerCancelled),
    run 1, run 1, .advance 0, .advance 0]

theorem complete_halfRun {e : Executor}
    (run : (executor twinExecutor).exec (executor twinExecutor).init halfRun = some e) :
    e.Complete 0 := by
  have ends : ((executor twinExecutor).exec (executor twinExecutor).init halfRun).map (fun e =>
      ((e.executions 1).map Execution.dispatched, (e.executions 2).map Execution.runner,
        (e.lanes 0).lane.runtimeUnavailable)) = some (some true, some .queued, false) := by
    decide +kernel
  rw [run] at ends
  simp only [Option.map_some, Option.some.injEq, Prod.mk.injEq, Option.map_eq_some_iff] at ends
  obtain ⟨⟨x, first, taken⟩, ⟨y, second, queued⟩, available⟩ := ends
  constructor
  · intro i z found accepted untaken exit at_
    by_cases one : i = 1
    · subst one
      cases first.symm.trans found
      rw [taken] at untaken
      cases untaken
    · by_cases two : i = 2
      · subst two
        cases second.symm.trans found
        rw [queued] at at_
        cases at_
      · have absent : e.executions i = none := by
          refine Executor.absent_of_creates .init run (fun action member creates => ?_) rfl
          have created : i ∈ halfRun.filterMap ExecutorAction.creates :=
            List.mem_filterMap.2 ⟨action, member, creates⟩
          rw [show halfRun.filterMap ExecutorAction.creates = [1, 2] by decide +kernel] at created
          simp [one, two] at created
        rw [absent] at found
        cases found
  · intro unavailable
    rw [available] at unavailable
    cases unavailable

theorem close_and_cancel_barrier_drained :
    ∃ s, (closing twinExecutor).exec (closing twinExecutor).init
        (halfRun.map .executor ++ .closeAndCancel 0 0 [2, 1] :: drained) = some s ∧
      s.closers 0 = some ⟨0, .returned⟩ ∧ s.Barrier twinExecutor 0 := by
  have ends : ((closing twinExecutor).exec (closing twinExecutor).init
      (halfRun.map .executor ++ .closeAndCancel 0 0 [2, 1] :: drained)).map
        (fun s => s.closers 0) = some (some ⟨0, .returned⟩) := by decide +kernel
  obtain ⟨s, run, returned⟩ := Option.map_eq_some_iff.1 ends
  refine ⟨s, run, returned, ?_⟩
  have before : ((executor twinExecutor).exec (executor twinExecutor).init halfRun).isSome =
      true := by decide +kernel
  obtain ⟨e, half⟩ := Option.isSome_iff_exists.1 before
  have first : (closing twinExecutor).exec (closing twinExecutor).init (halfRun.map .executor) =
      some ⟨e, fun _ => none⟩ := exec_executor half
  have untimed : ∀ {actions : List ClosingAction},
      (∀ closer lane controls, .closeAndCancel closer lane controls ∉ actions) →
      ∀ s, (closing twinExecutor).Meets Timely s actions := by
    intro actions none_ s
    refine .of_forall_mem (fun action member s => ?_) s
    cases action with
    | closeAndCancel closer lane controls => exact (none_ closer lane controls member).elim
    | _ => trivial
  have meets : (closing twinExecutor).Meets Timely (closing twinExecutor).init
      (halfRun.map .executor ++ .closeAndCancel 0 0 [2, 1] :: drained) := by
    refine (System.Meets.append first).2 ⟨untimed (by simp) _, complete_halfRun half, ?_⟩
    split
    · trivial
    · exact untimed (by simp [drained]) _
  exact close_and_cancel_barrier (.of_exec run meets) returned rfl

/-- Execution 1 is queued, and an individual cancellation has taken it out of the queue; its
entry is still to be dropped when the call comes. -/
def overtaken : List ClosingAction :=
  (admission 1 ++ ExecutorAction.requestStop 1 (.cancel .userRequested) ::
      List.replicate 4 (ExecutorAction.advanceStop 1)).map .executor ++
    [.closeAndCancel 0 0 [], .advance 0, .advance 0]

/-- The call returns ahead of the exit of execution 1, which the lane had accepted. -/
theorem close_and_cancel_overtakes :
    ¬ ∀ (config : ExecutorConfig) (s : Closing), (closing config).Reachable s →
      ∀ closer call, s.closers closer = some call → call.call = .returned →
        s.Barrier config call.lane := by
  intro all
  have ends : ((closing twinExecutor).exec (closing twinExecutor).init overtaken).map (fun s =>
      (s.closers 0, (s.beaver.executions 1).map fun x =>
        (x.lane, x.admission, x.core.terminal))) =
      some (some ⟨0, .returned⟩, some (some 0, .returned none, none)) := by decide +kernel
  obtain ⟨s, run, fields⟩ := Option.map_eq_some_iff.1 ends
  simp only [Prod.mk.injEq, Option.map_eq_some_iff] at fields
  obtain ⟨returned, x, found, place, answered, running⟩ := fields
  have barrier := all twinExecutor s (.of_schedule _ run) 0 _ returned rfl
  have ended := barrier.terminal 1 x found ⟨place, answered⟩
  rw [running] at ended
  cases ended

end BusyBeaver
