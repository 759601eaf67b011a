import BusyBeaver.Executor.Closing
import BusyBeaver.Registry.Sweeps

/-!
# The drop of the last owner

`TaskHandle` and `TaskControlHandle` do not own the executor; the `Beaver` and its `Lane`s
do.  When the last of them is dropped, `ExecutorLifetime::drop` sweeps the registry once and
gives up.  Once is enough: an admission call borrows an owner, so none is in progress any
more, and what was admitted is in the snapshot or terminal (`lifetime_drop_stops_all`).
-/

namespace BusyBeaver

open Transition Execution

namespace View

variable {v : View} {label : Label} {effect : Effect} {y : Execution}

/-- What was inserted into the registry is there, or its commit has passed the removal. -/
def Traceable (v : View) : Prop :=
  v.execution.admission.isEntered = true →
    v.active = true ∨ v.execution.runner.hasLeft = true

theorem Traceable.fresh (fresh : v.Fresh) : v.Traceable := by
  cases fresh <;> simp [Traceable, Execution.submitted, Execution.direct, Admission.isEntered]

theorem Traceable.kept (before : v.Traceable) (sound : v.execution.Sound)
    (moved : v.execution.Moved label effect y) : (v.after y effect).Traceable := by
  unfold Traceable
  rw [after_execution]
  intro entered
  have passed := (moved.passes sound).1
  cases effect with
  | enter => exact Or.inl rfl
  | leave =>
    cases moved
    exact Or.inr rfl
  | silent | record | announce _ =>
    exact (before ((moved.isEntered (by simp)).symm.trans entered)).imp_right passed

end View

namespace Sweeping

variable {config : ExecutorConfig} {labels : ExecutionId → Labels} {s t u : Sweeping}
  {action : SweepingAction} {sweep : Nat} {w : Sweep} {i : ExecutionId} {x y : Execution}

/-- What holds of an execution's admission is kept by the moves of the execution. -/
theorem traceable_of_reaches {ok : Sweeping → SweepingAction → Prop}
    (run : (sweeping config labels).Reaches ok (sweeping config labels).init s) :
    ∀ i v, s.beaver.view i = some v → v.Traceable :=
  Executor.view_invariant (executor_reaches run) (fun _ fresh => .fresh fresh)
    fun _ _ _ sound moved before => before.kept sound moved

/-! ## Owners and admissions -/

/-- An admission that is in progress was made on an owner that is alive. -/
def Lent (s : Sweeping) : Prop :=
  ∀ i x, s.beaver.executions i = some x → x.admission.hasReturned = true ∨
    ∃ owner ∈ s.owners, (i, owner) ∈ s.borrows

/-- An execution after a step of the executor: just created, or there before. -/
theorem earlier_of_step {e f : Executor} {move : ExecutorAction} (coupled : e.Coupled config)
    (step : e.step config move = some f) (found : f.executions i = some y) :
    move.creates = some i ∨ ∃ x, e.executions i = some x ∧
      ∀ error, x.admission = .returned error → y.admission = .returned error := by
  rcases (coupled.step step).2 i with ⟨same, -⟩ | ⟨-, creates, -, -⟩ | ⟨before, moved, -, after⟩
  · exact Or.inr ⟨y, same ▸ found, fun _ => id⟩
  · exact Or.inl creates
  · have there := (Executor.view_eq_some.1 after).1
    rw [View.after_execution, found] at there
    cases there
    exact Or.inr ⟨_, (Executor.view_eq_some.1 before).1, fun _ => moved.returned⟩

theorem Admission.hasReturned_iff {admission : Admission} :
    admission.hasReturned = true ↔ ∃ error, admission = .returned error := by
  cases admission <;> simp [Admission.hasReturned]

/-- The executor's part of a step that makes no new execution. -/
theorem Lent.executor (lent : s.Lent) (coupled : s.beaver.Coupled config)
    {move : ExecutorAction} (stepped : s.beaver.step config move = some t.beaver)
    (owners : ∀ owner ∈ s.owners, owner ∈ t.owners)
    (borrows : ∀ borrow ∈ s.borrows, borrow ∈ t.borrows)
    (created : ∀ i, move.creates = some i → ∃ owner ∈ t.owners, (i, owner) ∈ t.borrows) :
    t.Lent := by
  intro i y found
  rcases earlier_of_step coupled stepped found with creates | ⟨x, before, kept⟩
  · exact Or.inr (created i creates)
  · rcases lent i x before with returned | ⟨owner, alive, borrow⟩
    · obtain ⟨error, answered⟩ := Admission.hasReturned_iff.1 returned
      exact Or.inl (Admission.hasReturned_iff.2 ⟨error, kept error answered⟩)
    · exact Or.inr ⟨owner, owners owner alive, borrows _ borrow⟩

theorem Lent.dropped (lent : s.Lent) {owner : Nat} (released : s.Released owner) :
    ({ s with owners := s.owners.erase owner } : Sweeping).Lent := by
  intro i x found
  rcases lent i x found with returned | ⟨lender, alive, borrow⟩
  · exact Or.inl returned
  · by_cases same : lender = owner
    · have answered := released _ borrow same
      rw [show s.beaver.executions i = _ from found] at answered
      exact Or.inl (by simpa using answered)
    · exact Or.inr ⟨lender, Finset.mem_erase.2 ⟨same, alive⟩, borrow⟩

theorem Lent.step (lent : s.Lent) (coupled : s.beaver.Coupled config)
    (step : Stepped config s t) : t.Lent := by
  cases step with
  | ran none_ stepped =>
    refine lent.executor coupled stepped (fun _ => id) (fun _ => id) fun i creates => ?_
    rw [none_] at creates
    cases creates
  | @admitted owner move id_ f alive creates stepped =>
    refine lent.executor coupled stepped (fun _ => id)
      (fun _ => List.mem_cons_of_mem _) fun i created => ?_
    cases creates.symm.trans created
    exact ⟨owner, alive, List.mem_cons_self⟩
  | shared =>
    intro i x found
    exact (lent i x found).imp_right fun ⟨owner, alive, borrow⟩ =>
      ⟨owner, Finset.mem_insert_of_mem alive, borrow⟩
  | dropped _ released => exact lent.dropped released
  | lastDropped _ released => exact lent.dropped released
  | begun => exact lent
  | advanced _ moved =>
    rcases moved.stops with same | ⟨i, stepped⟩
    · intro i x found
      exact lent i x (same ▸ found)
    · refine lent.executor coupled stepped (fun _ => id) (fun _ => id) fun _ absurd => ?_
      cases absurd

theorem lent_of_reaches {ok : Sweeping → SweepingAction → Prop}
    (run : (sweeping config labels).Reaches ok (sweeping config labels).init s) : s.Lent := by
  induction run with
  | refl =>
    intro i x absurd
    cases absurd
  | tail before _ step ih =>
    exact ih.step (Executor.Coupled.of_reaches (executor_reaches before)) (.of_step step)

/-! ## After the last owner -/

/-- Without owners there is nothing to make one from, and nothing to submit to. -/
theorem Stepped.sealed (step : Stepped config s t) (none_ : s.owners = ∅) :
    t.owners = ∅ ∧ (t.beaver = s.beaver ∨ ∃ move : ExecutorAction, move.creates = none ∧
      s.beaver.step config move = some t.beaver) := by
  cases step with
  | ran creates stepped => exact ⟨none_, Or.inr ⟨_, creates, stepped⟩⟩
  | admitted alive | shared alive | dropped alive | lastDropped alive =>
    rw [none_] at alive
    cases alive
  | begun => exact ⟨none_, Or.inl rfl⟩
  | advanced _ moved =>
    exact ⟨none_, moved.stops.imp_right fun ⟨i, stepped⟩ => ⟨_, rfl, stepped⟩⟩

/-- An execution of an abandoned executor was there before, with the same answer. -/
theorem Stepped.earlier (step : Stepped config s t) (coupled : s.beaver.Coupled config)
    (lent : s.Lent) (none_ : s.owners = ∅) (found : t.beaver.executions i = some y) :
    ∃ x, s.beaver.executions i = some x ∧ y.admission = x.admission := by
  rcases (step.sealed none_).2 with same | ⟨move, creates, stepped⟩
  · exact ⟨y, same ▸ found, rfl⟩
  · rcases earlier_of_step coupled stepped found with created | ⟨x, before, kept⟩
    · rw [creates] at created
      cases created
    · rcases lent i x before with returned | ⟨owner, alive, -⟩
      · obtain ⟨error, answered⟩ := Admission.hasReturned_iff.1 returned
        exact ⟨x, before, (kept error answered).trans answered.symm⟩
      · rw [none_] at alive
        cases alive

/-- The sweep of the dropped lifetime has, or has had, everything that was admitted before it:
what is not in its snapshot was terminal when it began. -/
structure Final (e : Executor) (w : Sweep) : Prop where
  covers : ∀ i x, e.executions i = some x → x.admission = .returned none →
    i ∈ w.call.snapshot ∨ x.core.terminal ≠ none

/-- What holds of the sweeps of dropped lifetimes. -/
structure Sealed (s : Sweeping) (w : Sweep) : Prop extends Final s.beaver w where
  owners : s.owners = ∅

theorem Sealed.step (sealed_ : s.Sealed w) (coupled : s.beaver.Coupled config) (lent : s.Lent)
    (step : Stepped config s t) : t.Sealed w := by
  have none_ := sealed_.owners
  refine ⟨⟨fun i y found answered => ?_⟩, (step.sealed none_).1⟩
  obtain ⟨x, before, same⟩ := step.earlier coupled lent none_ found
  rcases sealed_.covers i x before (same.symm.trans answered) with covered | ended
  · exact Or.inl covered
  · have run : (executor config).Reaches (fun _ _ => True) s.beaver t.beaver := by
      rcases step.beaver with still | ⟨move, stepped⟩
      · exact still ▸ .refl
      · exact .single trivial stepped
    obtain ⟨z, there, terminal⟩ :=
      Executor.execution_stays coupled run before ended fun moved => moved.terminated
    cases there.symm.trans found
    exact Or.inr terminal

/-- When the last owner is dropped, the registry has what is not terminal. -/
theorem final_of_begun (reached : (sweeping config labels).Reachable s)
    (covers : ∀ i ∈ s.beaver.active, i ∈ w.call.snapshot) : Final s.beaver w := by
  have coupled := Executor.Coupled.of_reaches (executor_reaches reached)
  refine ⟨fun i x found answered => ?_⟩
  have traceable := traceable_of_reaches reached i _ (Executor.view_of_eq_some found)
  rcases traceable (by rw [show x.admission = _ from answered]; rfl) with active | left
  · exact Or.inl (covers i (of_decide_eq_true active))
  · refine Or.inr (Option.isSome_iff_ne_none.1 ?_)
    rw [(coupled.sound i x found).terminal]
    exact Runner.isCommitted_of_hasLeft left

theorem sealed_of_reaches (reached : (sweeping config labels).Reachable s) :
    ∀ sweep w, s.sweeps sweep = some w → w.origin = .lifetimeDropped → s.Sealed w := by
  induction reached with
  | refl =>
    intro sweep w absurd
    cases absurd
  | @tail s t action run _ taken ih =>
    intro sweep w found dropped
    have step := Stepped.of_step taken
    have coupled := Executor.Coupled.of_reaches (executor_reaches run)
    have lent := lent_of_reaches run
    rcases step.progress found with same | ⟨controls, call, -, -, snapshot⟩ | ⟨call, earlier, moved⟩
    · exact (ih sweep w same dropped).step coupled lent step
    · obtain ⟨owners, still, covers⟩ := snapshot dropped
      refine ⟨?_, owners⟩
      rw [still]
      refine final_of_begun run fun i active => ?_
      rw [call]
      simpa [SweepCall.snapshot, SweepCall.records, SweepCall.pending] using covers i active
    · obtain ⟨⟨covers⟩, owners⟩ := (ih sweep _ earlier dropped).step coupled lent step
      refine ⟨⟨fun i x there answered => ?_⟩, owners⟩
      rw [moved.snapshot]
      exact covers i x there answered

/-- Everything the executor had accepted is stopping or terminal, and it accepts nothing. -/
structure Abandoned (config : ExecutorConfig) (labels : ExecutionId → Labels) (s : Sweeping) :
    Prop where
  answered : ∀ i x, s.beaver.executions i = some x → x.admission.hasReturned = true
  stopped : ∀ i x, s.beaver.executions i = some x → x.admission = .returned none →
    x.core.stopCause ≠ none ∨ x.core.terminal ≠ none
  final : ∀ t, (sweeping config labels).Reaches (fun _ _ => True) s t → ∀ i y,
    t.beaver.executions i = some y →
      ∃ x, s.beaver.executions i = some x ∧ y.admission = x.admission

theorem final_of_reaches (reached : (sweeping config labels).Reachable s) (none_ : s.owners = ∅)
    (run : (sweeping config labels).Reaches (fun _ _ => True) s t) :
    t.owners = ∅ ∧ ∀ i y, t.beaver.executions i = some y →
      ∃ x, s.beaver.executions i = some x ∧ y.admission = x.admission := by
  induction run with
  | refl => exact ⟨none_, fun i y found => ⟨y, found, rfl⟩⟩
  | tail run _ taken ih =>
    have before := reached.trans run
    have coupled := Executor.Coupled.of_reaches (executor_reaches before)
    have step := Stepped.of_step taken
    refine ⟨(step.sealed ih.1).1, fun i y found => ?_⟩
    obtain ⟨x, there, same⟩ := step.earlier coupled (lent_of_reaches before) ih.1 found
    obtain ⟨z, first, same'⟩ := ih.2 i x there
    exact ⟨z, first, same.trans same'⟩

end Sweeping

section Results

variable {config : ExecutorConfig} {labels : ExecutionId → Labels} {s : Sweeping}

/-- **The last owner takes its executions with it.**  Once `ExecutorLifetime::drop` has
returned, every execution that was ever admitted has been asked to stop or is terminal, and no
admission is in progress or will begin, in whatever order owners were shared and dropped,
submissions admitted, and executions dispatched, cancelled and finished around it. -/
theorem lifetime_drop_stops_all (reached : (sweeping config labels).Reachable s) {sweep : Nat}
    {w : Sweep} {records : List BatchCancelRecord} (found : s.sweeps sweep = some w)
    (dropped : w.origin = .lifetimeDropped) (returned : w.call = .returned records) :
    s.Abandoned config labels := by
  have sealed_ := Sweeping.sealed_of_reaches reached sweep w found dropped
  have swept := Sweeping.swept_of_reaches reached
  constructor
  · intro i x there
    rcases Sweeping.lent_of_reaches reached i x there with returned | ⟨owner, alive, -⟩
    · exact returned
    · rw [sealed_.owners] at alive
      cases alive
  · intro i x there answered
    refine (sealed_.covers i x there answered).elim (fun covered => ?_) Or.inr
    rw [returned] at covered
    simp only [SweepCall.snapshot, SweepCall.records, SweepCall.pending, List.append_nil,
      List.mem_map] at covered
    obtain ⟨record, member, rfl⟩ := covered
    have honest := (swept.honest sweep w found).records record
    rw [returned] at honest
    obtain ⟨y, here, holds⟩ := honest member
    cases here.symm.trans there
    cases outcome : record.outcome with
    | requested =>
      rw [outcome] at holds
      exact Or.inl (Option.ne_none_iff_exists'.2 ⟨_, holds⟩)
    | alreadyStopping =>
      rw [outcome] at holds
      exact Or.inl holds
    | alreadyTerminal =>
      rw [outcome] at holds
      exact Or.inr holds
  · intro t run
    exact (Sweeping.final_of_reaches reached sealed_.owners run).2

/-- The `Beaver` is dropped while a lane is held, and the lane after it: execution 1 is
running, execution 2 is queued, and both are swept. -/
def abandonedRun : List SweepingAction :=
  List.flatten [[.share 0 1], admitted 1, [.executor (.dispatch 0), .executor (.start 1)],
    List.replicate 3 (.executor (.run 1)), admitted 2,
    [.dropOwner 0 0 [], .dropOwner 1 0 [1, 2], .advance 0],
    List.replicate 3 (.executor (.advanceStop 1)), [.advance 0, .advance 0],
    List.replicate 4 (.executor (.advanceStop 2)), [.advance 0, .advance 0]]

theorem lifetime_drop_stops_all_lane :
    ∃ s, (sweeping smallExecutor plainLabels).exec (sweeping smallExecutor plainLabels).init
        abandonedRun = some s ∧
      s.sweeps 0 = some ⟨.lifetimeDropped, .executorShutdown,
        .returned [⟨1, .requested⟩, ⟨2, .requested⟩]⟩ ∧
      s.Abandoned smallExecutor plainLabels := by
  have ends : ((sweeping smallExecutor plainLabels).exec
      (sweeping smallExecutor plainLabels).init abandonedRun).map (fun s => s.sweeps 0) =
      some (some ⟨.lifetimeDropped, .executorShutdown,
        .returned [⟨1, .requested⟩, ⟨2, .requested⟩]⟩) := by decide +kernel
  obtain ⟨s, run, found⟩ := Option.map_eq_some_iff.1 ends
  exact ⟨s, run, found, lifetime_drop_stops_all (.of_schedule _ run) found rfl rfl⟩

end Results

end BusyBeaver
