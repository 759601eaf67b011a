import BusyBeaver.Executor.Closing

/-!
# A committed exit is final

After the commit no section writes the state of an execution again, so its terminal summary
and its public state are those of the commit (`core_of_step`), and the public state is
terminal exactly when there is a summary (`isTerminal_iff`).
-/

namespace BusyBeaver

open Transition

namespace Execution

variable {x y : Execution} {label : Label} {effect : Effect}

/-- No section writes the state after the commit. -/
theorem Moved.core_of_terminal (moved : Moved x label effect y)
    (terminal : x.core.terminal ≠ none) : y.core = x.core := by
  cases moved with
  | claim core at_ claimed => exact absurd (terminal_of_claimStart claimed).1 terminal
  | commit exit committed at_ written | commitOver exit committed at_ written =>
    exact absurd (terminal_of_commit written).1 terminal
  | report next core polled written =>
    exact absurd (CoreState.setActiveState_eq_some.1 written).1 terminal
  | requestStop cause core seen accepted =>
    exact absurd (terminal_of_requestStop accepted).1 terminal
  | _ => rfl

/-- The public state is terminal exactly when there is a summary. -/
def Stated (x : Execution) : Prop := x.core.publicState.isTerminal = x.core.terminal.isSome

theorem Moved.stated (moved : Moved x label effect y) (stated : x.Stated) : y.Stated := by
  cases moved with
  | claim core at_ claimed =>
    obtain ⟨running, -, rfl⟩ := CoreState.claimStart_eq_some.1 claimed
    simp [Stated, running, TaskState.isTerminal]
  | commit exit committed at_ written | commitOver exit committed at_ written =>
    unfold CoreState.commit at written
    split at written
    · cases written
    · cases written
      simp [Stated]
  | report next core polled written =>
    obtain ⟨running, -, rfl⟩ := CoreState.setActiveState_eq_some.1 written
    simp [Stated, running]
  | requestStop cause core seen accepted =>
    obtain ⟨before, unstopped, after, -⟩ := terminal_of_requestStop accepted
    rw [CoreState.requestStop_of_open cause before unstopped] at accepted
    obtain ⟨-, rfl⟩ := Prod.mk.inj accepted
    simp [Stated, before, TaskState.isTerminal]
  | _ => exact stated

end Execution

namespace Executor

variable {config : ExecutorConfig} {s t : Executor} {i : ExecutionId} {x : Execution}

theorem core_of_step (coupled : s.Coupled config) {action : ExecutorAction}
    (step : s.step config action = some t) (found : s.executions i = some x)
    (terminal : x.core.terminal ≠ none) :
    ∃ y, t.executions i = some y ∧ y.core = x.core := by
  rcases (coupled.step step).2 i with ⟨same, -⟩ | ⟨-, -, absent, -⟩ | ⟨before, moved, -, after⟩
  · exact ⟨x, same.trans found, rfl⟩
  · rw [absent] at found
    cases found
  · obtain rfl := Option.some.inj (found.symm.trans (view_eq_some.1 before).1)
    have later := (view_eq_some.1 after).1
    rw [View.after_execution] at later
    exact ⟨_, later, moved.core_of_terminal terminal⟩

/-- The public state of a reachable execution is terminal exactly when it has a summary. -/
theorem isTerminal_iff (reached : (executor config).Reachable s) (found : s.executions i = some x) :
    x.core.publicState.isTerminal = x.core.terminal.isSome := by
  have stated : ∀ i v, s.view i = some v → v.execution.Stated := by
    refine view_invariant reached (fun v fresh => ?_) ?_
    · cases fresh <;> rfl
    · intro s action i v label effect y _ _ _ _ moved before
      rw [View.after_execution]
      exact moved.stated before
  have seen : s.view i = some ⟨x, decide (i ∈ s.active), s.finishes.count i, s.eventsOf i⟩ :=
    view_eq_some.2 ⟨found, rfl, rfl, rfl⟩
  exact stated i _ seen

end Executor

end BusyBeaver
