import BusyBeaver.Execution.State

/-!
# The critical sections of one execution

What `ExecutionCore` does while it holds its state mutex (and, inside it, the
result cell's), one definition for each section: `set_active_state`,
`claim_start`, `request_stop` and the terminal selection of `commit`.  What the
same functions do after the mutex is released belongs to the callers' step
relations, not here.
-/

namespace BusyBeaver

variable {T E : Type}

namespace CoreState

/-- Locked section of `set_active_state`; `none` when the report is ignored. -/
def setActiveState (state : CoreState) (next : ActiveState) : Option CoreState :=
  if state.terminal.isNone && state.stopCause.isNone then
    some { state with publicState := next.toTaskState }
  else none

/-- Locked section of `claim_start`; `none` is the answer `false`. -/
def claimStart (state : CoreState) : Option CoreState :=
  if state.terminal.isSome || state.stopCause.isSome then none
  else some { state with publicState := .running 1 }

/-- Locked section of `request_stop`. -/
def requestStop (state : CoreState) (cause : StopCauseSummary) :
    CancelRequestOutcome × CoreState :=
  if state.terminal.isSome then (.alreadyTerminal, state)
  else if state.stopCause.isSome then (.alreadyStopping, state)
  else (.requested, { state with stopCause := some cause, publicState := .stopping cause })

end CoreState

/-! ## The result cell -/

/-- `ResultCell::value`. -/
abbrev ResultCell (T E : Type) : Type := Option (TaskExit T E)

/-- `ResultCell::store`: the cell afterwards and the summary of what it holds. -/
def ResultCell.store (cell : ResultCell T E) (exit : TaskExit T E) :
    ResultCell T E × TaskExitSummary :=
  match cell with
  | some existing => (some existing, existing.summary)
  | none => (some exit, exit.summary)

/-- `ResultCell::take`: the cell afterwards and what was in it. -/
def ResultCell.take (cell : ResultCell T E) : ResultCell T E × Option (TaskExit T E) :=
  (none, cell)

/-! ## Terminal selection -/

/-- The selected exit, the prepared exit if it was not used, and the stable
codes logged on the way. -/
structure Selection (T E : Type) : Type where
  selected : TaskExit T E
  unused : Option (TaskExit T E)
  logged : List String

/-- `unused_exit.take()` with the fallback for a prepared exit that is gone. -/
def takePrepared (code : String) : Option (TaskExit T E) → Selection T E
  | some exit => ⟨exit, none, []⟩
  | none => ⟨.executorStopped .internalInvariantViolation, none, [code]⟩

/-- The exit selection of `commit`, arm by arm. -/
def selectExit (stopCause : Option StopCauseSummary) (unusedExit : Option (TaskExit T E)) :
    Selection T E :=
  if unusedExit.any TaskExit.isAborted then
    takePrepared "BB-TERMINAL-FORCED-EXIT-MISSING" unusedExit
  else
    match stopCause with
    | some (.cancel reason) => ⟨.cancelled reason, unusedExit, []⟩
    | some .deadline =>
      if unusedExit.any TaskExit.isDeadlineExceeded then
        takePrepared "BB-TERMINAL-DEADLINE-EXIT-MISSING" unusedExit
      else ⟨.failed (.deadlineExceeded none), unusedExit, []⟩
    | none => takePrepared "BB-TERMINAL-EXIT-MISSING" unusedExit

/-- The prepared exit is there when `commit` selects, so nothing is logged. -/
theorem selectExit_logged (stopCause : Option StopCauseSummary) (exit : TaskExit T E) :
    (selectExit stopCause (some exit)).logged = [] := by
  unfold selectExit
  split
  · rfl
  · split
    · rfl
    · split <;> rfl
    · rfl

/-- What `commit` wrote under the state mutex, and the prepared exit it did not use. -/
structure Committed (T E : Type) : Type where
  core : CoreState
  cell : ResultCell T E
  summary : TaskExitSummary
  unused : Option (TaskExit T E)

/-- `drop(unused_exit)`, which `commit` does once the mutex is released, runs user code. -/
def Committed.dropsUserValue {T E : Type} (committed : Committed T E) : Bool :=
  committed.unused.any TaskExit.ownsUserValue

/-- Locked section of `commit`; `none` is the answer `false`. -/
def CoreState.commit (state : CoreState) (cell : ResultCell T E) (normalExit : TaskExit T E) :
    Option (Committed T E) :=
  if state.terminal.isSome then none
  else
    let selection := selectExit state.stopCause (some normalExit)
    let stored := cell.store selection.selected
    some ⟨{ state with publicState := stored.2.state, terminal := some stored.2 },
      stored.1, stored.2, selection.unused⟩

/-! ## What the selection means -/

/-- `selected` is the exit an execution owes its owner when `proposed` is
committed after `cause` was accepted (`none`: no stop was accepted). -/
inductive IsSelected (proposed : TaskExit T E) :
    Option StopCauseSummary → TaskExit T E → Prop
  | forced {cause : Option StopCauseSummary} :
    proposed.isAborted = true → IsSelected proposed cause proposed
  | unstopped : IsSelected proposed none proposed
  | cancelled (reason : CancelReason) :
    proposed.isAborted = false →
    IsSelected proposed (some (.cancel reason)) (.cancelled reason)
  | deadlineKept :
    proposed.isDeadlineExceeded = true → IsSelected proposed (some .deadline) proposed
  | deadline :
    proposed.isAborted = false → proposed.isDeadlineExceeded = false →
    IsSelected proposed (some .deadline) (.failed (.deadlineExceeded none))

/-- The arms of `commit` select exactly that exit. -/
theorem isSelected_selectExit (cause : Option StopCauseSummary) (proposed : TaskExit T E) :
    IsSelected proposed cause (selectExit cause (some proposed)).selected := by
  unfold selectExit
  by_cases forced : proposed.isAborted = true
  · simpa [forced, takePrepared] using IsSelected.forced forced
  · simp only [Bool.not_eq_true] at forced
    simp only [Option.any_some, forced, Bool.false_eq_true, ↓reduceIte]
    rcases cause with - | (reason | -)
    · exact .unstopped
    · exact .cancelled reason forced
    · by_cases late : proposed.isDeadlineExceeded = true
      · simpa [late, takePrepared] using IsSelected.deadlineKept late
      · simp only [Bool.not_eq_true] at late
        simpa [late] using IsSelected.deadline forced late

/-! ## Spec lemmas, one for each section -/

namespace CoreState

variable {state after : CoreState}

theorem setActiveState_eq_some {next : ActiveState} :
    state.setActiveState next = some after ↔
      state.terminal = none ∧ state.stopCause = none ∧
        after = { state with publicState := next.toTaskState } := by
  rcases state with ⟨publicState, - | cause, - | summary⟩ <;>
    simp [setActiveState, eq_comm]

theorem claimStart_eq_some :
    state.claimStart = some after ↔
      state.terminal = none ∧ state.stopCause = none ∧
        after = { state with publicState := .running 1 } := by
  rcases state with ⟨publicState, - | cause, - | summary⟩ <;>
    simp [claimStart, eq_comm]

theorem requestStop_of_open (cause : StopCauseSummary) (running : state.terminal = none)
    (unstopped : state.stopCause = none) :
    state.requestStop cause =
      (.requested, { state with stopCause := some cause, publicState := .stopping cause }) := by
  simp [requestStop, running, unstopped]

theorem requestStop_of_closed (cause : StopCauseSummary)
    (closed : state.terminal ≠ none ∨ state.stopCause ≠ none) :
    (state.requestStop cause).1 ≠ .requested ∧ (state.requestStop cause).2 = state := by
  rcases state with ⟨publicState, - | first, - | summary⟩ <;>
    simp [requestStop] at closed ⊢

theorem commit_of_terminal {cell : ResultCell T E} {exit : TaskExit T E}
    (finished : state.terminal ≠ none) : state.commit cell exit = none := by
  rcases state with ⟨publicState, stopCause, - | summary⟩
  · simp at finished
  · rfl

/-- A commit on an empty cell stores, summarises and publishes one exit. -/
theorem commit_of_open (exit : TaskExit T E) (running : state.terminal = none) :
    ∃ selected : TaskExit T E, IsSelected exit state.stopCause selected ∧
      state.commit none exit =
        some ⟨{ state with
            publicState := selected.summary.state, terminal := some selected.summary },
          some selected, selected.summary, (selectExit state.stopCause (some exit)).unused⟩ := by
  refine ⟨(selectExit state.stopCause (some exit)).selected, isSelected_selectExit _ _, ?_⟩
  simp [commit, running, ResultCell.store]

end CoreState

end BusyBeaver
