import BusyBeaver.Lib.Transition
import BusyBeaver.Lib.Pool
import BusyBeaver.Execution.Core

/-!
# Concurrent calls on one execution

Any number of callers act on one execution: `request_stop` (cancel or deadline),
`claim_start`, `set_active_state`, `commit` (of the runner or of
`RunnerGuard::drop`), `join` and `try_join`.  Their state is split over the state
mutex, the result cell and two watch channels, and each call is a sequence of
atomic sections; `Shared.advance` is one such section, `race` interleaves the
sections of all callers.

`moves` is history: every value `public_state` has been given, oldest first.
-/

namespace BusyBeaver

open Transition

variable {T E : Type}

/-- A call on the execution. -/
inductive Op (T E : Type) : Type
  | requestStop (cause : StopCauseSummary)
  | claimStart
  | setActiveState (next : ActiveState)
  | commit (normalExit : TaskExit T E)
  | join
  | tryJoin
  deriving DecidableEq

inductive JoinResultError : Type
  | alreadyTaken
  deriving DecidableEq

/-- What a call returns. -/
inductive Reply (T E : Type) : Type
  | stop (outcome : CancelRequestOutcome)
  | claimed (started : Bool)
  | activeStateSet
  | committed (won : Bool)
  | joined (result : Except JoinResultError (TaskExit T E))
  | tried (result : Except JoinResultError (Option (TaskExit T E)))

/-- Where a call stands: the atomic section it takes next. -/
inductive Pc (T E : Type) : Type
  | entered
  /-- `request_stop` has released the state mutex; the cancellation watch is next. -/
  | stopAccepted
  /-- The watch is set; what is left of `request_stop` is the event, hook and child fan-out. -/
  | stopSignalled
  /-- `commit` has released the state mutex; the terminal watch is next. -/
  | committing (summary : TaskExitSummary)
  /-- `join` is suspended on the terminal watch. -/
  | waiting
  /-- `join` or `try_join` saw a terminal execution; the result cell is next. -/
  | taking
  | returned (reply : Reply T E)

structure Caller (T E : Type) : Type where
  op : Op T E
  pc : Pc T E

/-- The shared state of one execution. -/
structure Shared (T E : Type) : Type where
  core : CoreState
  cell : ResultCell T E
  cancellation : Bool
  published : Option TaskExitSummary
  moves : List TaskState

def Shared.new : Shared T E := ⟨.new, none, false, none, [.queued]⟩

/-- Write the guarded state and record the public state it carries. -/
def Shared.write (shared : Shared T E) (core : CoreState) : Shared T E :=
  { shared with core := core, moves := shared.moves ++ [core.publicState] }

/-- `Option::ok_or(JoinResultError::AlreadyTaken)`. -/
def okOrTaken {α : Type} : Option α → Except JoinResultError α
  | some value => .ok value
  | none => .error .alreadyTaken

/-- One atomic section of a call; `none` when the call is suspended or over. -/
def Shared.advance (shared : Shared T E) (op : Op T E) : Pc T E → Option (Shared T E × Pc T E)
  | .entered =>
    match op with
    | .requestStop cause =>
      match shared.core.requestStop cause with
      | (.requested, core) => some (shared.write core, .stopAccepted)
      | (outcome, _) => some (shared, .returned (.stop outcome))
    | .claimStart =>
      match shared.core.claimStart with
      | some core => some (shared.write core, .returned (.claimed true))
      | none => some (shared, .returned (.claimed false))
    | .setActiveState next =>
      match shared.core.setActiveState next with
      | some core => some (shared.write core, .returned .activeStateSet)
      | none => some (shared, .returned .activeStateSet)
    | .commit normalExit =>
      match shared.core.commit shared.cell normalExit with
      | some written =>
        some ({ shared.write written.core with cell := written.cell }, .committing written.summary)
      | none => some (shared, .returned (.committed false))
    | .join => some (shared, if shared.core.publicState.isTerminal then .taking else .waiting)
    | .tryJoin =>
      some (shared,
        if shared.core.publicState.isTerminal then .taking else .returned (.tried (.ok none)))
  | .stopAccepted => some ({ shared with cancellation := true }, .stopSignalled)
  | .stopSignalled => some (shared, .returned (.stop .requested))
  | .committing summary =>
    some ({ shared with published := some summary }, .returned (.committed true))
  | .waiting => if shared.published.isSome then some (shared, .taking) else none
  | .taking =>
    let (cell, taken) := shared.cell.take
    some ({ shared with cell := cell },
      .returned
        (match op with
        | .tryJoin => .tried (okOrTaken (taken.map some))
        | _ => .joined (okOrTaken taken)))
  | .returned _ => none

/-- The execution with all its callers. -/
structure World (T E : Type) : Type where
  shared : Shared T E
  calls : Pool (Caller T E)

inductive CallAction (T E : Type) : Type
  | invoke (caller : Nat) (op : Op T E)
  | advance (caller : Nat)

def World.step (world : World T E) : CallAction T E → Option (World T E)
  | .invoke caller op =>
    match world.calls caller with
    | none => some { world with calls := world.calls.set caller ⟨op, .entered⟩ }
    | some _ => none
  | .advance caller =>
    match world.calls caller with
    | none => none
    | some call =>
      match world.shared.advance call.op call.pc with
      | none => none
      | some (shared, pc) => some ⟨shared, world.calls.set caller ⟨call.op, pc⟩⟩

/-- All interleavings of any number of calls on a new execution. -/
def race (T E : Type) : System (World T E) (CallAction T E) :=
  ⟨⟨.new, fun _ => none⟩, World.step⟩

/-! ## What one section can do -/

/-- A position from which nothing has been obtained from the execution. -/
def Pc.Quiet : Pc T E → Prop
  | .entered | .waiting | .returned (.claimed _) | .returned .activeStateSet
  | .returned (.committed false) | .returned (.tried (.ok none)) => True
  | .returned (.stop outcome) => outcome ≠ .requested
  | _ => False

/-- Every effect a section can have, with what it found. -/
inductive Advanced (op : Op T E) : Shared T E → Pc T E → Shared T E → Pc T E → Prop
  | quiet {shared : Shared T E} {pc pc' : Pc T E} :
    pc = .entered → pc'.Quiet → Advanced op shared pc shared pc'
  | seen {shared : Shared T E} {pc : Pc T E} :
    pc = .entered ∨ pc = .waiting →
    shared.core.publicState.isTerminal = true ∨ shared.published ≠ none →
    Advanced op shared pc shared .taking
  | active {shared : Shared T E} {pc' : Pc T E} (next : ActiveState) :
    pc'.Quiet → shared.core.terminal = none → shared.core.stopCause = none →
    Advanced op shared .entered
      (shared.write { shared.core with publicState := next.toTaskState }) pc'
  | accept {shared : Shared T E} {cause : StopCauseSummary} :
    op = .requestStop cause → shared.core.terminal = none → shared.core.stopCause = none →
    Advanced op shared .entered
      (shared.write
        { shared.core with stopCause := some cause, publicState := .stopping cause })
      .stopAccepted
  | signal {shared : Shared T E} :
    Advanced op shared .stopAccepted { shared with cancellation := true } .stopSignalled
  | requested {shared : Shared T E} :
    Advanced op shared .stopSignalled shared (.returned (.stop .requested))
  | commit {shared : Shared T E} {written : Committed T E} {normalExit : TaskExit T E} :
    op = .commit normalExit → shared.core.commit shared.cell normalExit = some written →
    Advanced op shared .entered { shared.write written.core with cell := written.cell }
      (.committing written.summary)
  | publish {shared : Shared T E} {summary : TaskExitSummary} :
    Advanced op shared (.committing summary) { shared with published := some summary }
      (.returned (.committed true))
  | take {shared : Shared T E} {pc' : Pc T E} :
    pc' = .returned (.joined (okOrTaken shared.cell)) ∨
      pc' = .returned (.tried (okOrTaken (shared.cell.map some))) →
    Advanced op shared .taking { shared with cell := none } pc'

theorem Advanced.of_advance {shared shared' : Shared T E} {op : Op T E} {pc pc' : Pc T E}
    (step : shared.advance op pc = some (shared', pc')) : Advanced op shared pc shared' pc' := by
  cases pc with
  | entered =>
    cases op with
    | requestStop cause =>
      by_cases free : shared.core.terminal = none ∧ shared.core.stopCause = none
      · simp only [Shared.advance, CoreState.requestStop_of_open cause free.1 free.2,
          Option.some.injEq, Prod.mk.injEq] at step
        obtain ⟨rfl, rfl⟩ := step
        exact .accept rfl free.1 free.2
      · have closed : shared.core.terminal ≠ none ∨ shared.core.stopCause ≠ none := by
          rw [← not_and_or]
          exact free
        have refused := CoreState.requestStop_of_closed cause closed
        simp only [Shared.advance] at step
        split at step
        · next core eq => exact (refused.1 (by rw [eq])).elim
        · next outcome core notRequested eq =>
          simp only [Option.some.injEq, Prod.mk.injEq] at step
          obtain ⟨rfl, rfl⟩ := step
          rw [eq] at refused
          exact .quiet rfl refused.1
    | claimStart =>
      simp only [Shared.advance] at step
      split at step
      · next core claimed =>
        simp only [Option.some.injEq, Prod.mk.injEq] at step
        obtain ⟨rfl, rfl⟩ := step
        obtain ⟨running, unstopped, rfl⟩ := CoreState.claimStart_eq_some.1 claimed
        exact .active (.running 1) trivial running unstopped
      · simp only [Option.some.injEq, Prod.mk.injEq] at step
        obtain ⟨rfl, rfl⟩ := step
        exact .quiet rfl trivial
    | setActiveState next =>
      simp only [Shared.advance] at step
      split at step
      · next core reported =>
        simp only [Option.some.injEq, Prod.mk.injEq] at step
        obtain ⟨rfl, rfl⟩ := step
        obtain ⟨running, unstopped, rfl⟩ := CoreState.setActiveState_eq_some.1 reported
        exact .active next trivial running unstopped
      · simp only [Option.some.injEq, Prod.mk.injEq] at step
        obtain ⟨rfl, rfl⟩ := step
        exact .quiet rfl trivial
    | commit normalExit =>
      simp only [Shared.advance] at step
      split at step
      · next written stored =>
        simp only [Option.some.injEq, Prod.mk.injEq] at step
        obtain ⟨rfl, rfl⟩ := step
        exact .commit rfl stored
      · simp only [Option.some.injEq, Prod.mk.injEq] at step
        obtain ⟨rfl, rfl⟩ := step
        exact .quiet rfl trivial
    | join =>
      simp only [Shared.advance, Option.some.injEq, Prod.mk.injEq] at step
      obtain ⟨rfl, rfl⟩ := step
      split
      · next terminal => exact .seen (.inl rfl) (.inl terminal)
      · exact .quiet rfl trivial
    | tryJoin =>
      simp only [Shared.advance, Option.some.injEq, Prod.mk.injEq] at step
      obtain ⟨rfl, rfl⟩ := step
      split
      · next terminal => exact .seen (.inl rfl) (.inl terminal)
      · exact .quiet rfl trivial
  | stopAccepted =>
    simp only [Shared.advance, Option.some.injEq, Prod.mk.injEq] at step
    obtain ⟨rfl, rfl⟩ := step
    exact .signal
  | stopSignalled =>
    simp only [Shared.advance, Option.some.injEq, Prod.mk.injEq] at step
    obtain ⟨rfl, rfl⟩ := step
    exact .requested
  | committing summary =>
    simp only [Shared.advance, Option.some.injEq, Prod.mk.injEq] at step
    obtain ⟨rfl, rfl⟩ := step
    exact .publish
  | waiting =>
    simp only [Shared.advance] at step
    split at step
    · next published =>
      simp only [Option.some.injEq, Prod.mk.injEq] at step
      obtain ⟨rfl, rfl⟩ := step
      exact .seen (.inr rfl) (.inr (Option.isSome_iff_ne_none.1 published))
    · cases step
  | taking =>
    simp only [Shared.advance, ResultCell.take, Option.some.injEq, Prod.mk.injEq] at step
    obtain ⟨rfl, rfl⟩ := step
    apply Advanced.take
    cases op <;> first | exact .inr rfl | exact .inl rfl
  | returned reply => cases step

/-- A step of the race is a new call or one section of a call that is under way. -/
theorem World.step_cases {world after : World T E} {action : CallAction T E}
    (step : world.step action = some after) :
    (∃ caller op, action = .invoke caller op ∧ world.calls caller = none ∧
      after = { world with calls := world.calls.set caller ⟨op, .entered⟩ }) ∨
    ∃ caller op pc shared pc', action = .advance caller ∧
      world.calls caller = some ⟨op, pc⟩ ∧ Advanced op world.shared pc shared pc' ∧
      after = ⟨shared, world.calls.set caller ⟨op, pc'⟩⟩ := by
  cases action with
  | invoke caller op =>
    simp only [World.step] at step
    split at step
    · next fresh => exact .inl ⟨caller, op, rfl, fresh, (Option.some.inj step).symm⟩
    · cases step
  | advance caller =>
    simp only [World.step] at step
    split at step
    · cases step
    · next call under =>
      split at step
      · cases step
      · next shared pc' moved =>
        exact .inr ⟨caller, call.op, call.pc, shared, pc', rfl, under, .of_advance moved,
          (Option.some.inj step).symm⟩

end BusyBeaver
