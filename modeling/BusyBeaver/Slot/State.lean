import BusyBeaver.Lib.Checked
import BusyBeaver.Lane.State

/-!
# The task slot and its critical sections

`SlotState` and what `src/slot.rs` does with it while the slot mutex is held: the
acceptance of `replace`, the check and the publication of `run_replace`, the clearing
of its monitor, `close`.  A control handle is the id of the execution it controls.

The revision and the specification advance when a transaction is accepted, `current`
and `last` when its supervisor publishes; the two pairs are told apart throughout.
-/

namespace BusyBeaver

open Checked

inductive ReplacePolicy : Type
  | strictSingleInstance
  | availabilityFirst
  deriving DecidableEq, Repr

/-- Why `replace` refuses; the poisoned lock is left out. -/
inductive ReplaceError : Type
  | closed
  | staleRevision (current proposed : Nat)
  | revisionConflict (revision : Nat)
  | revisionInProgress (revision : Nat)
  | wouldJoin (executionId : ExecutionId)
  | sequenceExhausted
  deriving DecidableEq, Repr

/-- What a replace handle resolves to. -/
inductive ReplaceOutcome : Type
  | replaced (revision : Nat) (handle : ExecutionId)
  | existing (revision : Nat) (control : ExecutionId)
  | superseded (revision : Nat)
  | admissionFailed (revision : Nat) (error : SpawnError)
  deriving DecidableEq, Repr

/-- What the critical section of `replace` answers: an error, a handle already
resolved to `Existing`, or an accepted transaction and the control it captured. -/
inductive ReplaceAnswer : Type
  | error (error : ReplaceError)
  | existing (revision : Nat) (control : ExecutionId)
  | accepted (transaction : Nat) (previous : Option ExecutionId)
  deriving DecidableEq, Repr

structure SlotState : Type where
  revision : Option Nat
  specId : Option TaskSpecId
  transaction : Nat
  current : Option ExecutionId
  last : Option ExecutionId
  closed : Bool
  deriving DecidableEq, Repr

/-- `TaskSlot::new`. -/
def SlotState.new : SlotState where
  revision := none
  specId := none
  transaction := 0
  current := none
  last := none
  closed := false

/-- `would_join`: the caller runs inside the execution, on the path of it. -/
def wouldJoin (path : List ExecutionId) (executionId : ExecutionId) : Bool :=
  path.contains executionId

/-- The stable code of the one internal error branch of the slot. -/
def closeSequenceOverflow : String := "BB-SLOT-CLOSE-SEQUENCE-OVERFLOW"

namespace SlotState

/-- The end of the section of `replace`: the transaction advances, and the revision
and the specification with it. -/
def accept (state : SlotState) (revision : Nat) (specId : TaskSpecId) :
    SlotState × ReplaceAnswer :=
  match Checked.add u64Max state.transaction 1 with
  | none => (state, .error .sequenceExhausted)
  | some transaction =>
    ({ state with transaction, revision := some revision, specId := some specId },
      .accepted transaction state.current)

/-- The comparison of the proposed revision with the accepted one. -/
def matchRevision (state : SlotState) (revision : Nat) (specId : TaskSpecId) :
    SlotState × ReplaceAnswer :=
  match state.revision with
  | none => state.accept revision specId
  | some current =>
    if revision < current then (state, .error (.staleRevision current revision))
    else if revision = current then
      if state.specId ≠ some specId then (state, .error (.revisionConflict revision))
      else
        match state.current.or state.last with
        | none => (state, .error (.revisionInProgress revision))
        | some control => (state, .existing revision control)
    else state.accept revision specId

/-- The execution a strict replacement would wait for from within. -/
def joined (state : SlotState) (path : List ExecutionId) (policy : ReplacePolicy) :
    Option ExecutionId :=
  match policy with
  | .strictSingleInstance => state.current.filter (wouldJoin path)
  | .availabilityFirst => none

/-- `TaskSlot::replace`, called on the path `path` of executions. -/
def replace (state : SlotState) (path : List ExecutionId) (revision : Nat)
    (specId : TaskSpecId) (policy : ReplacePolicy) : SlotState × ReplaceAnswer :=
  if state.closed then (state, .error .closed)
  else
    match state.joined path policy with
    | some executionId => (state, .error (.wouldJoin executionId))
    | none => state.matchRevision revision specId

/-- The check of `run_replace` before the admission and before the publication. -/
def superseded (state : SlotState) (transaction revision : Nat) : Bool :=
  state.closed || decide (state.transaction ≠ transaction) ||
    decide (state.revision ≠ some revision)

/-- The publication of `run_replace`. -/
def publish (state : SlotState) (control : ExecutionId) : SlotState :=
  { state with current := some control, last := some control }

/-- The critical section of the monitor of a published execution. -/
def clear (state : SlotState) (transaction : Nat) (executionId : ExecutionId) : SlotState :=
  if state.transaction = transaction ∧ state.current = some executionId then
    { state with current := none }
  else state

/-- `TaskSlot::close`, the execution it cancels and the codes it logs. -/
def close (state : SlotState) : SlotState × Option ExecutionId × List String :=
  match Checked.add u64Max state.transaction 1 with
  | some next =>
    ({ state with closed := true, transaction := next, current := none, last := none },
      state.current, [])
  | none =>
    ({ state with closed := true, current := none, last := none },
      state.current, [closeSequenceOverflow])

/-! ## What one section can do -/

variable {state state' : SlotState} {path : List ExecutionId} {revision transaction : Nat}
variable {specId : TaskSpecId} {policy : ReplacePolicy} {answer : ReplaceAnswer}

/-- An acceptance in full. -/
structure Accepts (state : SlotState) (path : List ExecutionId) (revision : Nat)
    (specId : TaskSpecId) (policy : ReplacePolicy) : Prop where
  opened : state.closed = false
  apart : state.joined path policy = none
  newer : ∀ current ∈ state.revision, current < revision
  room : state.transaction + 1 ≤ u64Max

/-- An answer `Existing` in full. -/
structure Repeats (state : SlotState) (path : List ExecutionId) (revision : Nat)
    (specId : TaskSpecId) (policy : ReplacePolicy) : Prop where
  opened : state.closed = false
  apart : state.joined path policy = none
  same : state.revision = some revision
  spec : state.specId = some specId

theorem accept_cases (eq : state.accept revision specId = (state', answer)) :
    (state.transaction + 1 ≤ u64Max ∧
      state' = { state with
        transaction := state.transaction + 1, revision := some revision,
        specId := some specId } ∧
      answer = .accepted (state.transaction + 1) state.current) ∨
    (u64Max < state.transaction + 1 ∧ state' = state ∧ answer = .error .sequenceExhausted) := by
  unfold accept at eq
  cases bump : Checked.add u64Max state.transaction 1 with
  | none =>
    rw [bump] at eq
    obtain ⟨rfl, rfl⟩ := Prod.mk.inj eq
    exact .inr ⟨add_eq_none.1 bump, rfl, rfl⟩
  | some next =>
    rw [bump] at eq
    obtain ⟨fits, rfl⟩ := add_eq_some.1 bump
    obtain ⟨rfl, rfl⟩ := Prod.mk.inj eq
    exact .inl ⟨fits, rfl, rfl⟩

/-- Everything the section of `replace` can do. -/
theorem replace_cases (eq : state.replace path revision specId policy = (state', answer)) :
    (∃ error, answer = .error error ∧ state' = state) ∨
    (state.Repeats path revision specId policy ∧
      ∃ control, state.current.or state.last = some control ∧
        answer = .existing revision control ∧ state' = state) ∨
    (state.Accepts path revision specId policy ∧
      answer = .accepted (state.transaction + 1) state.current ∧
      state' = { state with
        transaction := state.transaction + 1, revision := some revision,
        specId := some specId }) := by
  have refused : ∀ {error : ReplaceError}, (state, ReplaceAnswer.error error) = (state', answer) →
      ∃ error, answer = .error error ∧ state' = state := by
    intro error pair
    obtain ⟨rfl, rfl⟩ := Prod.mk.inj pair
    exact ⟨error, rfl, rfl⟩
  unfold replace at eq
  split at eq
  · exact .inl (refused eq)
  next opened =>
  rw [Bool.not_eq_true] at opened
  split at eq
  · exact .inl (refused eq)
  next apart =>
  have accepted : (∀ current ∈ state.revision, current < revision) →
      state.accept revision specId = (state', answer) →
      (∃ error, answer = .error error ∧ state' = state) ∨
      (state.Accepts path revision specId policy ∧
        answer = .accepted (state.transaction + 1) state.current ∧
        state' = { state with
          transaction := state.transaction + 1, revision := some revision,
          specId := some specId }) := by
    intro newer eq
    rcases accept_cases eq with ⟨room, next, said⟩ | ⟨_, next, said⟩
    · exact .inr ⟨{ opened, apart, newer, room }, said, next⟩
    · exact .inl ⟨_, said, next⟩
  unfold matchRevision at eq
  split at eq
  next unset =>
    rcases accepted (by simp [unset]) eq with done | done
    · exact .inl done
    · exact .inr (.inr done)
  next current set =>
  split at eq
  · exact .inl (refused eq)
  next fresh =>
  split at eq
  next same =>
    subst same
    split at eq
    · exact .inl (refused eq)
    next spec =>
    split at eq
    · exact .inl (refused eq)
    next control found =>
      obtain ⟨rfl, rfl⟩ := Prod.mk.inj eq
      exact .inr (.inl ⟨{ opened, apart, same := set, spec := not_not.1 spec },
        control, found, rfl, rfl⟩)
  next other =>
    have newer : ∀ old ∈ state.revision, old < revision := by
      intro old member
      rw [set, Option.mem_some_iff] at member
      omega
    rcases accepted newer eq with done | done
    · exact .inl done
    · exact .inr (.inr done)

/-- A call that repeats the accepted revision answers with the control of the slot,
or that the revision is still in progress. -/
theorem Repeats.answers (repeats : state.Repeats path revision specId policy) :
    (state.replace path revision specId policy).2 =
      match state.current.or state.last with
      | none => .error (.revisionInProgress revision)
      | some control => .existing revision control := by
  unfold replace matchRevision
  simp only [repeats.opened, repeats.apart, repeats.same, repeats.spec, Bool.false_eq_true,
    if_false, lt_irrefl, ne_eq, not_true_eq_false, if_true]
  cases state.current.or state.last <;> rfl

/-- A call that answers `Existing` repeats the accepted revision. -/
theorem existing_inv {answered : Nat} {control : ExecutionId}
    (eq : (state.replace path revision specId policy).2 = .existing answered control) :
    answered = revision ∧ state.Repeats path revision specId policy ∧
      state.current.or state.last = some control := by
  have whole : state.replace path revision specId policy =
      ((state.replace path revision specId policy).1, .existing answered control) := by
    rw [← eq]
  rcases replace_cases whole with ⟨_, absurd, _⟩ | ⟨repeats, _, found, said, _⟩ |
      ⟨_, absurd, _⟩
  · cases absurd
  · obtain ⟨rfl, rfl⟩ := ReplaceAnswer.existing.inj said
    exact ⟨rfl, repeats, found⟩
  · cases absurd

theorem superseded_eq_false :
    state.superseded transaction revision = false ↔
      state.closed = false ∧ state.transaction = transaction ∧
        state.revision = some revision := by
  simp [superseded, and_assoc]

theorem clear_cases (transaction : Nat) (executionId : ExecutionId) :
    (state.transaction = transaction ∧ state.current = some executionId ∧
      state.clear transaction executionId = { state with current := none }) ∨
    state.clear transaction executionId = state := by
  unfold clear
  split
  next own => exact .inl ⟨own.1, own.2, rfl⟩
  next => exact .inr rfl

/-- `close` clears the controls and never lowers the transaction. -/
theorem close_fields (state : SlotState) :
    state.close.1.closed = true ∧ state.close.1.current = none ∧ state.close.1.last = none ∧
      state.close.1.revision = state.revision ∧ state.transaction ≤ state.close.1.transaction ∧
      state.close.2.1 = state.current := by
  unfold close
  cases bump : Checked.add u64Max state.transaction 1 with
  | none => exact ⟨rfl, rfl, rfl, rfl, le_refl _, rfl⟩
  | some next =>
    have raised := (add_eq_some.1 bump).2
    refine ⟨rfl, rfl, rfl, rfl, ?_, rfl⟩
    simp only
    omega

end SlotState

end BusyBeaver
