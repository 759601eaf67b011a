import Mathlib.Tactic.Common

/-!
# Tracked children of one execution

`ChildSet` of `src/execution.rs` and what is done with it under its mutex: a child is
tracked under the number of the attempt whose context spawned it, an attempt's closer
takes the controls of that attempt, and the last closer takes them all.
-/

namespace BusyBeaver

/-- `SpawnChildError`. -/
inductive SpawnChildError : Type
  | parentClosing
  | executorUnavailable
  | limitReached (maximum : Nat)
  deriving DecidableEq, Repr

/-- `TrackedChild`; a control is named by the child execution it controls. -/
structure TrackedChild : Type where
  attempt : Nat
  control : Nat
  deriving DecidableEq, Repr

/-- `ChildSet`. -/
structure ChildSet : Type where
  admissionOpen : Bool
  currentAttempt : Nat
  attemptAdmissionOpen : Bool
  controls : List TrackedChild
  deriving DecidableEq, Repr

namespace ChildSet

/-- The set `ExecutionCore::new` builds. -/
def new : ChildSet := ⟨true, 1, true, []⟩

/-- The children whose control is still in the set. -/
def tracked (children : ChildSet) : List Nat := children.controls.map TrackedChild.control

/-- Locked section of `begin_attempt`. -/
def beginAttempt (children : ChildSet) (attempt : Nat) : ChildSet :=
  { children with
    currentAttempt := attempt, attemptAdmissionOpen := children.admissionOpen }

/-- Locked section of `close_children_and_wait`, with the controls it takes. -/
def closeChildren (children : ChildSet) : ChildSet × List Nat :=
  ({ children with admissionOpen := false, attemptAdmissionOpen := false, controls := [] },
    children.tracked)

/-- Locked section of `close_attempt_children_and_wait`, with the controls it takes. -/
def closeAttemptChildren (children : ChildSet) (attempt : Nat) : ChildSet × List Nat :=
  ({ children with
      attemptAdmissionOpen :=
        if children.currentAttempt = attempt then false else children.attemptAdmissionOpen
      controls := children.controls.filter (·.attempt ≠ attempt) },
    (children.controls.filter (·.attempt = attempt)).map TrackedChild.control)

/-- `WorkContext::spawn_child`: `attempt` is the context's, `available` says whether the
child execution could be prepared, `child` is its control. -/
def spawnChild (children : ChildSet) (maximum attempt : Nat) (available : Bool) (child : Nat) :
    Except SpawnChildError ChildSet :=
  if !children.admissionOpen || !children.attemptAdmissionOpen ||
      children.currentAttempt ≠ attempt then .error .parentClosing
  else if maximum ≤ children.controls.length then .error (.limitReached maximum)
  else if !available then .error .executorUnavailable
  else .ok { children with controls := children.controls ++ [⟨attempt, child⟩] }

@[simp] theorem tracked_beginAttempt (children : ChildSet) (attempt : Nat) :
    (children.beginAttempt attempt).tracked = children.tracked := rfl

@[simp] theorem admissionOpen_beginAttempt (children : ChildSet) (attempt : Nat) :
    (children.beginAttempt attempt).admissionOpen = children.admissionOpen := rfl

@[simp] theorem admissionOpen_closeAttemptChildren (children : ChildSet) (attempt : Nat) :
    (children.closeAttemptChildren attempt).1.admissionOpen = children.admissionOpen := rfl

/-- An attempt's closer divides the tracked children into those it takes and those it
leaves. -/
theorem mem_closeAttemptChildren {children : ChildSet} {attempt child : Nat} :
    child ∈ children.tracked ↔
      child ∈ (children.closeAttemptChildren attempt).1.tracked ∨
        child ∈ (children.closeAttemptChildren attempt).2 := by
  simp only [tracked, closeAttemptChildren, List.mem_map, List.mem_filter, decide_eq_true_eq]
  constructor
  · rintro ⟨entry, tracked, rfl⟩
    by_cases own : entry.attempt = attempt
    · exact Or.inr ⟨entry, ⟨tracked, own⟩, rfl⟩
    · exact Or.inl ⟨entry, ⟨tracked, own⟩, rfl⟩
  · rintro (⟨entry, ⟨tracked, -⟩, rfl⟩ | ⟨entry, ⟨tracked, -⟩, rfl⟩)
    · exact ⟨entry, tracked, rfl⟩
    · exact ⟨entry, tracked, rfl⟩

/-- An accepted child is tracked, beside those tracked before, and nothing else moves. -/
theorem of_spawnChild {children after : ChildSet} {maximum attempt child : Nat}
    {available : Bool}
    (spawned : children.spawnChild maximum attempt available child = .ok after) :
    children.admissionOpen = true ∧
      after = { children with controls := children.controls ++ [⟨attempt, child⟩] } := by
  unfold spawnChild at spawned
  split at spawned
  · cases spawned
  · rename_i admitted
    split at spawned
    · cases spawned
    · split at spawned
      · cases spawned
      · simp only [Bool.or_eq_true, Bool.not_eq_true', not_or, Bool.not_eq_false] at admitted
        exact ⟨admitted.1.1, (Except.ok.inj spawned).symm⟩

/-- A child is accepted under the attempt that is open. -/
theorem attempt_of_spawnChild {children after : ChildSet} {maximum attempt child : Nat}
    {available : Bool}
    (spawned : children.spawnChild maximum attempt available child = .ok after) :
    children.attemptAdmissionOpen = true ∧ children.currentAttempt = attempt := by
  unfold spawnChild at spawned
  split at spawned
  · cases spawned
  · rename_i admitted
    simp only [Bool.or_eq_true, Bool.not_eq_true', not_or, Bool.not_eq_false, decide_eq_true_eq,
      ne_eq, not_not] at admitted
    exact ⟨admitted.1.2, admitted.2⟩

/-- A child is accepted within the limit. -/
theorem length_lt_of_spawnChild {children after : ChildSet} {maximum attempt child : Nat}
    {available : Bool}
    (spawned : children.spawnChild maximum attempt available child = .ok after) :
    children.controls.length < maximum := by
  unfold spawnChild at spawned
  split at spawned
  · cases spawned
  · split at spawned
    · cases spawned
    · rename_i room
      exact Nat.lt_of_not_le room

/-- A context whose attempt is not the open one cannot spawn. -/
theorem spawnChild_of_attempt {children : ChildSet} {attempt : Nat}
    (shut : children.attemptAdmissionOpen = true → children.currentAttempt ≠ attempt)
    (maximum : Nat) (available : Bool) (child : Nat) :
    children.spawnChild maximum attempt available child = .error .parentClosing := by
  unfold spawnChild
  refine if_pos ?_
  cases open_ : children.attemptAdmissionOpen with
  | false => simp
  | true => simp [shut open_]

/-- After the last closer no context can spawn. -/
theorem spawnChild_of_closed {children : ChildSet} (closed : children.admissionOpen = false)
    (maximum attempt : Nat) (available : Bool) (child : Nat) :
    children.spawnChild maximum attempt available child = .error .parentClosing := by
  simp [spawnChild, closed]

end ChildSet

end BusyBeaver
