import BusyBeaver.Supervision.Structured
import Mathlib.Data.Finset.Card

/-!
# The limit on tracked children

`spawn_child` compares the limit with the controls in the child set.  A control comes in when a
child is accepted and leaves in the hands of a closer, whether its child has ended before or not;
so the limit counts the children of the attempt, and these are the live ones if and only if none
of them has ended (`child_limit_counts_live_iff`).
-/

namespace BusyBeaver

open Transition

variable {T E : Type}

namespace ChildSet

/-- A context of this attempt may spawn. -/
def Opens (children : ChildSet) (attempt : Nat) : Prop :=
  children.admissionOpen = true ∧ children.attemptAdmissionOpen = true ∧
    children.currentAttempt = attempt

/-- When the limit is named. -/
theorem spawnChild_eq_limitReached {children : ChildSet} {maximum attempt child limit : Nat}
    {available : Bool} :
    children.spawnChild maximum attempt available child = .error (.limitReached limit) ↔
      children.Opens attempt ∧ maximum ≤ children.controls.length ∧ limit = maximum := by
  unfold spawnChild Opens
  by_cases shut : (!children.admissionOpen || !children.attemptAdmissionOpen ||
      decide (children.currentAttempt ≠ attempt)) = true
  · rw [if_pos shut]
    refine ⟨fun same => ?_, fun ⟨⟨admission, current, own⟩, _⟩ => ?_⟩
    · cases same
    · simp [admission, current, own] at shut
  · rw [if_neg shut]
    simp only [Bool.or_eq_true, Bool.not_eq_true', decide_eq_true_eq, not_or, Bool.not_eq_false,
      ne_eq, not_not] at shut
    by_cases full : maximum ≤ children.controls.length
    · rw [if_pos full]
      refine ⟨fun same => ?_, fun ⟨_, _, same⟩ => ?_⟩
      · cases same
        exact ⟨⟨shut.1.1, shut.1.2, shut.2⟩, full, rfl⟩
      · rw [same]
    · rw [if_neg full]
      refine ⟨fun same => ?_, fun ⟨_, room, _⟩ => absurd room full⟩
      split at same <;> cases same

end ChildSet

namespace Supervised

variable {state after : Supervised T E}

/-- The tracked children that are not terminal. -/
def trackedLive (state : Supervised T E) : Finset Nat :=
  state.live.filter (· ∈ state.children.tracked)

/-- `spawn_child` names the limit of the execution when it is open and full. -/
theorem spawnChild_eq_limitReached {attempt limit : Nat} {available : Bool} :
    state.spawnChild attempt available = .error (.limitReached limit) ↔
      state.children.Opens attempt ∧ state.maximumChildren ≤ state.children.controls.length ∧
        limit = state.maximumChildren := by
  rw [← ChildSet.spawnChild_eq_limitReached, Supervised.spawnChild]
  cases state.children.spawnChild state.maximumChildren attempt available state.nextChild with
  | ok children => simp
  | error error => simp

/-! ## What the child set holds -/

/-- The controls are those of different children, and not more than the limit. -/
structure LimitInv (maximum : Nat) (state : Supervised T E) : Prop where
  limit : state.maximumChildren = maximum
  within : state.children.controls.length ≤ maximum
  fresh : ∀ child ∈ state.children.tracked, child < state.nextChild
  distinct : state.children.tracked.Nodup

namespace LimitInv

variable {maximum : Nat}

theorem new (kind : Kind) (abortPolicy : AbortPolicy) (maximum : Nat) :
    (Supervised.new kind abortPolicy maximum : Supervised T E).LimitInv maximum where
  limit := rfl
  within := Nat.zero_le _
  fresh := fun _ absent => absurd absent List.not_mem_nil
  distinct := List.nodup_nil

/-- Controls that leave the set. -/
theorem fewer (inv : state.LimitInv maximum)
    (limit : after.maximumChildren = state.maximumChildren)
    (next : after.nextChild = state.nextChild)
    (controls : after.children.controls.Sublist state.children.controls) :
    after.LimitInv maximum := by
  have tracked : after.children.tracked.Sublist state.children.tracked := controls.map _
  constructor
  · exact limit.trans inv.limit
  · exact Nat.le_trans controls.length_le inv.within
  · intro child there
    rw [next]
    exact inv.fresh child (tracked.subset there)
  · exact inv.distinct.sublist tracked

theorem runner (inv : state.LimitInv maximum) (moved : RunnerMoved state after) :
    after.LimitInv maximum := by
  cases moved with
  | close here => exact inv.fewer rfl rfl (List.nil_sublist _)
  | retire here =>
    obtain ⟨core, commit⟩ := state.commit_eq (.executorStopped .runnerCancelled)
    rw [commit]
    exact inv.fewer rfl rfl (List.Sublist.refl _)
  | @finish exit here =>
    obtain ⟨core, commit⟩ := state.commit_eq exit
    rw [commit]
    exact inv.fewer rfl rfl (List.Sublist.refl _)
  | _ => exact inv.fewer rfl rfl (List.Sublist.refl _)

/-- A child that is accepted gets a number of its own. -/
theorem childSpawned (inv : state.LimitInv maximum) {attempt : Nat}
    (room : state.children.controls.length < state.maximumChildren) :
    ({ state with
        children := { state.children with
          controls := state.children.controls ++ [⟨attempt, state.nextChild⟩] }
        live := insert state.nextChild state.live
        nextChild := state.nextChild + 1 } : Supervised T E).LimitInv maximum := by
  have grown : ChildSet.tracked { state.children with
      controls := state.children.controls ++ [⟨attempt, state.nextChild⟩] } =
        state.children.tracked ++ [state.nextChild] := by
    simp [ChildSet.tracked]
  constructor
  · exact inv.limit
  · rw [List.length_append, List.length_singleton, ← inv.limit]
    exact room
  · intro child there
    rw [grown] at there
    rcases List.mem_append.1 there with before | last
    · exact Nat.lt_succ_of_lt (inv.fresh child before)
    · exact List.mem_singleton.1 last ▸ Nat.lt_succ_self _
  · rw [grown]
    refine List.nodup_append.2 ⟨inv.distinct, List.nodup_singleton _, ?_⟩
    intro child before other last same
    have below := inv.fresh child before
    rw [same, List.mem_singleton.1 last] at below
    exact Nat.lt_irrefl _ below

/-- **Step lemma.** -/
theorem step (inv : state.LimitInv maximum) {action : SupervisedAction T E}
    (stepped : Stepped state action after) : after.LimitInv maximum := by
  cases stepped with
  | runner moved => exact inv.runner moved
  | body moved => exact inv.fewer moved.maximum moved.nextChild moved.controls
  | still same =>
    exact inv.fewer same.maximum same.nextChild
      ((congrArg ChildSet.controls same.children) ▸ List.Sublist.refl _)
  | childSpawned context opened room => exact inv.childSpawned room
  | _ => exact inv.fewer rfl rfl (List.Sublist.refl _)

/-- In a full set, as many are live as the limit says if and only if all of them are. -/
theorem le_card_iff (inv : state.LimitInv maximum)
    (full : maximum ≤ state.children.controls.length) :
    maximum ≤ state.trackedLive.card ↔
      ∀ child ∈ state.children.tracked, child ∈ state.live := by
  have part : state.trackedLive ⊆ state.children.tracked.toFinset := by
    intro child there
    exact List.mem_toFinset.2 (Finset.mem_filter.1 there).2
  have count : state.children.tracked.toFinset.card = maximum := by
    rw [List.toFinset_card_of_nodup inv.distinct, ChildSet.tracked, List.length_map]
    exact Nat.le_antisymm inv.within full
  constructor
  · intro enough child there
    have same := Finset.eq_of_subset_of_card_le part (count.le.trans enough)
    have counted : child ∈ state.trackedLive := same ▸ List.mem_toFinset.2 there
    exact (Finset.mem_filter.1 counted).1
  · intro all
    rw [← count]
    refine Finset.card_le_card fun child there => ?_
    have tracked := List.mem_toFinset.1 there
    exact Finset.mem_filter.2 ⟨all child tracked, tracked⟩

end LimitInv

end Supervised

/-! ## The result -/

section Result

variable {kind : Kind} {abortPolicy : AbortPolicy} {maximumChildren : Nat}
  {actions : List (SupervisedAction T E)} {state : Supervised T E}

/-- **Run lemma.** -/
theorem limitInv_of_run
    (run : (supervision T E kind abortPolicy maximumChildren).exec
      (supervision T E kind abortPolicy maximumChildren).init actions = some state) :
    state.LimitInv maximumChildren := by
  refine (System.Reaches.of_schedule actions run).invariant
    (.new kind abortPolicy maximumChildren) ?_
  intro before after action inv _ step
  exact inv.step (.of_step step)

/-- The run comes to a call of `spawn_child` on a context of this attempt. -/
def CallsSpawnChild (kind : Kind) (abortPolicy : AbortPolicy) (maximumChildren : Nat)
    (actions : List (SupervisedAction T E)) (attempt : Nat) (available : Bool)
    (state : Supervised T E) : Prop :=
  ∃ before after, actions = before ++ .spawnChild attempt available :: after ∧
    (supervision T E kind abortPolicy maximumChildren).exec
      (supervision T E kind abortPolicy maximumChildren).init before = some state ∧
    state.context = true

/-- **Main result.**  In every run, all calls that answer `LimitReached` find as many tracked
children that are not terminal as it names, if and only if no call of the open attempt finds the
set full and one of its children ended. -/
theorem child_limit_counts_live_iff (kind : Kind) (abortPolicy : AbortPolicy)
    (maximumChildren : Nat) (actions : List (SupervisedAction T E)) :
    (∀ attempt available state,
        CallsSpawnChild kind abortPolicy maximumChildren actions attempt available state →
      ∀ maximum, state.spawnChild attempt available = .error (.limitReached maximum) →
        maximum ≤ state.trackedLive.card) ↔
    ∀ attempt available state,
        CallsSpawnChild kind abortPolicy maximumChildren actions attempt available state →
      state.children.Opens attempt → maximumChildren ≤ state.children.controls.length →
        ∀ child ∈ state.children.tracked, child ∈ state.live := by
  constructor
  · intro counts attempt available state calls opens full
    obtain ⟨before, after, -, run, -⟩ := id calls
    have inv := limitInv_of_run run
    refine (inv.le_card_iff full).1 (counts attempt available state calls maximumChildren ?_)
    exact Supervised.spawnChild_eq_limitReached.2 ⟨opens, inv.limit ▸ full, inv.limit.symm⟩
  · intro all attempt available state calls maximum refused
    obtain ⟨before, after, -, run, -⟩ := id calls
    have inv := limitInv_of_run run
    obtain ⟨opens, full, rfl⟩ := Supervised.spawnChild_eq_limitReached.1 refused
    rw [inv.limit] at full ⊢
    exact (inv.le_card_iff full).2 (all attempt available state calls opens full)

/-- The only child that is allowed has ended, and its parent goes on. -/
def childEnded : List (SupervisedAction Unit Unit) :=
  [.runner .proceed, .runner .proceed, .runner .proceed, .body .proceed, .spawnChild 1 true,
    .childEnds 0]

/-- No child is live, and the second one is refused for a limit of one. -/
theorem ended_child_counts :
    ∃ state, CallsSpawnChild .spec .allowed 1 (childEnded ++ [.spawnChild 1 true]) 1 true state ∧
      state.spawnChild 1 true = .error (.limitReached 1) ∧ ¬ 1 ≤ state.trackedLive.card := by
  have ends : ((supervision Unit Unit .spec .allowed 1).exec
      (supervision Unit Unit .spec .allowed 1).init childEnded).map
        (fun state => (state.context, state.live, state.children, state.maximumChildren)) =
      some (true, ∅, ⟨true, 1, true, [⟨1, 0⟩]⟩, 1) := by decide +kernel
  obtain ⟨state, run, found⟩ := Option.map_eq_some_iff.1 ends
  simp only [Prod.mk.injEq] at found
  obtain ⟨context, none_live, children, maximum⟩ := found
  refine ⟨state, ⟨childEnded, [], rfl, run, context⟩, ?_, ?_⟩
  · rw [Supervised.spawnChild_eq_limitReached, children, maximum]
    exact ⟨⟨rfl, rfl, rfl⟩, Nat.le_refl 1, rfl⟩
  · simp [Supervised.trackedLive, none_live]

end Result

end BusyBeaver
