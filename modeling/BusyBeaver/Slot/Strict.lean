import BusyBeaver.Slot.Run
import Mathlib.Data.Finset.Card

/-!
# Strict replacement

A strict transaction awaits the control it captured when it was accepted.  That control
is `current`, so it covers the live execution of the slot only when no supervisor is
between its admission and its publication: such an execution is alive, is not `current`,
and no newer transaction awaits it.

`StrictInv` says where the live execution of a slot may be: it is the one the phase of
the newest supervisor accounts for.
-/

namespace BusyBeaver

open Transition

/-- The live execution a supervisor of the newest transaction leaves room for. -/
def SupervisorPhase.accounts (phase : SupervisorPhase) (current : Option ExecutionId) :
    Option ExecutionId :=
  match phase with
  | .trying | .parked => none
  | .admitted executionId => some executionId
  | _ => current

/-- The control a supervisor awaits, or is about to await, is the current one. -/
def Supervisor.Captures (supervisor : Supervisor) (current : Option ExecutionId) : Prop :=
  match supervisor.phase with
  | .spawned => supervisor.previous = current
  | .waiting previous => current = some previous
  | _ => True

namespace SlotRun

/-- The execution of the newest transaction that is admitted and not yet published. -/
def unpublished (run : SlotRun) : Option ExecutionId :=
  (run.supervisors run.slot.transaction).bind fun supervisor => supervisor.phase.unpublished

/-- The replacement is strict, and a call that goes on to be accepted finds no live
execution between the admission and the publication of the newest transaction. -/
def Captured (run : SlotRun) : SlotAction → Prop
  | .replace path revision _ policy =>
    policy = .strictSingleInstance ∧
      (run.slot.closed = false → (∀ current ∈ run.slot.current, current ∉ path) →
        (∀ current ∈ run.slot.revision, current < revision) →
        ∀ executionId ∈ run.unpublished, executionId ∉ run.live)
  | _ => True

instance (run : SlotRun) : DecidablePred run.Captured
  | .replace .. => by unfold Captured; infer_instance
  | .start _ | .waited _ | .attempt .. | .wake _ | .publish _ | .deliver _ | .clear _ | .lose _
  | .finish _ | .cancelCurrent | .close => isTrue trivial

/-- Every replacement is strict. -/
def OnlyStrict (_ : SlotRun) : SlotAction → Prop
  | .replace _ _ _ policy => policy = .strictSingleInstance
  | _ => True

instance (run : SlotRun) : DecidablePred run.OnlyStrict
  | .replace .. => by unfold OnlyStrict; infer_instance
  | .start _ | .waited _ | .attempt .. | .wake _ | .publish _ | .deliver _ | .clear _ | .lose _
  | .finish _ | .cancelCurrent | .close => isTrue trivial

/-! ## The invariant -/

structure StrictInv (run : SlotRun) : Prop where
  bounded : ∀ t supervisor, run.supervisors t = some supervisor → t ≤ run.slot.transaction
  strict : ∀ t supervisor, run.supervisors t = some supervisor →
    supervisor.policy = .strictSingleInstance
  revised : run.slot.closed = false → ∀ supervisor,
    run.supervisors run.slot.transaction = some supervisor →
    run.slot.revision = some supervisor.revision
  single : run.live.card ≤ 1
  unclaimed : run.slot.closed = false → run.supervisors run.slot.transaction = none →
    ∀ executionId ∈ run.live, run.slot.current = some executionId
  accounted : run.slot.closed = false → ∀ supervisor,
    run.supervisors run.slot.transaction = some supervisor →
    ∀ executionId ∈ run.live, supervisor.phase.accounts run.slot.current = some executionId
  captured : run.slot.closed = false → ∀ supervisor,
    run.supervisors run.slot.transaction = some supervisor →
    supervisor.Captures run.slot.current

namespace StrictInv

variable {run run' : SlotRun} {action : SlotAction} {transaction : Nat}
variable {supervisor supervisor' : Supervisor}

theorem new : SlotRun.new.StrictInv where
  bounded := by intro t supervisor absurd; cases absurd
  strict := by intro t supervisor absurd; cases absurd
  revised := by intro _ supervisor absurd; cases absurd
  single := Nat.zero_le _
  unclaimed := by intro _ _ executionId absurd; cases absurd
  accounted := by intro _ supervisor absurd; cases absurd
  captured := by intro _ supervisor absurd; cases absurd

/-- Before the newest supervisor moves on, the one live execution is `current`, unless
it is admitted and unpublished. -/
theorem current_of_live (inv : run.StrictInv) (opened : run.slot.closed = false)
    (published : ∀ executionId ∈ run.unpublished, executionId ∉ run.live) :
    ∀ executionId ∈ run.live, run.slot.current = some executionId := by
  intro executionId member
  cases found : run.supervisors run.slot.transaction with
  | none => exact inv.unclaimed opened found executionId member
  | some supervisor =>
    have counted := inv.accounted opened supervisor found executionId member
    have absent : executionId ∉ run.unpublished.toFinset := by
      intro claimed
      exact published executionId (Option.mem_toFinset.1 claimed) member
    rw [unpublished, found, Option.bind_some] at absent
    cases at_ : supervisor.phase <;>
      simp_all [SupervisorPhase.accounts, SupervisorPhase.unpublished]

/-- A supervisor that moves keeps the invariant when, being the newest of an open slot,
it still accounts for the live execution. -/
theorem move (inv : run.StrictInv) (found : run.supervisors transaction = some supervisor)
    (policy : supervisor'.policy = supervisor.policy)
    (revision : supervisor'.revision = supervisor.revision)
    (newest : run.slot.closed = false → run.slot.transaction = transaction →
      (∀ executionId ∈ run.live,
        supervisor'.phase.accounts run.slot.current = some executionId) ∧
      supervisor'.Captures run.slot.current) :
    (run.move transaction supervisor').StrictInv where
  bounded t other at_t := by
    rcases Pool.of_set_eq_some at_t with ⟨rfl, _⟩ | ⟨_, old⟩
    · exact inv.bounded _ _ found
    · exact inv.bounded _ _ old
  strict t other at_t := by
    rcases Pool.of_set_eq_some at_t with ⟨_, rfl⟩ | ⟨_, old⟩
    · rw [policy]
      exact inv.strict _ _ found
    · exact inv.strict _ _ old
  revised opened other at_t := by
    rcases Pool.of_set_eq_some at_t with ⟨own, rfl⟩ | ⟨_, old⟩
    · rw [revision]
      exact inv.revised opened _ (own ▸ found)
    · exact inv.revised opened _ old
  single := inv.single
  unclaimed opened absent := by
    by_cases own : run.slot.transaction = transaction
    · subst own
      simp [SlotRun.move] at absent
    · refine inv.unclaimed opened ?_
      simpa [SlotRun.move, own] using absent
  accounted opened other at_t := by
    rcases Pool.of_set_eq_some at_t with ⟨own, rfl⟩ | ⟨_, old⟩
    · exact (newest opened own).1
    · exact inv.accounted opened other old
  captured opened other at_t := by
    rcases Pool.of_set_eq_some at_t with ⟨own, rfl⟩ | ⟨_, old⟩
    · exact (newest opened own).2
    · exact inv.captured opened other old

theorem cancel (inv : run.StrictInv) (control : Option ExecutionId) :
    (run.cancel control).StrictInv :=
  ⟨inv.bounded, inv.strict, inv.revised, inv.single, inv.unclaimed, inv.accounted, inv.captured⟩

/-- A move that accounts for the live execution as before and awaits nothing. -/
theorem move_same (inv : run.StrictInv)
    (found : run.supervisors transaction = some supervisor)
    (policy : supervisor'.policy = supervisor.policy)
    (revision : supervisor'.revision = supervisor.revision)
    (accounts : supervisor'.phase.accounts run.slot.current =
      supervisor.phase.accounts run.slot.current)
    (captures : supervisor.Captures run.slot.current → supervisor'.Captures run.slot.current) :
    (run.move transaction supervisor').StrictInv := by
  refine inv.move found policy revision fun opened own => ⟨fun executionId member => ?_, ?_⟩
  · rw [accounts]
    exact inv.accounted opened supervisor (own ▸ found) executionId member
  · exact captures (inv.captured opened supervisor (own ▸ found))

/-- A transaction is accepted: what is alive is `current`, and that is what it captures. -/
theorem accept (inv : run.StrictInv) {revision : Nat} {specId : TaskSpecId}
    (opened : run.slot.closed = false)
    (published : ∀ executionId ∈ run.unpublished, executionId ∉ run.live) :
    ({ run with slot := { run.slot with
        transaction := run.slot.transaction + 1, revision := some revision,
        specId := some specId } }.move (run.slot.transaction + 1)
      (.spawn revision specId .strictSingleInstance run.slot.current)).StrictInv where
  bounded t supervisor at_t := by
    rcases Pool.of_set_eq_some at_t with ⟨rfl, _⟩ | ⟨_, old⟩
    · exact le_refl _
    · exact (inv.bounded _ _ old).trans (Nat.le_succ _)
  strict t supervisor at_t := by
    rcases Pool.of_set_eq_some at_t with ⟨_, rfl⟩ | ⟨_, old⟩
    · rfl
    · exact inv.strict _ _ old
  revised _ supervisor at_t := by
    rcases Pool.of_set_eq_some at_t with ⟨_, rfl⟩ | ⟨other, _⟩
    · rfl
    · exact (other rfl).elim
  single := inv.single
  unclaimed _ absent := by simp [SlotRun.move] at absent
  accounted _ supervisor at_t := by
    rcases Pool.of_set_eq_some at_t with ⟨_, rfl⟩ | ⟨other, _⟩
    · exact inv.current_of_live opened published
    · exact (other rfl).elim
  captured _ supervisor at_t := by
    rcases Pool.of_set_eq_some at_t with ⟨_, rfl⟩ | ⟨other, _⟩
    · rfl
    · exact (other rfl).elim

/-- An execution terminates. -/
theorem finish (inv : run.StrictInv) (executionId : ExecutionId) :
    { run with live := run.live.erase executionId : SlotRun }.StrictInv where
  bounded := inv.bounded
  strict := inv.strict
  revised := inv.revised
  single := (Finset.card_erase_le).trans inv.single
  unclaimed opened absent other member :=
    inv.unclaimed opened absent other (Finset.mem_of_mem_erase member)
  accounted opened supervisor found other member :=
    inv.accounted opened supervisor found other (Finset.mem_of_mem_erase member)
  captured := inv.captured

/-- A newest supervisor of an open slot is not superseded. -/
theorem not_superseded (inv : run.StrictInv)
    (found : run.supervisors transaction = some supervisor)
    (superseded : run.slot.superseded transaction supervisor.revision = true) :
    run.slot.closed = false → run.slot.transaction ≠ transaction := by
  intro opened own
  have passes : run.slot.superseded transaction supervisor.revision = false :=
    SlotState.superseded_eq_false.2 ⟨opened, own, inv.revised opened supervisor (own ▸ found)⟩
  rw [superseded] at passes
  cases passes

/-- The slot closes: no supervisor is the newest of an open slot any more. -/
theorem close (inv : run.StrictInv) (logged : List String) :
    { run with slot := run.slot.close.1, logged : SlotRun }.StrictInv := by
  obtain ⟨closed, _, _, revision, raised, _⟩ := run.slot.close_fields
  have never : ∀ {P : Prop}, run.slot.close.1.closed = false → P := by
    intro P opened
    rw [closed] at opened
    cases opened
  exact {
    bounded := fun t supervisor found => (inv.bounded t supervisor found).trans raised
    strict := inv.strict
    revised := never
    single := inv.single
    unclaimed := never
    accounted := never
    captured := never }

/-- An execution is admitted when nothing is alive and the newest supervisor accounts
for it. -/
theorem issue (inv : run.StrictInv) {executionId : ExecutionId} (empty : run.live = ∅)
    (found : run.supervisors run.slot.transaction = some supervisor)
    (phase : supervisor.phase = .admitted executionId) :
    (run.issue executionId).StrictInv := by
  have only : (run.issue executionId).live = {executionId} := by
    simp [SlotRun.issue, empty]
  refine ⟨inv.bounded, inv.strict, inv.revised, ?_, ?_, ?_, inv.captured⟩
  · rw [only, Finset.card_singleton]
  · intro _ absent
    exact absurd (found.symm.trans absent) (by simp)
  · intro _ other at_t alive member
    obtain rfl : supervisor = other := Option.some.inj (found.symm.trans at_t)
    rw [only, Finset.mem_singleton] at member
    rw [phase, member]
    rfl

/-- The newest supervisor publishes the execution it accounts for. -/
theorem publish (inv : run.StrictInv) {executionId : ExecutionId}
    (found : run.supervisors run.slot.transaction = some supervisor)
    (phase : supervisor.phase = .admitted executionId) :
    { run with slot := run.slot.publish executionId : SlotRun }.StrictInv := by
  refine ⟨inv.bounded, inv.strict, inv.revised, inv.single, ?_, ?_, ?_⟩
  · intro _ absent
    exact absurd (found.symm.trans absent) (by simp)
  · intro opened other at_t alive member
    obtain rfl : supervisor = other := Option.some.inj (found.symm.trans at_t)
    have counted := inv.accounted opened supervisor found alive member
    rw [phase] at counted ⊢
    exact counted
  · intro _ other at_t
    obtain rfl : supervisor = other := Option.some.inj (found.symm.trans at_t)
    simp [Supervisor.Captures, phase]

/-- The monitor of a terminal execution clears it. -/
theorem clear (inv : run.StrictInv) {executionId : ExecutionId}
    (found : run.supervisors transaction = some supervisor)
    (phase : supervisor.phase = .monitoring executionId) (terminal : executionId ∉ run.live) :
    ({ run with slot := run.slot.clear transaction executionId }.move transaction
      (supervisor.moveTo .ended)).StrictInv := by
  have accounts : supervisor.phase.accounts run.slot.current = run.slot.current := by
    rw [phase]
    rfl
  rcases run.slot.clear_cases transaction executionId with ⟨own, current, eq⟩ | eq
  · rw [eq]
    have dead : run.slot.closed = false → run.live = ∅ := by
      intro opened
      refine Finset.eq_empty_of_forall_notMem fun other member => terminal ?_
      have counted := inv.accounted opened supervisor (own ▸ found) other member
      rw [accounts, current, Option.some.injEq] at counted
      exact counted ▸ member
    have cleared : { run with slot := { run.slot with current := none } : SlotRun }.StrictInv := by
      refine ⟨inv.bounded, inv.strict, inv.revised, inv.single, ?_, ?_, ?_⟩
      · intro opened _ other member
        simp [dead opened] at member
      · intro opened _ _ other member
        simp [dead opened] at member
      · intro _ other at_t
        obtain rfl : supervisor = other := Option.some.inj (found.symm.trans (own ▸ at_t))
        simp [Supervisor.Captures, phase]
    exact cleared.move_same found rfl rfl
      (by simp [phase, Supervisor.moveTo, SupervisorPhase.accounts])
      fun _ => trivial
  · rw [eq]
    exact inv.move_same found rfl rfl accounts.symm fun _ => trivial

/-- **Step lemma.** -/
theorem step (inv : run.StrictInv) (captured : run.Captured action)
    (moved : Moved run action run') : run'.StrictInv := by
  cases moved with
  | refused => exact inv
  | accepted accepts =>
    obtain ⟨rfl, published⟩ := captured
    refine inv.accept accepts.opened (published accepts.opened ?_ accepts.newer)
    intro current member joins
    have apart := accepts.apart
    rw [SlotState.joined, Option.mem_def.1 member] at apart
    simp [wouldJoin, joins] at apart
  | @awaiting transaction supervisor previous found phase awaited =>
    have strict := inv.strict _ _ found
    have held : supervisor.previous = some previous := by
      simpa [Supervisor.awaited, strict] using awaited
    refine (inv.cancel (some previous)).move_same found rfl rfl (by rw [phase]; rfl) ?_
    intro captures
    simp only [Supervisor.Captures, phase] at captures
    exact captures.symm.trans held
  | @ready transaction supervisor found phase awaited =>
    have strict := inv.strict _ _ found
    refine inv.move found rfl rfl fun opened own => ⟨fun executionId member => ?_, trivial⟩
    have captures := inv.captured opened supervisor (own ▸ found)
    have counted := inv.accounted opened supervisor (own ▸ found) executionId member
    simp only [Supervisor.Captures, phase] at captures
    simp only [Supervisor.awaited, strict, captures] at awaited
    simp [phase, SupervisorPhase.accounts, awaited] at counted
  | @waited transaction supervisor previous found phase terminal =>
    refine inv.move found rfl rfl fun opened own => ⟨fun executionId member => ?_, trivial⟩
    have captures := inv.captured opened supervisor (own ▸ found)
    have counted := inv.accounted opened supervisor (own ▸ found) executionId member
    simp only [Supervisor.Captures, phase] at captures
    simp only [phase, SupervisorPhase.accounts, captures, Option.some.injEq] at counted
    exact (terminal (counted ▸ member)).elim
  | overtaken found phase superseded =>
    exact inv.move found rfl rfl fun opened own =>
      (inv.not_superseded found superseded opened own).elim
  | @admitted transaction supervisor executionId found phase newest fresh =>
    obtain ⟨opened, rfl, _⟩ := SlotState.superseded_eq_false.1 newest
    have empty : run.live = ∅ := by
      refine Finset.eq_empty_of_forall_notMem fun other member => ?_
      have counted := inv.accounted opened supervisor found other member
      simp [phase, SupervisorPhase.accounts] at counted
    let admitted : Supervisor :=
      { supervisor with phase := .admitted executionId, admission := some executionId }
    have moved : (run.move run.slot.transaction admitted).StrictInv :=
      inv.move found rfl rfl fun _ _ => ⟨by simp [empty], trivial⟩
    exact moved.issue empty Pool.set_self rfl
  | full found phase _ =>
    exact inv.move_same found rfl rfl (by rw [phase]; rfl) fun _ => trivial
  | failed found phase _ _ =>
    refine inv.move found rfl rfl fun opened own => ⟨fun executionId member => ?_, trivial⟩
    have counted := inv.accounted opened _ (own ▸ found) executionId member
    simp [phase, SupervisorPhase.accounts] at counted
  | woken found phase =>
    exact inv.move_same found rfl rfl (by rw [phase]; rfl) fun _ => trivial
  | withdrawn found phase superseded =>
    exact (inv.cancel _).move found rfl rfl fun opened own =>
      (inv.not_superseded found superseded opened own).elim
  | published found phase newest =>
    obtain ⟨_, rfl, _⟩ := SlotState.superseded_eq_false.1 newest
    refine (inv.publish found phase).move_same found rfl rfl ?_ fun _ => trivial
    rw [phase]
    rfl
  | delivered found phase =>
    exact (inv.cancel _).move_same found rfl rfl (by rw [phase]; rfl) fun _ => trivial
  | cleared found phase terminal => exact inv.clear found phase terminal
  | @lost transaction supervisor found suspended =>
    refine inv.move found rfl rfl fun opened own => ⟨fun executionId member => ?_, trivial⟩
    have counted := inv.accounted opened supervisor (own ▸ found) executionId member
    cases phase : supervisor.phase <;> rw [phase] at suspended counted
    case spawned | waiting | monitoring => exact counted
    case parked => cases counted
    all_goals cases suspended
  | finished _ => exact inv.finish _
  | cancelled => exact inv.cancel _
  | closed => exact (inv.close _).cancel _

end StrictInv

end SlotRun

/-- **A strict slot keeps at most one execution alive**, in every run whose accepted
replacements find no live execution admitted and unpublished. -/
theorem strict_single {run : SlotRun}
    (reached : slotSystem.Reaches SlotRun.Captured slotSystem.init run) :
    run.live.card ≤ 1 := by
  have inv : run.StrictInv := by
    refine reached.invariant SlotRun.StrictInv.new ?_
    intro before after action inv captured step
    exact inv.step captured (SlotRun.Moved.of_step step)
  exact inv.single

/-- The second revision is accepted after the first is published, and awaits it. -/
def succession : List SlotAction :=
  [.replace [] 1 7 .strictSingleInstance, .start 1, .attempt 1 (.ok 10), .publish 1, .deliver 1,
    .replace [] 2 8 .strictSingleInstance, .start 2, .finish 10, .waited 2,
    .attempt 2 (.ok 11), .publish 2, .deliver 2, .clear 1]

/-- The second revision is accepted between the admission and the publication of the
first: it captures no predecessor, and is admitted beside it. -/
def overlap : List SlotAction :=
  [.replace [] 1 7 .strictSingleInstance, .start 1, .attempt 1 (.ok 10),
    .replace [] 2 8 .strictSingleInstance, .start 2, .attempt 2 (.ok 11)]

theorem strict_single_succession :
    ∃ run, slotSystem.exec slotSystem.init succession = some run ∧ run.live = {11} ∧
      run.live.card ≤ 1 := by
  have ends : (slotSystem.exec slotSystem.init succession).map SlotRun.live = some {11} := rfl
  obtain ⟨run, exec, live⟩ := Option.map_eq_some_iff.1 ends
  have reached : slotSystem.Reaches SlotRun.Captured slotSystem.init run :=
    System.Reaches.of_exec exec (by decide)
  exact ⟨run, exec, live, strict_single reached⟩

/-- Two executions of a slot that is only replaced strictly are alive at once. -/
theorem strict_overlaps :
    ∃ run, slotSystem.Reaches SlotRun.OnlyStrict slotSystem.init run ∧ run.live.card = 2 := by
  have ends : (slotSystem.exec slotSystem.init overlap).map SlotRun.live = some {11, 10} := rfl
  obtain ⟨run, exec, live⟩ := Option.map_eq_some_iff.1 ends
  have reached : slotSystem.Reaches SlotRun.OnlyStrict slotSystem.init run := by
    exact System.Reaches.of_exec exec (by decide)
  exact ⟨run, reached, by rw [live]; rfl⟩

end BusyBeaver
