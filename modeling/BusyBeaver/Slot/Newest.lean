import BusyBeaver.Slot.Run

/-!
# Newest wins, and nobody is left behind

Every execution a slot admitted is in somebody's custody until it is terminal or told to
cancel: the slot's, as `current`; or a supervisor's, which is going to publish it or to
cancel it.  The custody passes from the slot to the newest supervisor because that one
captured `current` when it was accepted and nobody else may set it afterwards.
-/

namespace BusyBeaver

open Transition

/-- `run_replace` has returned, or its task was dropped. -/
def SupervisorPhase.finished : SupervisorPhase → Bool
  | .monitoring _ | .ended => true
  | _ => false

/-- The publication may still come. -/
def SupervisorPhase.unsettled : SupervisorPhase → Bool
  | .spawned | .waiting _ | .trying | .parked | .admitted _ => true
  | _ => false

/-- The execution that `run_replace` is still going to publish or to cancel. -/
def Supervisor.Holds (supervisor : Supervisor) (executionId : ExecutionId) : Prop :=
  match supervisor.phase with
  | .admitted admitted => executionId = admitted
  | .published _ => supervisor.retired = some executionId
  | _ => False

/-- A supervisor that has not published awaits what is current, and once it runs it has
told it to cancel. -/
structure Supervisor.Succeeds (supervisor : Supervisor) (current : Option ExecutionId)
    (cancelled : Finset ExecutionId) : Prop where
  previous : supervisor.previous = current
  told : supervisor.phase = .spawned ∨ ∀ control ∈ supervisor.awaited, control ∈ cancelled

namespace SlotRun

/-- The execution is terminal, or its control was told to cancel: a request that finds it
not terminal is accepted, unless an earlier one was. -/
def Retired (run : SlotRun) (executionId : ExecutionId) : Prop :=
  executionId ∉ run.live ∨ executionId ∈ run.cancelled

def Held (run : SlotRun) (executionId : ExecutionId) : Prop :=
  ∃ t supervisor, run.supervisors t = some supervisor ∧ supervisor.Holds executionId

/-- Every `run_replace` of the slot has returned. -/
def Finished (run : SlotRun) : Prop :=
  ∀ t supervisor, run.supervisors t = some supervisor → supervisor.phase.finished = true

/-- No supervisor that has finished holds an execution. -/
theorem Finished.not_held {run : SlotRun} (finished : run.Finished) {executionId : ExecutionId} :
    ¬ run.Held executionId := by
  intro ⟨t, supervisor, found, holds⟩
  have returned := finished t supervisor found
  unfold Supervisor.Holds at holds
  cases phase : supervisor.phase <;> rw [phase] at returned holds
  case admitted | published => cases returned
  all_goals exact holds

/-! ## The invariant -/

structure Custody (run : SlotRun) : Prop where
  bounded : ∀ t supervisor, run.supervisors t = some supervisor → t ≤ run.slot.transaction
  accepted : ∀ t supervisor, run.supervisors t = some supervisor →
    ∃ revision, run.slot.revision = some revision ∧ supervisor.revision ≤ revision
  ordered : ∀ t t' supervisor supervisor', run.supervisors t = some supervisor →
    run.supervisors t' = some supervisor' → t < t' → supervisor.revision < supervisor'.revision
  closed : run.slot.closed = true → run.slot.current = none
  succeeds : run.slot.closed = false → ∀ supervisor,
    run.supervisors run.slot.transaction = some supervisor →
    supervisor.phase.unsettled = true → supervisor.Succeeds run.slot.current run.cancelled
  kept : ∀ executionId ∈ run.issued,
    run.slot.current = some executionId ∨ run.Retired executionId ∨ run.Held executionId

namespace Custody

variable {run run' : SlotRun} {action : SlotAction} {transaction : Nat}
variable {supervisor supervisor' : Supervisor} {executionId : ExecutionId}

theorem new : SlotRun.new.Custody where
  bounded := by intro t supervisor absurd; cases absurd
  accepted := by intro t supervisor absurd; cases absurd
  ordered := by intro t t' supervisor supervisor' absurd; cases absurd
  closed := by intro absurd; cases absurd
  succeeds := by intro _ supervisor absurd; cases absurd
  kept := by intro executionId absurd; cases absurd

/-- A supervisor that moves may let go of what is retired or current. -/
theorem held_move (found : run.supervisors transaction = some supervisor)
    (holds : supervisor.Holds executionId → supervisor'.Holds executionId ∨
      run.slot.current = some executionId ∨ run.Retired executionId)
    (held : run.Held executionId) :
    (run.move transaction supervisor').Held executionId ∨
      run.slot.current = some executionId ∨ run.Retired executionId := by
  obtain ⟨t, other, at_t, holder⟩ := held
  by_cases own : t = transaction
  · subst own
    obtain rfl : supervisor = other := Option.some.inj (found.symm.trans at_t)
    rcases holds holder with still | gone
    · exact .inl ⟨t, supervisor', Pool.set_self, still⟩
    · exact .inr gone
  · exact .inl ⟨t, other, (Pool.set_of_ne own).trans at_t, holder⟩

theorem move (custody : run.Custody) (found : run.supervisors transaction = some supervisor)
    (revision : supervisor'.revision = supervisor.revision)
    (succeeds : run.slot.closed = false → run.slot.transaction = transaction →
      supervisor'.phase.unsettled = true →
      supervisor'.Succeeds run.slot.current run.cancelled)
    (holds : ∀ executionId, supervisor.Holds executionId → supervisor'.Holds executionId ∨
      run.slot.current = some executionId ∨ run.Retired executionId) :
    (run.move transaction supervisor').Custody := by
  have back : ∀ {t : Nat} {other : Supervisor},
      (run.move transaction supervisor').supervisors t = some other →
      ∃ old, run.supervisors t = some old ∧ other.revision = old.revision := by
    intro t other at_t
    rcases Pool.of_set_eq_some at_t with ⟨rfl, rfl⟩ | ⟨_, old⟩
    · exact ⟨supervisor, found, revision⟩
    · exact ⟨other, old, rfl⟩
  constructor
  · intro t other at_t
    obtain ⟨old, at_t, _⟩ := back at_t
    exact custody.bounded t old at_t
  · intro t other at_t
    obtain ⟨old, at_t, same⟩ := back at_t
    rw [same]
    exact custody.accepted t old at_t
  · intro t t' other other' at_t at_t' before
    obtain ⟨old, at_t, same⟩ := back at_t
    obtain ⟨old', at_t', same'⟩ := back at_t'
    rw [same, same']
    exact custody.ordered t t' old old' at_t at_t' before
  · exact custody.closed
  · intro opened other at_t unsettled
    rcases Pool.of_set_eq_some at_t with ⟨own, rfl⟩ | ⟨_, old⟩
    · exact succeeds opened own unsettled
    · exact custody.succeeds opened other old unsettled
  · intro other member
    rcases custody.kept other member with current | retired | held
    · exact .inl current
    · exact .inr (.inl retired)
    · rcases held_move found (holds other) held with still | current | retired
      · exact .inr (.inr still)
      · exact .inl current
      · exact .inr (.inl retired)

/-- A supervisor that holds nothing ends, or parks, or goes on. -/
theorem move_empty (custody : run.Custody)
    (found : run.supervisors transaction = some supervisor)
    (revision : supervisor'.revision = supervisor.revision)
    (empty : ∀ executionId, ¬ supervisor.Holds executionId)
    (succeeds : run.slot.closed = false → run.slot.transaction = transaction →
      supervisor'.phase.unsettled = true →
      supervisor'.Succeeds run.slot.current run.cancelled) :
    (run.move transaction supervisor').Custody :=
  custody.move found revision succeeds fun executionId holds => (empty executionId holds).elim

/-- What a running supervisor promises does not depend on where it stands. -/
theorem succeeds_move (custody : run.Custody)
    (found : run.supervisors transaction = some supervisor) {phase : SupervisorPhase}
    (unsettled : supervisor.phase.unsettled = true) (running : supervisor.phase ≠ .spawned)
    (opened : run.slot.closed = false) (newest : run.slot.transaction = transaction) :
    (supervisor.moveTo phase).Succeeds run.slot.current run.cancelled := by
  have before := custody.succeeds opened supervisor (newest ▸ found) unsettled
  exact ⟨before.previous, .inr (before.told.resolve_left running)⟩

theorem cancel (custody : run.Custody) (control : Option ExecutionId) :
    (run.cancel control).Custody where
  bounded := custody.bounded
  accepted := custody.accepted
  ordered := custody.ordered
  closed := custody.closed
  succeeds opened supervisor found unsettled := by
    have before := custody.succeeds opened supervisor found unsettled
    refine ⟨before.previous, before.told.imp_right fun told other member => ?_⟩
    exact Finset.mem_union_left _ (told other member)
  kept executionId member := by
    rcases custody.kept executionId member with current | (terminal | told) | held
    · exact .inl current
    · exact .inr (.inl (.inl terminal))
    · exact .inr (.inl (.inr (Finset.mem_union_left _ told)))
    · exact .inr (.inr held)

theorem retired_cancel (run : SlotRun) (executionId : ExecutionId) :
    (run.cancel (some executionId)).Retired executionId :=
  .inr (Finset.mem_union_right _ (by simp))

/-- A transaction is accepted: it captures what is current. -/
theorem accept (custody : run.Custody) {revision : Nat} {specId : TaskSpecId}
    {policy : ReplacePolicy} (newer : ∀ current ∈ run.slot.revision, current < revision) :
    ({ run with slot := { run.slot with
        transaction := run.slot.transaction + 1, revision := some revision,
        specId := some specId } }.move (run.slot.transaction + 1)
      (.spawn revision specId policy run.slot.current)).Custody := by
  have below : ∀ {t : Nat} {old : Supervisor}, run.supervisors t = some old →
      old.revision < revision := by
    intro t old at_t
    obtain ⟨current, set, le⟩ := custody.accepted t old at_t
    exact le.trans_lt (newer current set)
  constructor
  · intro t other at_t
    rcases Pool.of_set_eq_some at_t with ⟨rfl, _⟩ | ⟨_, old⟩
    · exact le_refl _
    · exact (custody.bounded t other old).trans (Nat.le_succ _)
  · intro t other at_t
    rcases Pool.of_set_eq_some at_t with ⟨_, rfl⟩ | ⟨_, old⟩
    · exact ⟨revision, rfl, le_refl _⟩
    · exact ⟨revision, rfl, (below old).le⟩
  · intro t t' other other' at_t at_t' before
    rcases Pool.of_set_eq_some at_t with ⟨rfl, rfl⟩ | ⟨_, old⟩ <;>
      rcases Pool.of_set_eq_some at_t' with ⟨rfl, rfl⟩ | ⟨_, old'⟩
    · omega
    · have := custody.bounded t' other' old'
      omega
    · exact below old
    · exact custody.ordered t t' other other' old old' before
  · intro absurd
    exact custody.closed absurd
  · intro _ other at_t _
    rcases Pool.of_set_eq_some at_t with ⟨_, rfl⟩ | ⟨other, _⟩
    · exact ⟨rfl, .inl rfl⟩
    · exact (other rfl).elim
  · intro other member
    rcases custody.kept other member with current | retired | ⟨t, holder, at_t, holds⟩
    · exact .inl current
    · exact .inr (.inl retired)
    · have earlier : t ≠ run.slot.transaction + 1 := by
        have := custody.bounded t holder at_t
        omega
      exact .inr (.inr ⟨t, holder, (Pool.set_of_ne earlier).trans at_t, holds⟩)

/-- An execution is issued into the hands of a supervisor. -/
theorem issue (custody : run.Custody) (held : run.Held executionId) :
    (run.issue executionId).Custody where
  bounded := custody.bounded
  accepted := custody.accepted
  ordered := custody.ordered
  closed := custody.closed
  succeeds := custody.succeeds
  kept other member := by
    rcases Finset.mem_insert.1 member with rfl | earlier
    · exact .inr (.inr held)
    by_cases own : other = executionId
    · exact .inr (.inr (own ▸ held))
    rcases custody.kept other earlier with current | (terminal | told) | held
    · exact .inl current
    · exact .inr (.inl (.inl fun member => terminal (Finset.mem_of_mem_insert_of_ne member own)))
    · exact .inr (.inl (.inr told))
    · exact .inr (.inr held)

theorem finish (custody : run.Custody) (executionId : ExecutionId) :
    { run with live := run.live.erase executionId : SlotRun }.Custody where
  bounded := custody.bounded
  accepted := custody.accepted
  ordered := custody.ordered
  closed := custody.closed
  succeeds := custody.succeeds
  kept other member := by
    rcases custody.kept other member with current | (terminal | told) | held
    · exact .inl current
    · exact .inr (.inl (.inl fun member => terminal (Finset.mem_of_mem_erase member)))
    · exact .inr (.inl (.inr told))
    · exact .inr (.inr held)

/-- The newest supervisor publishes: what was current is retired, or it will retire it. -/
theorem publish (custody : run.Custody)
    (found : run.supervisors transaction = some supervisor)
    (phase : supervisor.phase = .admitted executionId)
    (newest : run.slot.superseded transaction supervisor.revision = false) :
    ({ run with slot := run.slot.publish executionId }.move transaction
      { supervisor with phase := .published executionId, announced := true }).Custody := by
  obtain ⟨opened, own, _⟩ := SlotState.superseded_eq_false.1 newest
  subst own
  let after : Supervisor := { supervisor with phase := .published executionId, announced := true }
  have succeeds := custody.succeeds opened supervisor found (by rw [phase]; rfl)
  have told := succeeds.told.resolve_left (by rw [phase]; simp)
  have predecessor : ∀ control, run.slot.current = some control →
      after.retired = some control ∨ control ∈ run.cancelled := by
    intro control current
    have previous : supervisor.previous = some control := succeeds.previous.trans current
    cases policy : supervisor.policy with
    | strictSingleInstance =>
      refine .inr (told control ?_)
      simp [Supervisor.awaited, policy, previous]
    | availabilityFirst =>
      refine .inl ?_
      simp [after, Supervisor.retired, policy, previous]
  have back : ∀ {t : Nat} {other : Supervisor},
      (run.move run.slot.transaction after).supervisors t = some other →
      ∃ old, run.supervisors t = some old ∧ other.revision = old.revision := by
    intro t other at_t
    rcases Pool.of_set_eq_some at_t with ⟨rfl, rfl⟩ | ⟨_, old⟩
    · exact ⟨supervisor, found, rfl⟩
    · exact ⟨other, old, rfl⟩
  constructor
  · intro t other at_t
    obtain ⟨old, at_t, _⟩ := back at_t
    exact custody.bounded t old at_t
  · intro t other at_t
    obtain ⟨old, at_t, same⟩ := back at_t
    rw [same]
    exact custody.accepted t old at_t
  · intro t t' other other' at_t at_t' before
    obtain ⟨old, at_t, same⟩ := back at_t
    obtain ⟨old', at_t', same'⟩ := back at_t'
    rw [same, same']
    exact custody.ordered t t' old old' at_t at_t' before
  · intro shut
    exact absurd (opened.symm.trans shut) (by simp)
  · intro _ other at_t unsettled
    rcases Pool.of_set_eq_some at_t with ⟨_, rfl⟩ | ⟨other, _⟩
    · cases unsettled
    · exact (other rfl).elim
  · intro other member
    rcases custody.kept other member with current | retired | ⟨t, holder, at_t, holds⟩
    · rcases predecessor other current with held | told
      · exact .inr (.inr ⟨run.slot.transaction, after, Pool.set_self, held⟩)
      · exact .inr (.inl (.inr told))
    · exact .inr (.inl retired)
    · by_cases here : t = run.slot.transaction
      · subst here
        obtain rfl : supervisor = holder := Option.some.inj (found.symm.trans at_t)
        simp only [Supervisor.Holds, phase] at holds
        exact .inl (congrArg some holds.symm)
      · exact .inr (.inr ⟨t, holder, (Pool.set_of_ne here).trans at_t, holds⟩)

/-- The monitor of a terminal execution takes it out of the slot. -/
theorem clear (custody : run.Custody)
    (found : run.supervisors transaction = some supervisor)
    (phase : supervisor.phase = .monitoring executionId) (terminal : executionId ∉ run.live) :
    { run with slot := run.slot.clear transaction executionId : SlotRun }.Custody := by
  rcases run.slot.clear_cases transaction executionId with ⟨own, current, eq⟩ | eq
  · rw [eq]
    refine ⟨custody.bounded, custody.accepted, custody.ordered, fun _ => rfl, ?_, ?_⟩
    · intro _ other at_t unsettled
      obtain rfl : supervisor = other := Option.some.inj (found.symm.trans (own ▸ at_t))
      rw [phase] at unsettled
      cases unsettled
    · intro other member
      rcases custody.kept other member with here | retired | held
      · obtain rfl : executionId = other := Option.some.inj (current.symm.trans here)
        exact .inr (.inl (.inl terminal))
      · exact .inr (.inl retired)
      · exact .inr (.inr held)
  · rw [eq]
    exact custody

/-- The slot closes and cancels what was current. -/
theorem close (custody : run.Custody) (logged : List String) :
    ({ run with slot := run.slot.close.1, logged }.cancel run.slot.close.2.1).Custody := by
  obtain ⟨shut, current, _, revision, raised, taken⟩ := run.slot.close_fields
  constructor
  · intro t supervisor found
    exact (custody.bounded t supervisor found).trans raised
  · intro t supervisor found
    obtain ⟨newest, set, le⟩ := custody.accepted t supervisor found
    exact ⟨newest, revision.trans set, le⟩
  · exact custody.ordered
  · intro _
    exact current
  · intro opened
    exact absurd (shut.symm.trans opened) (by simp)
  · intro other member
    rcases custody.kept other member with here | (terminal | told) | held
    · refine .inr (.inl (.inr (Finset.mem_union_right _ ?_)))
      rw [taken, Option.mem_toFinset]
      exact here
    · exact .inr (.inl (.inl terminal))
    · exact .inr (.inl (.inr (Finset.mem_union_left _ told)))
    · exact .inr (.inr held)

/-- **Step lemma.** -/
theorem step (custody : run.Custody) (moved : Moved run action run') : run'.Custody := by
  have empty : ∀ {supervisor : Supervisor} {phase : SupervisorPhase}, supervisor.phase = phase →
      phase.unpublished = none → (∀ executionId, phase ≠ .published executionId) →
      ∀ executionId, ¬ supervisor.Holds executionId := by
    intro supervisor phase at_ unpublished published executionId holds
    unfold Supervisor.Holds at holds
    rw [at_] at holds
    cases phase with
    | admitted => cases unpublished
    | published executionId => exact published executionId rfl
    | spawned | waiting | trying | parked | monitoring | ended => exact holds
  cases moved with
  | refused => exact custody
  | accepted accepts => exact custody.accept accepts.newer
  | @awaiting transaction supervisor previous found phase awaited =>
    refine (custody.cancel (some previous)).move_empty found rfl (empty phase rfl nofun) ?_
    intro opened newest _
    have before := custody.succeeds opened supervisor (newest ▸ found) (by rw [phase]; rfl)
    refine ⟨before.previous, .inr fun control member => ?_⟩
    obtain rfl : previous = control := Option.some.inj (awaited.symm.trans member)
    exact Finset.mem_union_right _ (by simp)
  | @ready transaction supervisor found phase awaited =>
    refine custody.move_empty found rfl (empty phase rfl nofun) ?_
    intro opened newest _
    have before := custody.succeeds opened supervisor (newest ▸ found) (by rw [phase]; rfl)
    refine ⟨before.previous, .inr fun control member => ?_⟩
    exact absurd (awaited.symm.trans member) (by simp)
  | waited found phase _ =>
    refine custody.move_empty found rfl (empty phase rfl nofun) fun opened newest _ => ?_
    exact custody.succeeds_move found (by rw [phase]; rfl) (by rw [phase]; simp) opened newest
  | overtaken found phase _ =>
    exact custody.move_empty found rfl (empty phase rfl nofun) fun _ _ absurd => by cases absurd
  | @admitted transaction supervisor executionId found phase newest fresh =>
    have moved : (run.move transaction
        { supervisor with
          phase := .admitted executionId, admission := some executionId }).Custody := by
      refine custody.move_empty found rfl (empty phase rfl nofun) fun opened newest _ => ?_
      have before : (supervisor.moveTo .trying).Succeeds run.slot.current run.cancelled :=
        custody.succeeds_move found (by rw [phase]; rfl) (by rw [phase]; simp) opened newest
      exact ⟨before.previous, .inr (before.told.resolve_left (by simp [Supervisor.moveTo]))⟩
    exact moved.issue ⟨transaction, _, Pool.set_self, rfl⟩
  | full found phase _ =>
    refine custody.move_empty found rfl (empty phase rfl nofun) fun opened newest _ => ?_
    exact custody.succeeds_move found (by rw [phase]; rfl) (by rw [phase]; simp) opened newest
  | failed found phase _ _ =>
    exact custody.move_empty found rfl (empty phase rfl nofun) fun _ _ absurd => by cases absurd
  | woken found phase =>
    refine custody.move_empty found rfl (empty phase rfl nofun) fun opened newest _ => ?_
    exact custody.succeeds_move found (by rw [phase]; rfl) (by rw [phase]; simp) opened newest
  | @withdrawn transaction supervisor executionId found phase _ =>
    refine (custody.cancel (some executionId)).move found rfl
      (fun _ _ absurd => by cases absurd) fun other holds => .inr (.inr ?_)
    simp only [Supervisor.Holds, phase] at holds
    exact holds ▸ retired_cancel run executionId
  | published found phase newest => exact custody.publish found phase newest
  | @delivered transaction supervisor executionId found phase =>
    refine (custody.cancel supervisor.retired).move found rfl
      (fun _ _ absurd => by cases absurd) fun other holds => .inr (.inr ?_)
    simp only [Supervisor.Holds, phase] at holds
    rw [holds]
    exact retired_cancel run other
  | cleared found phase terminal =>
    exact (custody.clear found phase terminal).move_empty found rfl (empty phase rfl nofun)
      fun _ _ absurd => by cases absurd
  | @lost transaction supervisor found suspended =>
    refine custody.move_empty found rfl ?_ fun _ _ absurd => by cases absurd
    intro executionId holds
    unfold Supervisor.Holds at holds
    cases phase : supervisor.phase <;> rw [phase] at suspended holds
    case admitted | published => cases suspended
    all_goals exact holds
  | finished _ => exact custody.finish _
  | cancelled => exact custody.cancel _
  | closed => exact custody.close _

theorem of_reaches {ok : SlotRun → SlotAction → Prop}
    (reached : slotSystem.Reaches ok slotSystem.init run) : run.Custody :=
  reached.invariant new fun custody _ step => custody.step (Moved.of_step step)

end Custody

variable {run run' : SlotRun} {action : SlotAction} {executionId : ExecutionId}

/-- Only a publication sets `current`, and only the newest supervisor publishes. -/
theorem Moved.current (moved : Moved run action run')
    (set : run'.slot.current = some executionId) :
    run.slot.current = some executionId ∨
      (action = .publish run.slot.transaction ∧
        ∃ supervisor, run.supervisors run.slot.transaction = some supervisor ∧
          supervisor.phase = .admitted executionId) := by
  cases moved with
  | published found phase newest =>
    obtain ⟨_, rfl, _⟩ := SlotState.superseded_eq_false.1 newest
    obtain rfl := Option.some.inj set
    exact .inr ⟨rfl, _, found, phase⟩
  | @cleared transaction _ cleared found phase terminal =>
    rcases run.slot.clear_cases transaction cleared with ⟨_, _, eq⟩ | eq
    · have gone : (run.slot.clear transaction cleared).current = none := by rw [eq]
      exact absurd (gone.symm.trans set) (by simp)
    · exact .inl ((congrArg SlotState.current eq).symm.trans set)
  | closed =>
    have gone := run.slot.close_fields.2.1
    exact absurd (gone.symm.trans set) (by simp)
  | _ => exact .inl set

/-- A closed slot stays closed. -/
theorem Moved.stays_closed (moved : Moved run action run') (shut : run.slot.closed = true) :
    run'.slot.closed = true := by
  cases moved with
  | accepted accepts => exact shut
  | @cleared transaction _ cleared found phase terminal =>
    rcases run.slot.clear_cases transaction cleared with ⟨_, _, eq⟩ | eq
    · exact (congrArg SlotState.closed eq).trans shut
    · exact (congrArg SlotState.closed eq).trans shut
  | closed => exact run.slot.close_fields.1
  | _ => exact shut

/-- What a slot promises of its replacements, in one state of a run. -/
structure NewestWins (run : SlotRun) : Prop where
  increasing : ∀ t t' supervisor supervisor', run.supervisors t = some supervisor →
    run.supervisors t' = some supervisor' → t < t' → supervisor.revision < supervisor'.revision
  set_by_newest : ∀ action run' executionId, slotSystem.step run action = some run' →
    run'.slot.current = some executionId →
    run.slot.current = some executionId ∨
      (action = .publish run.slot.transaction ∧
        ∃ supervisor, run.supervisors run.slot.transaction = some supervisor ∧
          supervisor.phase = .admitted executionId)
  no_orphans : run.Finished → ∀ executionId ∈ run.issued,
    run.slot.current = some executionId ∨ run.Retired executionId
  closed : run.slot.closed = true → ∀ later, slotSystem.Reaches (fun _ _ => True) run later →
    later.slot.current = none ∧
      (∀ executionId ∈ later.issued, later.Retired executionId ∨ later.Held executionId) ∧
      (later.Finished → ∀ executionId ∈ later.issued, later.Retired executionId)

end SlotRun

/-- **Newest wins without orphans**, in every run of a slot. -/
theorem newest_wins {run : SlotRun} (reached : slotSystem.Reachable run) : run.NewestWins := by
  have custody := SlotRun.Custody.of_reaches reached
  constructor
  case increasing => exact custody.ordered
  case set_by_newest =>
    intro action run' executionId step set
    exact (SlotRun.Moved.of_step step).current set
  case no_orphans =>
    intro finished executionId member
    rcases custody.kept executionId member with current | retired | held
    · exact .inl current
    · exact .inr retired
    · exact (finished.not_held held).elim
  case closed =>
    intro shut later since
    have after := SlotRun.Custody.of_reaches (reached.trans since)
    have still : later.slot.closed = true := by
      apply since.invariant shut
      intro _ _ _ before _ step
      exact (SlotRun.Moved.of_step step).stays_closed before
    have empty := after.closed still
    have covered : ∀ executionId ∈ later.issued,
        later.Retired executionId ∨ later.Held executionId := by
      intro executionId member
      rcases after.kept executionId member with current | retired | held
      · exact absurd (empty.symm.trans current) (by simp)
      · exact .inl retired
      · exact .inr held
    refine ⟨empty, covered, fun finished executionId member => ?_⟩
    rcases covered executionId member with retired | held
    · exact retired
    · exact (finished.not_held held).elim

/-- Two replacements overlap: the first admits before the second is accepted, and finds
itself superseded. -/
def handover : List SlotAction :=
  [.replace [] 1 7 .availabilityFirst, .start 1, .attempt 1 (.ok 10),
    .replace [] 2 8 .availabilityFirst, .start 2, .publish 1, .attempt 2 (.ok 11), .publish 2,
    .deliver 2]

theorem newest_wins_handover :
    ∃ run, slotSystem.exec slotSystem.init handover = some run ∧ run.slot.current = some 11 ∧
      run.issued = {11, 10} ∧ run.cancelled = {10} ∧ run.NewestWins := by
  have ends : (slotSystem.exec slotSystem.init handover).map (fun run =>
      (run.slot.current, run.issued, run.cancelled)) = some (some 11, {11, 10}, {10}) := by
    decide +kernel
  obtain ⟨run, exec, facts⟩ := Option.map_eq_some_iff.1 ends
  simp only [Prod.mk.injEq] at facts
  obtain ⟨current, issued, cancelled⟩ := facts
  exact ⟨run, exec, current, issued, cancelled,
    newest_wins (System.Reaches.of_schedule handover exec)⟩

end BusyBeaver
