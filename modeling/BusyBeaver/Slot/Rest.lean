import BusyBeaver.Slot.Newest

/-!
# The slot at rest

What `TaskSlot::snapshot` shows when every supervisor and every monitor has finished.  A
monitor clears `current` only while its own transaction is the newest, so an execution that
ends after a newer transaction was accepted stays recorded until that transaction publishes.
If it never does, the slot comes to rest with a terminal execution as its current one:
`snapshot_at_rest` says exactly when.
-/

namespace BusyBeaver

open Transition

/-- `TaskSlotSnapshot`. -/
structure SlotSnapshot : Type where
  revision : Option Nat
  currentExecution : Option ExecutionId
  transaction : Nat
  closed : Bool
  deriving DecidableEq, Repr

/-- `TaskSlot::snapshot`. -/
def SlotState.snapshot (state : SlotState) : SlotSnapshot where
  revision := state.revision
  currentExecution := state.current
  transaction := state.transaction
  closed := state.closed

/-- The execution a supervisor, or its monitor, keeps as the published one. -/
def SupervisorPhase.shown : SupervisorPhase → Option ExecutionId
  | .published executionId | .monitoring executionId => some executionId
  | _ => none

namespace SlotRun

/-- Every supervisor has returned, and so has the monitor it left. -/
def AtRest (run : SlotRun) : Prop :=
  ∀ t supervisor, run.supervisors t = some supervisor → supervisor.phase = .ended

/-- The snapshot names no terminal execution as the current one. -/
def Truthful (run : SlotRun) : Prop :=
  ∀ executionId, run.slot.snapshot.currentExecution = some executionId → executionId ∈ run.live

/-- The runtime drops no task of the slot. -/
def Undisturbed (_ : SlotRun) (action : SlotAction) : Prop := ∀ t, action ≠ .lose t

/-! ## Who accounts for `current` -/

structure Recorded (run : SlotRun) : Prop where
  live : run.live ⊆ run.issued
  issued : ∀ executionId, run.slot.current = some executionId → executionId ∈ run.issued
  held : ∀ t supervisor executionId, run.supervisors t = some supervisor →
    supervisor.phase.unpublished = some executionId → executionId ∈ run.issued
  /-- Only a publication is shown. -/
  late : ∀ t supervisor, run.supervisors t = some supervisor →
    supervisor.phase.shown.isSome = true → supervisor.announced = true
  early : ∀ t supervisor, run.supervisors t = some supervisor →
    supervisor.phase.unsettled = true → supervisor.announced = false
  origin : run.slot.closed = false → run.supervisors run.slot.transaction = none →
    run.slot.current = none
  /-- Until the newest transaction publishes, its predecessor stays. -/
  pending : run.slot.closed = false → ∀ supervisor,
    run.supervisors run.slot.transaction = some supervisor → supervisor.announced = false →
    supervisor.previous = run.slot.current
  /-- What the newest transaction has published is current as long as it is shown. -/
  newest : run.slot.closed = false → ∀ supervisor,
    run.supervisors run.slot.transaction = some supervisor → supervisor.announced = true →
    run.slot.current = supervisor.phase.shown
  /-- A current execution has its monitor, or is terminal. -/
  watched : ∀ executionId, run.slot.current = some executionId →
    executionId ∉ run.live ∨
      ∃ t supervisor, run.supervisors t = some supervisor ∧
        supervisor.phase.shown = some executionId

namespace Recorded

variable {run run' : SlotRun} {action : SlotAction} {transaction : Nat}
variable {supervisor supervisor' : Supervisor} {executionId : ExecutionId}

theorem new : SlotRun.new.Recorded where
  live := Finset.Subset.refl _
  issued _ absurd := by cases absurd
  held _ _ _ absurd := by cases absurd
  late _ _ absurd := by cases absurd
  early _ _ absurd := by cases absurd
  origin _ _ := rfl
  pending _ _ absurd := by cases absurd
  newest _ _ absurd := by cases absurd
  watched _ absurd := by cases absurd

/-- One supervisor moves, and `current` with it if its transaction is the newest. -/
theorem move (recorded : run.Recorded) (found : run.supervisors transaction = some supervisor)
    {slot : SlotState} (same : slot.transaction = run.slot.transaction)
    (closed : slot.closed = run.slot.closed)
    (issued : ∀ executionId, slot.current = some executionId → executionId ∈ run.issued)
    (held : ∀ executionId, supervisor'.phase.unpublished = some executionId →
      executionId ∈ run.issued)
    (late : supervisor'.phase.shown.isSome = true → supervisor'.announced = true)
    (early : supervisor'.phase.unsettled = true → supervisor'.announced = false)
    (others : run.slot.transaction ≠ transaction → slot.current = run.slot.current)
    (pending : run.slot.closed = false → run.slot.transaction = transaction →
      supervisor'.announced = false → supervisor'.previous = slot.current)
    (newest : run.slot.closed = false → run.slot.transaction = transaction →
      supervisor'.announced = true → slot.current = supervisor'.phase.shown)
    (watched : ∀ executionId, slot.current = some executionId → executionId ∉ run.live ∨
      supervisor'.phase.shown = some executionId ∨
      run.slot.current = some executionId ∧ supervisor.phase.shown ≠ some executionId) :
    ({ run with slot }.move transaction supervisor').Recorded := by
  constructor
  · exact recorded.live
  · exact issued
  · intro t other executionId at_t unpublished
    rcases Pool.of_set_eq_some at_t with ⟨-, rfl⟩ | ⟨-, old⟩
    · exact held executionId unpublished
    · exact recorded.held t other executionId old unpublished
  · intro t other at_t shown
    rcases Pool.of_set_eq_some at_t with ⟨-, rfl⟩ | ⟨-, old⟩
    · exact late shown
    · exact recorded.late t other old shown
  · intro t other at_t unsettled
    rcases Pool.of_set_eq_some at_t with ⟨-, rfl⟩ | ⟨-, old⟩
    · exact early unsettled
    · exact recorded.early t other old unsettled
  · intro opened absent
    by_cases own : slot.transaction = transaction
    · subst own
      exact absurd (Pool.set_self.symm.trans absent) (by simp)
    · have old := (Pool.set_of_ne own).symm.trans absent
      rw [same] at own old
      exact (others own).trans (recorded.origin (closed ▸ opened) old)
  · intro opened other at_t unannounced
    rcases Pool.of_set_eq_some at_t with ⟨own, rfl⟩ | ⟨own, old⟩
    · exact pending (closed ▸ opened) (same ▸ own) unannounced
    · have apart : run.slot.transaction ≠ transaction := fun eq => own (same.trans eq)
      have before : run.supervisors run.slot.transaction = some other := same ▸ old
      exact (recorded.pending (closed ▸ opened) other before unannounced).trans (others apart).symm
  · intro opened other at_t announced
    rcases Pool.of_set_eq_some at_t with ⟨own, rfl⟩ | ⟨own, old⟩
    · exact newest (closed ▸ opened) (same ▸ own) announced
    · have apart : run.slot.transaction ≠ transaction := fun eq => own (same.trans eq)
      have before : run.supervisors run.slot.transaction = some other := same ▸ old
      exact (others apart).trans (recorded.newest (closed ▸ opened) other before announced)
  · intro executionId current
    rcases watched executionId current with terminal | shown | ⟨earlier, apart⟩
    · exact .inl terminal
    · exact .inr ⟨transaction, supervisor', Pool.set_self, shown⟩
    · refine (recorded.watched executionId earlier).imp_right fun ⟨t, holder, at_t, shown⟩ => ?_
      have other : t ≠ transaction := by
        rintro rfl
        obtain rfl : supervisor = holder := Option.some.inj (found.symm.trans at_t)
        exact apart shown
      exact ⟨t, holder, (Pool.set_of_ne other).trans at_t, shown⟩

/-- A supervisor goes on, or ends, without having published. -/
theorem move_early (recorded : run.Recorded)
    (found : run.supervisors transaction = some supervisor)
    (unsettled : supervisor.phase.unsettled = true)
    (announced : supervisor'.announced = supervisor.announced)
    (previous : supervisor'.previous = supervisor.previous)
    (hidden : supervisor'.phase.shown = none)
    (held : ∀ executionId, supervisor'.phase.unpublished = some executionId →
      executionId ∈ run.issued) : (run.move transaction supervisor').Recorded := by
  have before := announced.trans (recorded.early transaction supervisor found unsettled)
  have quiet : supervisor.phase.shown = none := by
    cases phase : supervisor.phase <;> rw [phase] at unsettled <;> first | rfl | cases unsettled
  refine recorded.move found rfl rfl recorded.issued held ?_ (fun _ => before) (fun _ => rfl)
    ?_ ?_ ?_
  · intro shown
    rw [hidden] at shown
    cases shown
  · intro opened own _
    rw [previous]
    exact recorded.pending opened supervisor (own ▸ found) (announced ▸ before)
  · intro _ _ after
    rw [before] at after
    cases after
  · intro executionId current
    refine .inr (.inr ⟨current, ?_⟩)
    rw [quiet]
    simp

theorem cancel (recorded : run.Recorded) (control : Option ExecutionId) :
    (run.cancel control).Recorded :=
  ⟨recorded.live, recorded.issued, recorded.held, recorded.late, recorded.early,
    recorded.origin, recorded.pending, recorded.newest, recorded.watched⟩

theorem issue (recorded : run.Recorded) (fresh : executionId ∉ run.issued) :
    (run.issue executionId).Recorded where
  live := Finset.insert_subset_insert _ recorded.live
  issued other current := Finset.mem_insert_of_mem (recorded.issued other current)
  held t supervisor other found unpublished :=
    Finset.mem_insert_of_mem (recorded.held t supervisor other found unpublished)
  late := recorded.late
  early := recorded.early
  origin := recorded.origin
  pending := recorded.pending
  newest := recorded.newest
  watched other current := by
    refine (recorded.watched other current).imp_left fun terminal live => ?_
    rcases Finset.mem_insert.1 live with rfl | earlier
    · exact fresh (recorded.issued other current)
    · exact terminal earlier

theorem finish (recorded : run.Recorded) (executionId : ExecutionId) :
    { run with live := run.live.erase executionId : SlotRun }.Recorded where
  live := (Finset.erase_subset _ _).trans recorded.live
  issued := recorded.issued
  held := recorded.held
  late := recorded.late
  early := recorded.early
  origin := recorded.origin
  pending := recorded.pending
  newest := recorded.newest
  watched other current :=
    (recorded.watched other current).imp_left fun terminal live =>
      terminal (Finset.mem_of_mem_erase live)

/-- The newest transaction publishes. -/
theorem publish (recorded : run.Recorded)
    (found : run.supervisors transaction = some supervisor)
    (phase : supervisor.phase = .admitted executionId)
    (superseded : run.slot.superseded transaction supervisor.revision = false) :
    ({ run with slot := run.slot.publish executionId }.move transaction
      { supervisor with phase := .published executionId, announced := true }).Recorded := by
  obtain ⟨-, own, -⟩ := SlotState.superseded_eq_false.1 superseded
  refine recorded.move found rfl rfl ?_ nofun (fun _ => rfl) nofun (fun apart => ?_) nofun
    (fun _ _ _ => rfl) fun other current => .inr (.inl current)
  · intro other current
    cases current
    exact recorded.held _ supervisor executionId found (by rw [phase]; rfl)
  · exact (apart own).elim

/-- `run_replace` returns and leaves its monitor. -/
theorem deliver (recorded : run.Recorded)
    (found : run.supervisors transaction = some supervisor)
    (phase : supervisor.phase = .published executionId) :
    (run.deliver transaction supervisor executionId).Recorded := by
  have shown : supervisor.phase.shown = some executionId := by rw [phase]; rfl
  have announced := recorded.late transaction supervisor found (by rw [shown]; rfl)
  refine (recorded.cancel supervisor.retired).move found rfl rfl recorded.issued nofun
    (fun _ => announced) nofun (fun _ => rfl) ?_ ?_ ?_
  · intro _ _ unannounced
    exact absurd (announced.symm.trans unannounced) (by simp)
  · intro opened own _
    exact (recorded.newest opened supervisor (own ▸ found) announced).trans shown
  · intro other current
    by_cases same : executionId = other
    · exact .inr (.inl (congrArg some same))
    · refine .inr (.inr ⟨current, ?_⟩)
      rw [shown]
      exact fun eq => same (Option.some.inj eq)

/-- The monitor of a terminal execution runs. -/
theorem clear (recorded : run.Recorded)
    (found : run.supervisors transaction = some supervisor)
    (phase : supervisor.phase = .monitoring executionId) (terminal : executionId ∉ run.live) :
    ({ run with slot := run.slot.clear transaction executionId }.move transaction
      (supervisor.moveTo .ended)).Recorded := by
  have shown : supervisor.phase.shown = some executionId := by rw [phase]; rfl
  have announced := recorded.late transaction supervisor found (by rw [shown]; rfl)
  rcases SlotState.clear_cases transaction executionId with ⟨own, current, eq⟩ | eq
  · rw [eq]
    refine recorded.move found rfl rfl nofun nofun nofun nofun ?_ ?_ (fun _ _ _ => rfl) nofun
    · exact fun apart => (apart own).elim
    · intro _ _ unannounced
      exact absurd (announced.symm.trans unannounced) (by simp)
  · rw [eq]
    refine recorded.move found rfl rfl recorded.issued nofun nofun nofun (fun _ => rfl) ?_ ?_ ?_
    · intro _ _ unannounced
      exact absurd (announced.symm.trans unannounced) (by simp)
    · intro opened own _
      -- the monitor of the newest transaction does clear what it finds
      have current := (recorded.newest opened supervisor (own ▸ found) announced).trans shown
      rw [SlotState.clear, if_pos ⟨own, current⟩] at eq
      exact (congrArg SlotState.current eq).symm
    · intro other current
      by_cases same : other = executionId
      · exact .inl (same ▸ terminal)
      · refine .inr (.inr ⟨current, ?_⟩)
        rw [shown]
        exact fun eq => same (Option.some.inj eq).symm

/-- A transaction is accepted: it captures what is current. -/
theorem accept (recorded : run.Recorded) (custody : run.Custody) {revision : Nat}
    {specId : TaskSpecId} {policy : ReplacePolicy} :
    ({ run with slot := { run.slot with
        transaction := run.slot.transaction + 1, revision := some revision,
        specId := some specId } }.move (run.slot.transaction + 1)
      (.spawn revision specId policy run.slot.current)).Recorded := by
  constructor
  · exact recorded.live
  · exact recorded.issued
  · intro t other executionId at_t unpublished
    rcases Pool.of_set_eq_some at_t with ⟨-, rfl⟩ | ⟨-, old⟩
    · cases unpublished
    · exact recorded.held t other executionId old unpublished
  · intro t other at_t shown
    rcases Pool.of_set_eq_some at_t with ⟨-, rfl⟩ | ⟨-, old⟩
    · cases shown
    · exact recorded.late t other old shown
  · intro t other at_t unsettled
    rcases Pool.of_set_eq_some at_t with ⟨-, rfl⟩ | ⟨-, old⟩
    · rfl
    · exact recorded.early t other old unsettled
  · intro _ absent
    exact absurd (Pool.set_self.symm.trans absent) (by simp)
  · intro _ other at_t _
    rcases Pool.of_set_eq_some at_t with ⟨-, rfl⟩ | ⟨apart, -⟩
    · rfl
    · exact (apart rfl).elim
  · intro _ other at_t announced
    rcases Pool.of_set_eq_some at_t with ⟨-, rfl⟩ | ⟨apart, -⟩
    · cases announced
    · exact (apart rfl).elim
  · intro executionId current
    refine (recorded.watched executionId current).imp_right fun ⟨t, holder, at_t, shown⟩ => ?_
    have earlier : t ≠ run.slot.transaction + 1 := by
      have := custody.bounded t holder at_t
      omega
    exact ⟨t, holder, (Pool.set_of_ne earlier).trans at_t, shown⟩

theorem close (recorded : run.Recorded) (codes : List String) :
    { run with slot := run.slot.close.1, logged := codes : SlotRun }.Recorded := by
  obtain ⟨closed, current, -⟩ := SlotState.close_fields run.slot
  have absurd : ∀ {p : Prop}, run.slot.close.1.closed = false → p := by
    intro p opened
    rw [closed] at opened
    cases opened
  have none_ : ∀ {p : Prop} {executionId : ExecutionId},
      run.slot.close.1.current = some executionId → p := by
    intro p executionId some_
    rw [current] at some_
    cases some_
  exact ⟨recorded.live, fun _ => none_, recorded.held, recorded.late, recorded.early, absurd,
    absurd, absurd, fun _ => none_⟩

theorem step (recorded : run.Recorded) (custody : run.Custody)
    (undisturbed : run.Undisturbed action)
    (step : run.step action = some run') : run'.Recorded := by
  cases Moved.of_step step with
  | refused => exact recorded
  | accepted => exact recorded.accept custody
  | @awaiting transaction supervisor previous found phase =>
    exact (recorded.cancel (some previous)).move_early found (by rw [phase]; rfl) rfl rfl rfl nofun
  | ready found phase | waited found phase | woken found phase | overtaken found phase
  | full found phase | failed found phase =>
    exact recorded.move_early found (by rw [phase]; rfl) rfl rfl rfl nofun
  | @admitted transaction supervisor executionId found phase _ fresh =>
    refine (recorded.issue fresh).move_early found (by rw [phase]; rfl) rfl rfl rfl ?_
    intro other unpublished
    cases unpublished
    exact Finset.mem_insert_self _ _
  | @withdrawn transaction supervisor executionId found phase =>
    exact (recorded.cancel (some executionId)).move_early found (by rw [phase]; rfl) rfl rfl rfl
      nofun
  | published found phase newest => exact recorded.publish found phase newest
  | delivered found phase => exact recorded.deliver found phase
  | cleared found phase terminal => exact recorded.clear found phase terminal
  | lost => exact (undisturbed _ rfl).elim
  | finished => exact recorded.finish _
  | cancelled => exact recorded.cancel _
  | closed => exact (recorded.close _).cancel _

theorem of_reaches (reached : slotSystem.Reaches Undisturbed slotSystem.init run) :
    run.Recorded := by
  induction reached with
  | refl => exact .new
  | tail before undisturbed taken ih =>
    exact ih.step (Custody.of_reaches before.reachable) undisturbed taken

end Recorded

/-- Only the transactions that were accepted have to be looked at. -/
theorem atRest_of_range {run : SlotRun} (custody : run.Custody)
    (ended : (List.range (run.slot.transaction + 1)).all (fun t =>
      (run.supervisors t).all fun supervisor => supervisor.phase = .ended) = true) :
    run.AtRest := by
  intro t supervisor found
  have member : t ∈ List.range (run.slot.transaction + 1) :=
    List.mem_range.2 (Nat.lt_succ_of_le (custody.bounded t supervisor found))
  have here := List.all_eq_true.1 ended t member
  rw [found] at here
  simpa using here

theorem undisturbed_of_mem {actions : List SlotAction}
    (kept : ∀ t, SlotAction.lose t ∉ actions) (run : SlotRun) :
    slotSystem.Meets Undisturbed run actions := by
  refine .of_forall_mem (fun action member _ t lost => ?_) run
  subst lost
  exact kept t member

end SlotRun

open SlotRun

/-- **The slot at rest.**  Once every supervisor and every monitor has finished, the snapshot
names no terminal execution exactly when the slot is closed, or its newest transaction has
published, or had found nothing current when it was accepted. -/
theorem snapshot_at_rest {run : SlotRun}
    (reached : slotSystem.Reaches Undisturbed slotSystem.init run) (rest : run.AtRest) :
    run.Truthful ↔ run.slot.closed = true ∨
      ∀ supervisor, run.supervisors run.slot.transaction = some supervisor →
        supervisor.announced = true ∨ supervisor.previous = none := by
  have recorded := Recorded.of_reaches reached
  have custody := Custody.of_reaches reached
  have hidden : ∀ {t : Nat} {supervisor : Supervisor}, run.supervisors t = some supervisor →
      supervisor.phase.shown = none := by
    intro t supervisor found
    rw [rest t supervisor found]
    rfl
  constructor
  · intro truthful
    cases opened : run.slot.closed with
    | true => exact .inl rfl
    | false =>
      refine .inr fun supervisor found => ?_
      cases announced : supervisor.announced with
      | true => exact .inl rfl
      | false =>
        refine .inr ?_
        rw [recorded.pending opened supervisor found announced]
        refine Option.eq_none_iff_forall_not_mem.2 fun executionId current => ?_
        -- what is current at rest has no monitor left, so it is terminal
        rcases recorded.watched executionId current with terminal | ⟨t, holder, at_t, shown⟩
        · exact terminal (truthful executionId current)
        · rw [hidden at_t] at shown
          cases shown
  · intro settled executionId current
    have current : run.slot.current = some executionId := current
    have empty : run.slot.current = none := by
      cases opened : run.slot.closed with
      | true => exact custody.closed opened
      | false =>
        cases found : run.supervisors run.slot.transaction with
        | none => exact recorded.origin opened found
        | some supervisor =>
          have either := settled.resolve_left (by simp [opened]) supervisor found
          cases announced : supervisor.announced with
          | true => exact (recorded.newest opened supervisor found announced).trans (hidden found)
          | false =>
            have previous := either.resolve_left (by simp [announced])
            exact (recorded.pending opened supervisor found announced).symm.trans previous
    rw [empty] at current
    cases current

/-- The first execution ends after the second transaction was accepted, and the second
publishes. -/
def succeeded : List SlotAction :=
  [.replace [] 1 7 .availabilityFirst, .start 1, .attempt 1 (.ok 10), .publish 1, .deliver 1,
    .replace [] 2 8 .availabilityFirst, .finish 10, .clear 1, .start 2, .attempt 2 (.ok 11),
    .publish 2, .deliver 2, .finish 11, .clear 2]

/-- The same, but the admission of the second fails. -/
def forsaken : List SlotAction :=
  [.replace [] 1 7 .availabilityFirst, .start 1, .attempt 1 (.ok 10), .publish 1, .deliver 1,
    .replace [] 2 8 .availabilityFirst, .finish 10, .clear 1, .start 2,
    .attempt 2 (.error .laneClosing)]

theorem snapshot_at_rest_succeeded :
    ∃ run, slotSystem.exec slotSystem.init succeeded = some run ∧ run.AtRest ∧ run.Truthful := by
  have ends : (slotSystem.exec slotSystem.init succeeded).map (fun run =>
      ((List.range (run.slot.transaction + 1)).all (fun t =>
        (run.supervisors t).all fun supervisor => supervisor.phase = .ended),
        (run.supervisors run.slot.transaction).map Supervisor.announced)) =
      some (true, some true) := by decide +kernel
  obtain ⟨run, exec, facts⟩ := Option.map_eq_some_iff.1 ends
  simp only [Prod.mk.injEq] at facts
  obtain ⟨ended, announced⟩ := facts
  have reached : slotSystem.Reaches Undisturbed slotSystem.init run :=
    .of_exec exec (undisturbed_of_mem (by simp [succeeded]) _)
  have rest := atRest_of_range (Custody.of_reaches reached) ended
  refine ⟨run, exec, rest, (snapshot_at_rest reached rest).2 (.inr fun supervisor found => ?_)⟩
  rw [found] at announced
  exact .inl (Option.some.inj announced)

/-- The slot rests, and its snapshot names an execution that has ended. -/
theorem snapshot_forsaken :
    ¬ ∀ run, slotSystem.Reaches Undisturbed slotSystem.init run → run.AtRest → run.Truthful := by
  intro all
  have ends : (slotSystem.exec slotSystem.init forsaken).map (fun run =>
      ((List.range (run.slot.transaction + 1)).all (fun t =>
        (run.supervisors t).all fun supervisor => supervisor.phase = .ended),
        run.slot.snapshot.currentExecution, run.live)) = some (true, some 10, ∅) := by
    decide +kernel
  obtain ⟨run, exec, facts⟩ := Option.map_eq_some_iff.1 ends
  simp only [Prod.mk.injEq] at facts
  obtain ⟨ended, current, live⟩ := facts
  have reached : slotSystem.Reaches Undisturbed slotSystem.init run :=
    .of_exec exec (undisturbed_of_mem (by simp [forsaken]) _)
  have alive := all run reached (atRest_of_range (Custody.of_reaches reached) ended) 10 current
  rw [live] at alive
  cases alive

end BusyBeaver
