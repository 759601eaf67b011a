import BusyBeaver.Slot.Run

/-!
# What `Existing` answers

A call that repeats the accepted revision is answered with the control of the slot.
`History` relates the two pairs of fields that advance apart: the revision, which the
last acceptance set, and `last`, which the last publication set.  Revisions increase
and executions are issued once, so the control belongs to the accepted revision exactly
when the transaction of that revision has published.
-/

namespace BusyBeaver

open Transition

/-- `try_spawn` has not returned an execution yet. -/
def SupervisorPhase.early : SupervisorPhase → Bool
  | .spawned | .waiting _ | .trying | .parked => true
  | _ => false

/-- What the phase of a supervisor says of its history. -/
structure Supervisor.Consistent (supervisor : Supervisor) : Prop where
  early : supervisor.phase.early = true →
    supervisor.admission = none ∧ supervisor.announced = false
  unpublished : ∀ executionId ∈ supervisor.phase.unpublished,
    supervisor.admission = some executionId ∧ supervisor.announced = false

/-- Past the publication, and at the end, a phase says nothing. -/
theorem Supervisor.Consistent.late {supervisor : Supervisor}
    (early : supervisor.phase.early = false) (unpublished : supervisor.phase.unpublished = none) :
    supervisor.Consistent where
  early absurd := by
    rw [early] at absurd
    cases absurd
  unpublished executionId absurd := by
    rw [unpublished] at absurd
    cases absurd

namespace SlotRun

/-- The transaction of the revision admitted the execution. -/
def AdmittedBy (run : SlotRun) (revision : Nat) (executionId : ExecutionId) : Prop :=
  ∃ t supervisor, run.supervisors t = some supervisor ∧ supervisor.revision = revision ∧
    supervisor.admission = some executionId

/-- The transaction of the revision published its execution. -/
def Announced (run : SlotRun) (revision : Nat) : Prop :=
  ∃ t supervisor, run.supervisors t = some supervisor ∧ supervisor.revision = revision ∧
    supervisor.announced = true

/-- A call answered `Existing` is answered with an execution of that revision, and not
so while the revision has none. -/
structure AnswersHonestly (run : SlotRun) (path : List ExecutionId) (revision : Nat)
    (specId : TaskSpecId) (policy : ReplacePolicy) : Prop where
  own : ∀ answered control,
    (run.slot.replace path revision specId policy).2 = .existing answered control →
    run.AdmittedBy answered control
  none_admitted : (∀ executionId, ¬ run.AdmittedBy revision executionId) →
    ∀ answered control,
      (run.slot.replace path revision specId policy).2 ≠ .existing answered control

/-! ## The invariant -/

structure History (run : SlotRun) : Prop where
  bounded : ∀ t supervisor, run.supervisors t = some supervisor → t ≤ run.slot.transaction
  consistent : ∀ t supervisor, run.supervisors t = some supervisor → supervisor.Consistent
  accepted : ∀ t supervisor, run.supervisors t = some supervisor →
    ∃ revision, run.slot.revision = some revision ∧ supervisor.revision ≤ revision
  apart : ∀ t t' supervisor supervisor', run.supervisors t = some supervisor →
    run.supervisors t' = some supervisor' → supervisor.revision = supervisor'.revision → t = t'
  issued : ∀ t supervisor, run.supervisors t = some supervisor →
    ∀ executionId ∈ supervisor.admission, executionId ∈ run.issued
  once : ∀ t t' supervisor supervisor', run.supervisors t = some supervisor →
    run.supervisors t' = some supervisor' → ∀ executionId ∈ supervisor.admission,
    executionId ∈ supervisor'.admission → t = t'
  recent : ∀ control ∈ run.slot.current, run.slot.last = some control
  source : ∀ control ∈ run.slot.last, ∃ t supervisor, run.supervisors t = some supervisor ∧
    supervisor.announced = true ∧ supervisor.admission = some control
  newest : run.slot.closed = false → ∀ t supervisor, run.supervisors t = some supervisor →
    supervisor.announced = true → run.slot.revision = some supervisor.revision →
    run.slot.last = supervisor.admission

namespace History

variable {run run' : SlotRun} {action : SlotAction} {transaction : Nat}
variable {supervisor supervisor' : Supervisor}

theorem new : SlotRun.new.History where
  bounded := by intro t supervisor absurd; cases absurd
  consistent := by intro t supervisor absurd; cases absurd
  accepted := by intro t supervisor absurd; cases absurd
  apart := by intro t t' supervisor supervisor' absurd; cases absurd
  issued := by intro t supervisor absurd; cases absurd
  once := by intro t t' supervisor supervisor' absurd; cases absurd
  recent := by intro control absurd; cases absurd
  source := by intro control absurd; cases absurd
  newest := by intro _ t supervisor absurd; cases absurd

/-- The control of an answer is the last one published. -/
theorem last_of_control (history : run.History) {control : ExecutionId}
    (found : run.slot.current.or run.slot.last = some control) :
    run.slot.last = some control := by
  cases at_ : run.slot.current with
  | none => simpa [at_] using found
  | some current =>
    rw [at_, Option.some_or] at found
    obtain rfl := Option.some.inj found
    exact history.recent current at_

/-- A supervisor moves and its history stays. -/
theorem move (history : run.History) (found : run.supervisors transaction = some supervisor)
    (revision : supervisor'.revision = supervisor.revision)
    (admission : supervisor'.admission = supervisor.admission)
    (announced : supervisor'.announced = supervisor.announced)
    (consistent : supervisor'.Consistent) : (run.move transaction supervisor').History := by
  have back : ∀ {t : Nat} {other : Supervisor},
      (run.move transaction supervisor').supervisors t = some other →
      ∃ old, run.supervisors t = some old ∧ other.revision = old.revision ∧
        other.admission = old.admission ∧ other.announced = old.announced := by
    intro t other at_t
    rcases Pool.of_set_eq_some at_t with ⟨rfl, rfl⟩ | ⟨_, old⟩
    · exact ⟨supervisor, found, revision, admission, announced⟩
    · exact ⟨other, old, rfl, rfl, rfl⟩
  constructor
  · intro t other at_t
    obtain ⟨old, at_t, _⟩ := back at_t
    exact history.bounded t old at_t
  · intro t other at_t
    rcases Pool.of_set_eq_some at_t with ⟨rfl, rfl⟩ | ⟨_, old⟩
    · exact consistent
    · exact history.consistent t other old
  · intro t other at_t
    obtain ⟨old, at_t, same, _⟩ := back at_t
    rw [same]
    exact history.accepted t old at_t
  · intro t t' other other' at_t at_t' equal
    obtain ⟨old, at_t, same, _⟩ := back at_t
    obtain ⟨old', at_t', same', _⟩ := back at_t'
    exact history.apart t t' old old' at_t at_t' (same ▸ same' ▸ equal)
  · intro t other at_t
    obtain ⟨old, at_t, _, same, _⟩ := back at_t
    rw [same]
    exact history.issued t old at_t
  · intro t t' other other' at_t at_t'
    obtain ⟨old, at_t, _, same, _⟩ := back at_t
    obtain ⟨old', at_t', _, same', _⟩ := back at_t'
    rw [same, same']
    exact history.once t t' old old' at_t at_t'
  · exact history.recent
  · intro control member
    obtain ⟨t, old, at_t, said, gave⟩ := history.source control member
    by_cases own : t = transaction
    · subst own
      obtain rfl : supervisor = old := Option.some.inj (found.symm.trans at_t)
      exact ⟨t, supervisor', Pool.set_self, announced.trans said, admission.trans gave⟩
    · exact ⟨t, old, (Pool.set_of_ne own).trans at_t, said, gave⟩
  · intro opened t other at_t said current
    obtain ⟨old, at_t, same, gave, told⟩ := back at_t
    rw [gave]
    exact history.newest opened t old at_t (told ▸ said) (same ▸ current)

/-- A supervisor moves on before its admission. -/
theorem move_early (history : run.History)
    (found : run.supervisors transaction = some supervisor)
    (early : supervisor.phase.early = true) {phase : SupervisorPhase}
    (early' : phase.early = true) : (run.move transaction (supervisor.moveTo phase)).History := by
  refine history.move found rfl rfl rfl ⟨fun _ => ?_, fun executionId member => ?_⟩
  · exact (history.consistent transaction supervisor found).early early
  · cases phase <;> cases early' <;> cases member

theorem cancel (history : run.History) (control : Option ExecutionId) :
    (run.cancel control).History :=
  ⟨history.bounded, history.consistent, history.accepted, history.apart, history.issued,
    history.once, history.recent, history.source, history.newest⟩

theorem finish (history : run.History) (executionId : ExecutionId) :
    { run with live := run.live.erase executionId : SlotRun }.History :=
  ⟨history.bounded, history.consistent, history.accepted, history.apart, history.issued,
    history.once, history.recent, history.source, history.newest⟩

theorem close (history : run.History) (logged : List String) :
    { run with slot := run.slot.close.1, logged : SlotRun }.History := by
  obtain ⟨closed, current, last, revision, raised, _⟩ := run.slot.close_fields
  exact {
    bounded := fun t supervisor found => (history.bounded t supervisor found).trans raised
    consistent := history.consistent
    accepted := by
      intro t supervisor found
      rw [revision]
      exact history.accepted t supervisor found
    apart := history.apart
    issued := history.issued
    once := history.once
    recent := by
      intro control member
      rw [current] at member
      cases member
    source := by
      intro control member
      rw [last] at member
      cases member
    newest := by
      intro opened
      rw [closed] at opened
      cases opened }

theorem clear (history : run.History) (executionId : ExecutionId) :
    { run with slot := run.slot.clear transaction executionId : SlotRun }.History := by
  rcases run.slot.clear_cases transaction executionId with ⟨_, _, eq⟩ | eq
  · rw [eq]
    refine ⟨history.bounded, history.consistent, history.accepted, history.apart,
      history.issued, history.once, ?_, history.source, history.newest⟩
    intro control absurd
    cases absurd
  · rw [eq]
    exact history

/-- An accepted revision is above every earlier one, so its supervisor is apart from
every other and none has published for it. -/
theorem accept (history : run.History) {revision : Nat} {specId : TaskSpecId}
    {policy : ReplacePolicy} {previous : Option ExecutionId}
    (newer : ∀ current ∈ run.slot.revision, current < revision) :
    ({ run with slot := { run.slot with
        transaction := run.slot.transaction + 1, revision := some revision,
        specId := some specId } }.move (run.slot.transaction + 1)
      (.spawn revision specId policy previous)).History := by
  have below : ∀ {t : Nat} {old : Supervisor}, run.supervisors t = some old →
      old.revision < revision := by
    intro t old at_t
    obtain ⟨current, set, le⟩ := history.accepted t old at_t
    exact le.trans_lt (newer current set)
  have free : run.supervisors (run.slot.transaction + 1) = none := by
    cases at_ : run.supervisors (run.slot.transaction + 1) with
    | none => rfl
    | some old => exact absurd (history.bounded _ old at_) (by omega)
  constructor
  · intro t other at_t
    rcases Pool.of_set_eq_some at_t with ⟨rfl, _⟩ | ⟨_, old⟩
    · exact le_refl _
    · exact (history.bounded t other old).trans (Nat.le_succ _)
  · intro t other at_t
    rcases Pool.of_set_eq_some at_t with ⟨_, rfl⟩ | ⟨_, old⟩
    · constructor
      · intro _
        exact ⟨rfl, rfl⟩
      · intro executionId absurd
        cases absurd
    · exact history.consistent t other old
  · intro t other at_t
    rcases Pool.of_set_eq_some at_t with ⟨_, rfl⟩ | ⟨_, old⟩
    · exact ⟨revision, rfl, le_refl _⟩
    · exact ⟨revision, rfl, (below old).le⟩
  · intro t t' other other' at_t at_t' equal
    rcases Pool.of_set_eq_some at_t with ⟨rfl, rfl⟩ | ⟨_, old⟩ <;>
      rcases Pool.of_set_eq_some at_t' with ⟨rfl, rfl⟩ | ⟨_, old'⟩
    · rfl
    · exact absurd equal (below old').ne'
    · exact absurd equal (below old).ne
    · exact history.apart t t' other other' old old' equal
  · intro t other at_t
    rcases Pool.of_set_eq_some at_t with ⟨_, rfl⟩ | ⟨_, old⟩
    · intro executionId absurd
      cases absurd
    · exact history.issued t other old
  · intro t t' other other' at_t at_t' executionId member member'
    rcases Pool.of_set_eq_some at_t with ⟨_, rfl⟩ | ⟨_, old⟩
    · cases member
    rcases Pool.of_set_eq_some at_t' with ⟨_, rfl⟩ | ⟨_, old'⟩
    · cases member'
    · exact history.once t t' other other' old old' executionId member member'
  · exact history.recent
  · intro control member
    obtain ⟨t, old, at_t, said, gave⟩ := history.source control member
    have other : t ≠ run.slot.transaction + 1 := by
      intro own
      rw [own, free] at at_t
      cases at_t
    exact ⟨t, old, (Pool.set_of_ne other).trans at_t, said, gave⟩
  · intro _ t other at_t said current
    rcases Pool.of_set_eq_some at_t with ⟨_, rfl⟩ | ⟨_, old⟩
    · cases said
    · have equal : revision = other.revision := Option.some.inj current
      exact absurd equal (below old).ne'

/-- A fresh execution is admitted by a supervisor that had none. -/
theorem admit_fresh (history : run.History) {executionId : ExecutionId}
    (found : run.supervisors transaction = some supervisor)
    (phase : supervisor.phase = .trying) (fresh : executionId ∉ run.issued) :
    ((run.issue executionId).move transaction
      { supervisor with
        phase := .admitted executionId, admission := some executionId }).History := by
  obtain ⟨none_yet, unannounced⟩ :=
    (history.consistent transaction supervisor found).early (by rw [phase]; rfl)
  have unused : ∀ {t : Nat} {other : Supervisor}, run.supervisors t = some other →
      executionId ∉ other.admission := by
    intro t other at_t member
    exact fresh (history.issued t other at_t executionId member)
  constructor
  · intro t other at_t
    rcases Pool.of_set_eq_some at_t with ⟨rfl, _⟩ | ⟨_, old⟩
    · exact history.bounded _ _ found
    · exact history.bounded t other old
  · intro t other at_t
    rcases Pool.of_set_eq_some at_t with ⟨_, rfl⟩ | ⟨_, old⟩
    · constructor
      · intro absurd
        cases absurd
      · intro alive member
        exact ⟨member, unannounced⟩
    · exact history.consistent t other old
  · intro t other at_t
    rcases Pool.of_set_eq_some at_t with ⟨_, rfl⟩ | ⟨_, old⟩
    · exact history.accepted _ supervisor found
    · exact history.accepted t other old
  · intro t t' other other' at_t at_t' equal
    rcases Pool.of_set_eq_some at_t with ⟨rfl, rfl⟩ | ⟨_, old⟩ <;>
      rcases Pool.of_set_eq_some at_t' with ⟨rfl, rfl⟩ | ⟨_, old'⟩
    · rfl
    · exact history.apart _ _ supervisor other' found old' equal
    · exact history.apart _ _ other supervisor old found equal
    · exact history.apart t t' other other' old old' equal
  · intro t other at_t alive member
    rcases Pool.of_set_eq_some at_t with ⟨_, rfl⟩ | ⟨_, old⟩
    · obtain rfl := Option.some.inj member
      exact Finset.mem_insert_self _ _
    · exact Finset.mem_insert_of_mem (history.issued t other old alive member)
  · intro t t' other other' at_t at_t' alive member member'
    rcases Pool.of_set_eq_some at_t with ⟨rfl, rfl⟩ | ⟨_, old⟩ <;>
      rcases Pool.of_set_eq_some at_t' with ⟨rfl, rfl⟩ | ⟨_, old'⟩
    · rfl
    · obtain rfl := Option.some.inj member
      exact (unused old' member').elim
    · obtain rfl := Option.some.inj member'
      exact (unused old member).elim
    · exact history.once t t' other other' old old' alive member member'
  · exact history.recent
  · intro control member
    obtain ⟨t, old, at_t, said, gave⟩ := history.source control member
    have other : t ≠ transaction := by
      intro own
      obtain rfl : supervisor = old := Option.some.inj (found.symm.trans (own ▸ at_t))
      rw [none_yet] at gave
      cases gave
    exact ⟨t, old, (Pool.set_of_ne other).trans at_t, said, gave⟩
  · intro opened t other at_t said current
    rcases Pool.of_set_eq_some at_t with ⟨_, rfl⟩ | ⟨_, old⟩
    · exact absurd (unannounced.symm.trans said) (by simp)
    · exact history.newest opened t other old said current

/-- The newest supervisor publishes the execution it admitted. -/
theorem publish_newest (history : run.History) {executionId : ExecutionId}
    (found : run.supervisors transaction = some supervisor)
    (phase : supervisor.phase = .admitted executionId)
    (newest : run.slot.superseded transaction supervisor.revision = false) :
    ({ run with slot := run.slot.publish executionId }.move transaction
      { supervisor with
        phase := .published executionId, announced := true }).History := by
  obtain ⟨_, _, revision⟩ := SlotState.superseded_eq_false.1 newest
  have admission : supervisor.admission = some executionId :=
    ((history.consistent transaction supervisor found).unpublished executionId
      (by rw [phase]; rfl)).1
  have back : ∀ {t : Nat} {other : Supervisor},
      (run.supervisors.set transaction { supervisor with
        phase := .published executionId, announced := true }) t = some other →
      ∃ old, run.supervisors t = some old ∧ other.revision = old.revision ∧
        other.admission = old.admission := by
    intro t other at_t
    rcases Pool.of_set_eq_some at_t with ⟨rfl, rfl⟩ | ⟨_, old⟩
    · exact ⟨supervisor, found, rfl, rfl⟩
    · exact ⟨other, old, rfl, rfl⟩
  constructor
  · intro t other at_t
    obtain ⟨old, at_t, _⟩ := back at_t
    exact history.bounded t old at_t
  · intro t other at_t
    rcases Pool.of_set_eq_some at_t with ⟨_, rfl⟩ | ⟨_, old⟩
    · exact .late rfl rfl
    · exact history.consistent t other old
  · intro t other at_t
    obtain ⟨old, at_t, same, _⟩ := back at_t
    rw [same]
    exact history.accepted t old at_t
  · intro t t' other other' at_t at_t' equal
    obtain ⟨old, at_t, same, _⟩ := back at_t
    obtain ⟨old', at_t', same', _⟩ := back at_t'
    exact history.apart t t' old old' at_t at_t' (same ▸ same' ▸ equal)
  · intro t other at_t
    obtain ⟨old, at_t, _, same⟩ := back at_t
    rw [same]
    exact history.issued t old at_t
  · intro t t' other other' at_t at_t'
    obtain ⟨old, at_t, _, same⟩ := back at_t
    obtain ⟨old', at_t', _, same'⟩ := back at_t'
    rw [same, same']
    exact history.once t t' old old' at_t at_t'
  · intro control member
    exact member
  · intro control member
    exact ⟨transaction, _, Pool.set_self, rfl, admission.trans member⟩
  · intro _ t other at_t _ current
    obtain ⟨old, at_old, same, gave⟩ := back at_t
    have shared : supervisor.revision = old.revision :=
      Option.some.inj (revision.symm.trans (current.trans (congrArg some same)))
    obtain rfl := history.apart _ _ supervisor old found at_old shared
    obtain rfl : supervisor = old := Option.some.inj (found.symm.trans at_old)
    rw [gave, admission]
    rfl

/-- **Step lemma.** -/
theorem step (history : run.History) (moved : Moved run action run') : run'.History := by
  cases moved with
  | refused => exact history
  | accepted accepts => exact history.accept accepts.newer
  | awaiting found phase _ =>
    exact (history.cancel _).move_early found (by rw [phase]; rfl) rfl
  | ready found phase _ => exact history.move_early found (by rw [phase]; rfl) rfl
  | waited found phase _ => exact history.move_early found (by rw [phase]; rfl) rfl
  | overtaken found _ _ => exact history.move found rfl rfl rfl (.late rfl rfl)
  | admitted found phase _ fresh => exact history.admit_fresh found phase fresh
  | full found phase _ => exact history.move_early found (by rw [phase]; rfl) rfl
  | failed found _ _ _ => exact history.move found rfl rfl rfl (.late rfl rfl)
  | woken found phase => exact history.move_early found (by rw [phase]; rfl) rfl
  | withdrawn found _ _ => exact (history.cancel _).move found rfl rfl rfl (.late rfl rfl)
  | published found phase newest => exact history.publish_newest found phase newest
  | delivered found _ => exact (history.cancel _).move found rfl rfl rfl (.late rfl rfl)
  | cleared found _ _ => exact (history.clear _).move found rfl rfl rfl (.late rfl rfl)
  | lost found _ => exact history.move found rfl rfl rfl (.late rfl rfl)
  | finished _ => exact history.finish _
  | cancelled => exact history.cancel _
  | closed => exact (history.close _).cancel _

/-- **Run lemma.** -/
theorem of_reachable (reached : slotSystem.Reachable run) : run.History := by
  refine System.Reaches.invariant reached new ?_
  intro before after action history _ step
  exact history.step (Moved.of_step step)

end History

end SlotRun

/-- **`Existing` is honest exactly when the accepted revision has published**, or has no
predecessor whose control the slot still keeps. -/
theorem existing_honest_iff {run : SlotRun} (reached : slotSystem.Reachable run)
    (path : List ExecutionId) (revision : Nat) (specId : TaskSpecId) (policy : ReplacePolicy) :
    run.AnswersHonestly path revision specId policy ↔
      (run.slot.Repeats path revision specId policy → run.slot.last ≠ none →
        run.Announced revision) := by
  have history := SlotRun.History.of_reachable reached
  constructor
  · intro honest repeats kept
    obtain ⟨control, last⟩ := Option.ne_none_iff_exists'.1 kept
    obtain ⟨t, publisher, at_t, said, gave⟩ := history.source control last
    have held : run.slot.current.or run.slot.last = some control := by
      cases current : run.slot.current with
      | none => exact last
      | some other =>
        rw [Option.some_or, ← history.recent other current, last]
    have answer := repeats.answers
    rw [held] at answer
    obtain ⟨t', admitter, at_t', own, admission⟩ := honest.own revision control answer
    obtain rfl := history.once t t' publisher admitter at_t at_t' control gave admission
    obtain rfl : publisher = admitter := Option.some.inj (at_t.symm.trans at_t')
    exact ⟨t, publisher, at_t, own, said⟩
  · intro announced
    have own : ∀ answered control,
        (run.slot.replace path revision specId policy).2 = .existing answered control →
        run.AdmittedBy answered control := by
      intro answered control answer
      obtain ⟨rfl, repeats, found⟩ := SlotState.existing_inv answer
      have last := history.last_of_control found
      obtain ⟨t, publisher, at_t, own, said⟩ := announced repeats (by simp [last])
      have same := history.newest repeats.opened t publisher at_t said (own ▸ repeats.same)
      exact ⟨t, publisher, at_t, own, same.symm.trans last⟩
    refine ⟨own, fun none_admitted answered control answer => ?_⟩
    obtain ⟨rfl, _, _⟩ := SlotState.existing_inv answer
    exact none_admitted control (own answered control answer)

/-- Revision 1 is admitted as execution 10 and published. -/
def publishedFirst : List SlotAction :=
  [.replace [] 1 7 .strictSingleInstance, .start 1, .attempt 1 (.ok 10), .publish 1]

/-- Revision 2 is accepted after that, and its supervisor has not run yet. -/
def acceptedSecond : List SlotAction :=
  publishedFirst ++ [.deliver 1, .replace [] 2 8 .strictSingleInstance]

/-- What a call repeated by a caller outside the slot is answered. -/
def SlotRun.repeated (run : SlotRun) (revision : Nat) (specId : TaskSpecId) :
    ReplaceAnswer × Option Supervisor :=
  ((run.slot.replace [] revision specId .strictSingleInstance).2, run.supervisors revision)

theorem existing_honest_published :
    ∃ run, slotSystem.Reachable run ∧
      (run.slot.replace [] 1 7 .strictSingleInstance).2 = .existing 1 10 ∧
      run.AnswersHonestly [] 1 7 .strictSingleInstance := by
  have ends : (slotSystem.exec slotSystem.init publishedFirst).map
      (fun run => run.repeated 1 7) =
      some (.existing 1 10, some
        { Supervisor.spawn 1 7 .strictSingleInstance none with
          phase := .published 10, admission := some 10, announced := true }) := rfl
  obtain ⟨run, exec, summary⟩ := Option.map_eq_some_iff.1 ends
  have reached := System.Reaches.of_schedule publishedFirst exec
  obtain ⟨answer, found⟩ := Prod.mk.inj summary
  exact ⟨run, reached, answer, (existing_honest_iff reached _ _ _ _).2
    fun _ _ => ⟨1, _, found, rfl, rfl⟩⟩

/-- The repeated call for revision 2, which has admitted nothing, is answered with the
execution of revision 1. -/
theorem existing_misattributed :
    ∃ run, slotSystem.Reachable run ∧
      (run.slot.replace [] 2 8 .strictSingleInstance).2 = .existing 2 10 ∧
      ¬ run.AnswersHonestly [] 2 8 .strictSingleInstance := by
  have ends : (slotSystem.exec slotSystem.init acceptedSecond).map
      (fun run => run.repeated 2 8) =
      some (.existing 2 10, some (Supervisor.spawn 2 8 .strictSingleInstance (some 10))) := rfl
  obtain ⟨run, exec, summary⟩ := Option.map_eq_some_iff.1 ends
  have reached := System.Reaches.of_schedule acceptedSecond exec
  have history := SlotRun.History.of_reachable reached
  obtain ⟨answer, found⟩ := Prod.mk.inj summary
  refine ⟨run, reached, answer, fun honest => ?_⟩
  obtain ⟨t, admitter, at_t, own, admission⟩ := honest.own 2 10 answer
  obtain rfl := history.apart 2 t _ admitter found at_t own.symm
  obtain rfl := Option.some.inj (found.symm.trans at_t)
  cases admission

end BusyBeaver
