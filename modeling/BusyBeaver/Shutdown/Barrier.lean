import BusyBeaver.Shutdown.Moves

/-!
# One shutdown for everybody

The slot mutex is held from the creation of the process until the slot is written, so there
is one process, one accepting call and one supervisor (`Stage`).  What the supervisor or the
drop of its guard has published depends on where it stands (`Coherent`), and no channel is
written twice with different values (`Extends`).  A call with other options is refused with
a conflict, but for options whose grace period is beyond the clock, which are refused first
(`other_options_overflow`).
-/

namespace BusyBeaver

open Transition

/-- The call holds the slot, or is preparing the supervisor. -/
def ShutdownCall.isBusy : ShutdownCall → Bool
  | .created _ | .accepted _ | .preparing _ _ _ => true
  | _ => false

/-! ## What is published -/

namespace ShutdownProcess

variable {process after : ShutdownProcess}

/-- Nothing is published. -/
def IsFresh (process : ShutdownProcess) : Prop :=
  process.grace = none ∧ process.finalReport = none

/-- There is no final result, and the grace outcome does not promise one. -/
def Undecided (process : ShutdownProcess) : Prop :=
  process.finalReport = none ∧ ∀ report, process.grace ≠ some (.stopped report)

/-- A grace outcome is published, and if it is a report then this one. -/
def Promised (process : ShutdownProcess) (report : ShutdownReport) : Prop :=
  process.grace ≠ none ∧ ∀ other, process.grace = some (.stopped other) → other = report

/-- What is published in a phase of the supervisor. -/
def Coherent (process : ShutdownProcess) : ShutdownPhase → Prop
  | .settling | .reporting _ _ _ | .publishing _ | .failing => process.Undecided
  | .publishingFinal report => process.finalReport = none ∧ process.Promised report
  | .finishing => ∃ report, process.finalReport = some (.ok report) ∧ process.Promised report
  | .failingFinal => process.Undecided ∧ process.grace ≠ none
  | .failingStopped =>
    process.finalReport = some (.error Beaver.cancelledMessage) ∧ process.grace ≠ none ∧
      ∀ report, process.grace ≠ some (.stopped report)
  | .ended =>
    ∃ result, process.finalReport = some result ∧ process.grace ≠ none ∧
      ∀ report, process.grace = some (.stopped report) → result = .ok report
  | _ => process.IsFresh

/-- The same process, with what was published before. -/
structure Extends (process after : ShutdownProcess) : Prop where
  id : after.id = process.id
  options : after.options = process.options
  grace : ∀ completion, process.grace = some completion → after.grace = some completion
  final : ∀ result, process.finalReport = some result → after.finalReport = some result

theorem Extends.refl (process : ShutdownProcess) : Extends process process :=
  ⟨rfl, rfl, fun _ published => published, fun _ published => published⟩

theorem Extends.trans {last : ShutdownProcess} (first : Extends process after)
    (second : Extends after last) : Extends process last where
  id := second.id.trans first.id
  options := second.options.trans first.options
  grace := fun completion published => second.grace completion (first.grace completion published)
  final := fun result published => second.final result (first.final result published)

theorem extends_settleGrace (completion : GraceCompletion) :
    Extends process (process.settleGrace completion) :=
  ⟨rfl, rfl, fun earlier published => by simp [settleGrace, published],
    fun _ published => published⟩

theorem extends_settleFinal (open_ : process.finalReport = none)
    (result : Except String ShutdownReport) : Extends process (process.settleFinal result) :=
  ⟨rfl, rfl, fun _ published => published, fun earlier published => by
    rw [open_] at published
    cases published⟩

theorem IsFresh.undecided (fresh : process.IsFresh) : process.Undecided :=
  ⟨fresh.2, fun report => by simp [fresh.1]⟩

theorem settleGrace_ne_none (completion : GraceCompletion) :
    (process.settleGrace completion).grace ≠ none := by
  cases published : process.grace <;> simp [settleGrace, published]

/-- A grace outcome that is published now is the new one, or was there before. -/
theorem of_settleGrace {completion other : GraceCompletion}
    (published : (process.settleGrace completion).grace = some other) :
    process.grace = some other ∨ completion = other := by
  cases before : process.grace with
  | none =>
    simp only [settleGrace, before, Option.none_or, Option.some.injEq] at published
    exact Or.inr published
  | some earlier =>
    simp only [settleGrace, before, Option.some_or] at published
    exact Or.inl published

/-- Before the final phases nothing promises a report. -/
theorem Coherent.undecided {phase : ShutdownPhase} (coherent : process.Coherent phase)
    (before : phase.isFinal = false) : process.Undecided := by
  cases phase with
  | settling => exact coherent
  | reporting rest summaries records => exact coherent
  | publishing report => cases before
  | publishingFinal report => cases before
  | finishing => cases before
  | failing => cases before
  | failingFinal => cases before
  | failingStopped => cases before
  | ended => cases before
  | _ => exact IsFresh.undecided coherent

/-- A grace outcome that is a report agrees with the final result. -/
theorem Coherent.agrees {phase : ShutdownPhase} (coherent : process.Coherent phase)
    {report : ShutdownReport} (stopped : process.grace = some (.stopped report))
    {result : Except String ShutdownReport} (final : process.finalReport = some result) :
    result = .ok report := by
  have undecided : process.Undecided → result = .ok report :=
    fun undecided => (undecided.2 report stopped).elim
  cases phase with
  | settling => exact undecided coherent
  | reporting rest summaries records => exact undecided coherent
  | publishing report => exact undecided coherent
  | failing => exact undecided coherent
  | failingFinal => exact undecided coherent.1
  | failingStopped => exact (coherent.2.2 report stopped).elim
  | publishingFinal report =>
    rw [coherent.1] at final
    cases final
  | finishing =>
    obtain ⟨other, published, promised⟩ := coherent
    obtain rfl := Option.some.inj (published.symm.trans final)
    rw [promised.2 report stopped]
  | ended =>
    obtain ⟨other, published, -, promised⟩ := coherent
    obtain rfl := Option.some.inj (published.symm.trans final)
    exact promised report stopped
  | _ => exact undecided (IsFresh.undecided coherent)

/-- A final report is published in the last two phases. -/
theorem Coherent.phase_of_final {phase : ShutdownPhase} (coherent : process.Coherent phase)
    {report : ShutdownReport} (final : process.finalReport = some (.ok report)) :
    phase = .finishing ∨ phase = .ended := by
  have undecided : ¬ process.Undecided := fun undecided => by
    rw [undecided.1] at final
    cases final
  cases phase with
  | settling => exact (undecided coherent).elim
  | reporting rest summaries records => exact (undecided coherent).elim
  | publishing report => exact (undecided coherent).elim
  | failing => exact (undecided coherent).elim
  | failingFinal => exact (undecided coherent.1).elim
  | publishingFinal report =>
    rw [coherent.1] at final
    cases final
  | failingStopped =>
    rw [coherent.1] at final
    cases final
  | finishing => exact Or.inl rfl
  | ended => exact Or.inr rfl
  | _ => exact (undecided (IsFresh.undecided coherent)).elim

/-- Who waits for the grace outcome gets the one that is there already. -/
theorem Extends.waitGraceOutcome (extended : process.Extends after)
    {outcome : Except ShutdownWaitError ShutdownOutcome}
    (answered : process.waitGraceOutcome = some outcome) :
    after.waitGraceOutcome = some outcome := by
  obtain ⟨completion, published, rfl⟩ := Option.map_eq_some_iff.1 answered
  rw [ShutdownProcess.waitGraceOutcome, extended.grace completion published]
  rfl

theorem Extends.waitFinal (extended : process.Extends after)
    {result : Except ShutdownWaitError ShutdownReport}
    (answered : process.waitFinal = some result) : after.waitFinal = some result := by
  obtain ⟨published, final, rfl⟩ := Option.map_eq_some_iff.1 answered
  rw [ShutdownProcess.waitFinal, extended.final published final]
  rfl

end ShutdownProcess

/-- The lifecycle while the supervisor is in a phase. -/
def ShutdownPhase.lifecycle : ShutdownPhase → BeaverLifecycle
  | .ended => .stopped
  | _ => .shuttingDown

namespace Beaver

variable {config : BeaverConfig} {s t : Beaver} {process : ShutdownProcess}
  {supervisor : ShutdownSupervisor}

/-! ## The supervisor -/

/-- What a move of the supervisor does to what everybody shares. -/
structure Publishes (s : Beaver) (process : ShutdownProcess) (t : Beaver) : Prop where
  slotHolder : t.slotHolder = s.slotHolder
  creations : t.shutdownProcessCreations = s.shutdownProcessCreations
  shutdowns : t.shutdowns = s.shutdowns
  holder : t.lifecycleHolder = s.lifecycleHolder
  published : ∃ after next, t.shutdownProcess = some after ∧ t.supervisor = some next ∧
    process.Extends after ∧ after.Coherent next.phase ∧ t.lifecycle = next.phase.lifecycle

/-- A move that publishes nothing. -/
theorem Publishes.moveTo {between : Beaver} {next : ShutdownSupervisor} {phase : ShutdownPhase}
    (same : between.shutdownProcess = s.shutdownProcess ∧ between.slotHolder = s.slotHolder ∧
      between.shutdownProcessCreations = s.shutdownProcessCreations ∧
      between.shutdowns = s.shutdowns ∧ between.lifecycleHolder = s.lifecycleHolder ∧
      between.lifecycle = s.lifecycle)
    (slot : s.shutdownProcess = some process) (lifecycle : s.lifecycle = phase.lifecycle)
    (coherent : process.Coherent phase) : Publishes s process (between.moveTo next phase) :=
  have ⟨process_eq, slotHolder, creations, shutdowns, holder, lifecycle_eq⟩ := same
  ⟨slotHolder, creations, shutdowns, holder, process, _, process_eq.trans slot, rfl,
    .refl process, coherent, lifecycle_eq.trans lifecycle⟩

/-- A move of the supervisor alone. -/
theorem Publishes.proceed {next : ShutdownSupervisor} {phase : ShutdownPhase}
    (slot : s.shutdownProcess = some process) (lifecycle : s.lifecycle = phase.lifecycle)
    (coherent : process.Coherent phase) : Publishes s process (s.moveTo next phase) :=
  .moveTo ⟨rfl, rfl, rfl, rfl, rfl, rfl⟩ slot lifecycle coherent

/-- A move that writes to the process. -/
theorem Publishes.publish {write : ShutdownProcess → ShutdownProcess} {next : ShutdownSupervisor}
    {phase : ShutdownPhase} (slot : s.shutdownProcess = some process)
    (lifecycle : s.lifecycle = phase.lifecycle) (extended : process.Extends (write process))
    (coherent : (write process).Coherent phase) :
    Publishes s process ((s.publish write).moveTo next phase) :=
  ⟨rfl, rfl, rfl, rfl, write process, _, by rw [Beaver.moveTo, Beaver.publish, slot]; rfl, rfl,
    extended, coherent, lifecycle⟩

theorem lifecycle_of_not_final {phase : ShutdownPhase} (before : phase.isFinal = false) :
    phase.lifecycle = .shuttingDown := by
  cases phase with
  | ended => cases before
  | _ => rfl

/-- The completion moves on in its phase, or gives the report its summaries. -/
theorem phase_of_complete {after : ShutdownSupervisor}
    (completed : s.complete supervisor = some after) :
    after.phase = supervisor.phase ∨
      after.phase = .reporting supervisor.initial supervisor.summaries [] := by
  unfold complete at completed
  split at completed
  · obtain ⟨summary, -, rfl⟩ := Option.map_eq_some_iff.1 completed
    exact Or.inl rfl
  · obtain ⟨failure, -, rfl⟩ := Option.map_eq_some_iff.1 completed
    exact Or.inl rfl
  · exact Or.inr (Option.some.inj completed ▸ rfl)

/-- **Step lemma** of the supervisor, for what everybody shares. -/
theorem SupervisorMoved.publishes (moved : SupervisorMoved config s process supervisor t)
    (slot : s.shutdownProcess = some process)
    (coherent : process.Coherent supervisor.phase)
    (lifecycle : s.lifecycle = supervisor.phase.lifecycle) : Publishes s process t := by
  cases moved with
  | dropped before =>
    rw [lifecycle_of_not_final before] at lifecycle
    exact .proceed slot lifecycle (coherent.undecided before)
  | takeDefault here =>
    rw [here] at coherent lifecycle
    exact .moveTo ⟨rfl, rfl, rfl, rfl, rfl, rfl⟩ slot lifecycle coherent
  | drain here perm =>
    rw [here] at coherent lifecycle
    exact .moveTo ⟨rfl, rfl, rfl, rfl, rfl, rfl⟩ slot lifecycle coherent
  | release here step =>
    rw [here] at coherent lifecycle
    obtain ⟨legacy, steps, rfl, -⟩ := releaseDam_eq step
    exact .moveTo ⟨rfl, rfl, rfl, rfl, rfl, rfl⟩ slot lifecycle coherent
  | released here =>
    rw [here] at coherent lifecycle
    exact .proceed slot lifecycle coherent
  | collect here all =>
    rw [here] at coherent lifecycle
    exact .proceed slot lifecycle coherent
  | closeLane here step =>
    rw [here] at coherent lifecycle
    cases process.options.mode with
    | cancelAll => exact .moveTo ⟨rfl, rfl, rfl, rfl, rfl, rfl⟩ slot lifecycle coherent
    | drainFinite => exact .moveTo ⟨rfl, rfl, rfl, rfl, rfl, rfl⟩ slot lifecycle coherent
  | closed here =>
    rw [here] at coherent lifecycle
    exact .proceed slot lifecycle coherent
  | @cancelLane control controls lanes here =>
    rw [here] at coherent lifecycle
    obtain ⟨executor, cancelled, -⟩ := cancel_eq config s control .executorShutdown
    rw [cancelled]
    exact .moveTo ⟨rfl, rfl, rfl, rfl, rfl, rfl⟩ slot lifecycle coherent
  | cancelledLane here =>
    rw [here] at coherent lifecycle
    exact .proceed slot lifecycle coherent
  | @cancel control snapshot rest here =>
    rw [here] at coherent lifecycle
    obtain ⟨executor, cancelled, -⟩ :=
      cancelInitial_eq config s process.options.mode control snapshot
    rw [cancelled]
    exact .moveTo ⟨rfl, rfl, rfl, rfl, rfl, rfl⟩ slot lifecycle coherent
  | cancelled here =>
    rw [here] at coherent lifecycle
    exact .proceed slot lifecycle coherent
  | take here =>
    rw [here] at coherent lifecycle
    exact .moveTo ⟨rfl, rfl, rfl, rfl, rfl, rfl⟩ slot lifecycle coherent
  | arm here armed waits =>
    rw [here] at coherent lifecycle
    rcases armed with rfl | rfl | rfl
    · exact .proceed slot lifecycle (ShutdownProcess.IsFresh.undecided coherent)
    · exact .proceed slot lifecycle coherent
    · exact .proceed slot lifecycle coherent
  | timerUnavailable here =>
    rw [here] at coherent lifecycle
    refine .publish slot lifecycle (ShutdownProcess.extends_settleGrace _) ⟨coherent.2, ?_⟩
    intro report published
    rcases ShutdownProcess.of_settleGrace published with earlier | new
    · rw [coherent.1] at earlier
      cases earlier
    · cases new
  | @await after here completed =>
    have open_ : process.Undecided ∧ s.lifecycle = .shuttingDown := by
      rcases here with racing | settling
      · rw [racing] at coherent lifecycle
        exact ⟨ShutdownProcess.IsFresh.undecided coherent, lifecycle⟩
      · rw [settling] at coherent lifecycle
        exact ⟨coherent, lifecycle⟩
    refine ⟨rfl, rfl, rfl, rfl, process, after, slot, rfl, .refl process, ?_⟩
    rcases phase_of_complete completed with same | reporting
    · rw [same]
      exact ⟨coherent, lifecycle⟩
    · rw [reporting]
      exact open_
  | fire here due pending =>
    rw [here] at coherent lifecycle
    exact .proceed slot lifecycle coherent
  | filter here =>
    rw [here] at coherent lifecycle
    exact .proceed slot lifecycle coherent
  | filtered here next =>
    rw [here] at coherent lifecycle
    rcases next with rfl | rfl
    · exact .proceed slot lifecycle coherent
    · exact .proceed slot lifecycle coherent
  | force here forced =>
    rw [here] at coherent lifecycle
    exact .proceed slot lifecycle coherent
  | forcedAll here =>
    rw [here] at coherent lifecycle
    exact .proceed slot lifecycle coherent
  | record here found =>
    rw [here] at coherent lifecycle
    exact .proceed slot lifecycle coherent
  | recorded here =>
    rw [here] at coherent lifecycle
    exact .proceed slot lifecycle coherent
  | publishTimeout here =>
    rw [here] at coherent lifecycle
    refine .publish slot lifecycle ⟨rfl, rfl, ?_, fun _ published => published⟩ ⟨coherent.2, ?_⟩
    · intro completion published
      rw [coherent.1] at published
      cases published
    · intro report published
      cases published
  | report here =>
    rw [here] at coherent lifecycle
    exact .proceed slot lifecycle coherent
  | reportLate here waited =>
    rw [here] at coherent lifecycle
    exact .proceed slot lifecycle coherent
  | reported here =>
    rw [here] at coherent lifecycle
    exact .proceed slot lifecycle coherent
  | publishGrace here =>
    rw [here] at coherent lifecycle
    refine .publish slot lifecycle (ShutdownProcess.extends_settleGrace _)
      ⟨coherent.1, ShutdownProcess.settleGrace_ne_none _, ?_⟩
    intro other published
    rcases ShutdownProcess.of_settleGrace published with earlier | new
    · exact (coherent.2 other earlier).elim
    · exact (GraceCompletion.stopped.inj new).symm
  | @publishFinal report here =>
    rw [here] at coherent lifecycle
    exact .publish slot lifecycle (ShutdownProcess.extends_settleFinal coherent.1 _)
      ⟨report, rfl, coherent.2⟩
  | failGrace here =>
    rw [here] at coherent lifecycle
    refine .publish slot lifecycle (ShutdownProcess.extends_settleGrace _)
      ⟨⟨coherent.1, ?_⟩, ShutdownProcess.settleGrace_ne_none _⟩
    intro report published
    rcases ShutdownProcess.of_settleGrace published with earlier | new
    · exact coherent.2 report earlier
    · cases new
  | failFinal here =>
    rw [here] at coherent lifecycle
    exact .publish slot lifecycle (ShutdownProcess.extends_settleFinal coherent.1.1 _)
      ⟨rfl, coherent.2, coherent.1.2⟩
  | stop here =>
    refine ⟨rfl, rfl, rfl, rfl, process, _, slot, rfl, .refl process, ?_, rfl⟩
    rcases here with finishing | failing
    · rw [finishing] at coherent
      obtain ⟨report, final, grace, promised⟩ := coherent
      exact ⟨.ok report, final, grace, fun other published => by rw [promised other published]⟩
    · rw [failing] at coherent
      obtain ⟨final, grace, unpromised⟩ := coherent
      exact ⟨_, final, grace, fun report published => (unpromised report published).elim⟩

/-! ## The stages of a shutdown -/

/-- No call of `shutdown` has the lifecycle lock. -/
def Unaccepting (s : Beaver) : Prop := ∀ caller, s.lifecycleHolder ≠ some (.accepting caller)

/-- How far the shutdown is: nobody has begun, a call has the slot, a call is preparing the
supervisor, the supervisor runs or has run. -/
inductive Stage (s : Beaver) : Prop
  | idle :
    s.slotHolder = none → s.shutdownProcess = none → s.supervisor = none →
    s.shutdownProcessCreations = 0 → s.lifecycle = .running → s.Unaccepting →
    s.shutdowns.Nobody (fun call => call.isBusy = true) → Stage s
  | created {caller : Nat} {process : ShutdownProcess} :
    s.slotHolder = some caller → s.shutdownProcess = none → s.supervisor = none →
    s.shutdownProcessCreations = 1 → s.lifecycle = .running → s.Unaccepting →
    s.shutdowns.Sole (fun call => call.isBusy = true) caller →
    s.shutdowns caller = some (.created process) → process.IsFresh → Stage s
  | accepted {caller : Nat} {process : ShutdownProcess} :
    s.slotHolder = some caller → s.shutdownProcess = none → s.supervisor = none →
    s.shutdownProcessCreations = 1 → s.lifecycle = .shuttingDown →
    s.lifecycleHolder = some (.accepting caller) →
    s.shutdowns.Sole (fun call => call.isBusy = true) caller →
    s.shutdowns caller = some (.accepted process) → process.IsFresh → Stage s
  | preparing {caller : Nat} {process : ShutdownProcess} {rest : List ExecutionId}
      {initial : List (ExecutionId × TaskSnapshot)} :
    s.slotHolder = none → s.shutdownProcess = some process → s.supervisor = none →
    s.shutdownProcessCreations = 1 → s.lifecycle = .shuttingDown → s.Unaccepting →
    s.shutdowns.Sole (fun call => call.isBusy = true) caller →
    s.shutdowns caller = some (.preparing process.id rest initial) → process.IsFresh → Stage s
  | supervised {process : ShutdownProcess} {supervisor : ShutdownSupervisor} :
    s.slotHolder = none → s.shutdownProcess = some process → s.supervisor = some supervisor →
    s.shutdownProcessCreations = 1 → s.lifecycle = supervisor.phase.lifecycle → s.Unaccepting →
    s.shutdowns.Nobody (fun call => call.isBusy = true) →
    process.Coherent supervisor.phase → Stage s

/-- What a step never takes back. -/
structure Advances (s t : Beaver) : Prop where
  process : ∀ process, s.shutdownProcess = some process →
    ∃ after, t.shutdownProcess = some after ∧ process.Extends after
  lifecycle : t.lifecycle = s.lifecycle ∨
    (s.lifecycle = .running ∧ t.lifecycle = .shuttingDown) ∨
    (s.lifecycle = .shuttingDown ∧ t.lifecycle = .stopped)
  admission : s.executor.admissionOpen = false → t.executor.admissionOpen = false
  answers : ∀ caller result, s.shutdowns caller = some (.returned result) →
    t.shutdowns caller = some (.returned result)
  handles : (∀ caller id, s.shutdowns caller = some (.returned (.ok id)) →
      ∃ process, s.shutdownProcess = some process ∧ process.id = id) →
    ∀ caller id, t.shutdowns caller = some (.returned (.ok id)) →
      ∃ process, t.shutdownProcess = some process ∧ process.id = id

theorem Stage.aside (stage : s.Stage) (aside : Aside s t) : t.Stage ∧ Advances s t := by
  have unaccepting : s.Unaccepting → t.Unaccepting := fun free caller held =>
    free caller ((aside.accepting caller).1 held)
  have advances : Advances s t :=
    { process := fun process slot => ⟨process, aside.shutdownProcess.trans slot, .refl process⟩
      lifecycle := Or.inl aside.lifecycle
      admission := fun closed => aside.admission.trans closed
      answers := fun caller result answered => by rw [aside.shutdowns, answered]
      handles := fun handles => by rw [aside.shutdowns, aside.shutdownProcess]; exact handles }
  refine ⟨?_, advances⟩
  cases stage with
  | idle slot process supervisor creations lifecycle free nobody =>
    exact .idle (aside.slotHolder.trans slot) (aside.shutdownProcess.trans process)
      (aside.supervisor.trans supervisor) (aside.creations.trans creations)
      (aside.lifecycle.trans lifecycle) (unaccepting free) (aside.shutdowns ▸ nobody)
  | created slot process supervisor creations lifecycle free sole here fresh =>
    exact .created (aside.slotHolder.trans slot) (aside.shutdownProcess.trans process)
      (aside.supervisor.trans supervisor) (aside.creations.trans creations)
      (aside.lifecycle.trans lifecycle) (unaccepting free) (aside.shutdowns ▸ sole)
      (aside.shutdowns ▸ here) fresh
  | accepted slot process supervisor creations lifecycle held sole here fresh =>
    exact .accepted (aside.slotHolder.trans slot) (aside.shutdownProcess.trans process)
      (aside.supervisor.trans supervisor) (aside.creations.trans creations)
      (aside.lifecycle.trans lifecycle) ((aside.accepting _).2 held) (aside.shutdowns ▸ sole)
      (aside.shutdowns ▸ here) fresh
  | preparing slot process supervisor creations lifecycle free sole here fresh =>
    exact .preparing (aside.slotHolder.trans slot) (aside.shutdownProcess.trans process)
      (aside.supervisor.trans supervisor) (aside.creations.trans creations)
      (aside.lifecycle.trans lifecycle) (unaccepting free) (aside.shutdowns ▸ sole)
      (aside.shutdowns ▸ here) fresh
  | supervised slot process supervisor creations lifecycle free nobody coherent =>
    exact .supervised (aside.slotHolder.trans slot) (aside.shutdownProcess.trans process)
      (aside.supervisor.trans supervisor) (aside.creations.trans creations)
      (aside.lifecycle.trans lifecycle) (unaccepting free) (aside.shutdowns ▸ nobody) coherent

/-- A call that is not busy has another record, and is not busy. -/
theorem Stage.setShutdown (stage : s.Stage) {caller : Nat} {call : ShutdownCall}
    (before : ∀ busy, s.shutdowns caller = some busy → busy.isBusy = false)
    (after : call.isBusy = false) : (s.setShutdown caller call).Stage := by
  have others : ∀ {holder : Nat} {busy : ShutdownCall}, s.shutdowns holder = some busy →
      busy.isBusy = true → (s.shutdowns.set caller call) holder = some busy := by
    intro holder busy here isBusy
    have other : holder ≠ caller := by
      rintro rfl
      rw [before busy here] at isBusy
      cases isBusy
    rw [Pool.set_of_ne other, here]
  have nobody : s.shutdowns.Nobody (fun call => call.isBusy = true) →
      (s.shutdowns.set caller call).Nobody (fun call => call.isBusy = true) :=
    fun nobody => nobody.set (by simp [after])
  have sole : ∀ {holder : Nat}, s.shutdowns.Sole (fun call => call.isBusy = true) holder →
      (s.shutdowns.set caller call).Sole (fun call => call.isBusy = true) holder := by
    intro holder sole
    obtain ⟨busy, here, isBusy⟩ := sole.holds
    refine ⟨⟨busy, others here isBusy, isBusy⟩, fun other record found isBusy => ?_⟩
    rcases Pool.of_set_eq_some found with ⟨-, rfl⟩ | ⟨-, old⟩
    · rw [after] at isBusy
      cases isBusy
    · exact sole.only other record old isBusy
  cases stage with
  | idle slot process supervisor creations lifecycle free none =>
    exact .idle slot process supervisor creations lifecycle free (nobody none)
  | created slot process supervisor creations lifecycle free one here fresh =>
    exact .created slot process supervisor creations lifecycle free (sole one) (others here rfl)
      fresh
  | accepted slot process supervisor creations lifecycle held one here fresh =>
    exact .accepted slot process supervisor creations lifecycle held (sole one) (others here rfl)
      fresh
  | preparing slot process supervisor creations lifecycle free one here fresh =>
    exact .preparing slot process supervisor creations lifecycle free (sole one) (others here rfl)
      fresh
  | supervised slot process supervisor creations lifecycle free none coherent =>
    exact .supervised slot process supervisor creations lifecycle free (nobody none) coherent

/-- A record of a call that had no answer is the whole change. -/
theorem Advances.setShutdown {caller : Nat} {call : ShutdownCall}
    (unanswered : ∀ result, s.shutdowns caller ≠ some (.returned result))
    (handle : ∀ id, call = .returned (.ok id) →
      ∃ process, s.shutdownProcess = some process ∧ process.id = id) :
    Advances s (s.setShutdown caller call) where
  process := fun process slot => ⟨process, slot, .refl process⟩
  lifecycle := Or.inl rfl
  admission := id
  answers := by
    intro other result answered
    have apart : other ≠ caller := by
      rintro rfl
      exact unanswered result answered
    exact (Pool.set_of_ne apart).trans answered
  handles := by
    intro handles other id answered
    rcases Pool.of_set_eq_some answered with ⟨-, rfl⟩ | ⟨-, old⟩
    · exact handle id rfl
    · exact handles other id old

theorem Stage.callShutdown (stage : s.Stage) {caller : Nat} {options : ShutdownOptions}
    {call : ShutdownCall} (fresh : s.shutdowns caller = none)
    (answer : call = .validated options ∨ call = .returned (.error .invalidGracePeriod)) :
    (s.setShutdown caller call).Stage ∧ Advances s (s.setShutdown caller call) := by
  refine ⟨stage.setShutdown (fun busy here => ?_) ?_, .setShutdown (fun result => ?_) ?_⟩
  · rw [fresh] at here
    cases here
  · rcases answer with rfl | rfl <;> rfl
  · simp [fresh]
  · intro id answered
    rcases answer with rfl | rfl <;> cases answered

/-- The section on the slot. -/
theorem Stage.lockSlot (stage : s.Stage) {caller : Nat} {options : ShutdownOptions}
    {now : Instant} (here : s.shutdowns caller = some (.validated options))
    (step : s.lockSlot config caller options now = some t) : t.Stage ∧ Advances s t := by
  have idle : ∀ busy, s.shutdowns caller = some busy → busy.isBusy = false := by
    intro busy found
    obtain rfl := Option.some.inj (here.symm.trans found)
    rfl
  have unanswered : ∀ result, s.shutdowns caller ≠ some (.returned result) := by simp [here]
  unfold Beaver.lockSlot at step
  split at step
  · rename_i slot
    split at step
    · rename_i existing found
      split at step
      · obtain rfl := Option.some.inj step
        refine ⟨stage.setShutdown idle rfl, .setShutdown unanswered fun id answered => ?_⟩
        split at answered
        · cases answered
          exact ⟨existing, found, rfl⟩
        · cases answered
      · cases step
    · rename_i empty
      split at step
      · obtain rfl := Option.some.inj step
        exact ⟨stage.setShutdown idle rfl, .setShutdown unanswered fun id answered => by
          cases answered⟩
      · rename_i process made
        obtain rfl := Option.some.inj step
        have fresh : process.IsFresh := by
          obtain ⟨deadline, -, rfl⟩ := Option.map_eq_some_iff.1 made
          exact ⟨rfl, rfl⟩
        cases stage with
        | idle slot noProcess supervisor creations lifecycle free nobody =>
          refine ⟨.created rfl noProcess supervisor (by simp [Beaver.setShutdown, creations])
            lifecycle free (nobody.set_sole rfl) Pool.set_self fresh, ?_⟩
          have advances : Advances s (s.setShutdown caller (.created process)) :=
            .setShutdown unanswered fun id answered => by cases answered
          exact ⟨advances.process, advances.lifecycle, advances.admission, advances.answers,
            advances.handles⟩
        | created held => rw [slot] at held; cases held
        | accepted held => rw [slot] at held; cases held
        | preparing _ found => rw [empty] at found; cases found
        | supervised _ found => rw [empty] at found; cases found
  · cases step

/-- The section on the lifecycle. -/
theorem Stage.acceptShutdown (stage : s.Stage) {caller : Nat}
    (here : s.shutdowns caller = some (.created process))
    (step : s.acceptShutdown config caller process = some t) : t.Stage ∧ Advances s t := by
  cases stage with
  | @created holder found slot noProcess supervisor creations lifecycle free sole there fresh =>
    obtain rfl := sole.only caller _ here rfl
    obtain rfl := ShutdownCall.created.inj (Option.some.inj (here.symm.trans there))
    simp only [Beaver.acceptShutdown, lifecycle] at step
    split at step
    · obtain ⟨executor, closed, rfl⟩ := Option.map_eq_some_iff.1 step
      have advances : Advances s (s.setShutdown caller (.accepted process)) :=
        .setShutdown (by simp [here]) fun id answered => by cases answered
      refine ⟨.accepted slot noProcess supervisor creations rfl rfl
        (sole.set_iff here (by simp [ShutdownCall.isBusy])) Pool.set_self fresh,
        advances.process, Or.inr (Or.inl ⟨lifecycle, rfl⟩), fun _ => ?_, advances.answers,
        advances.handles⟩
      simp only [Executor.step] at closed
      split at closed
      · exact Option.some.inj closed ▸ rfl
      · cases closed
    · cases step
  | idle _ _ _ _ _ _ nobody => exact (nobody caller _ here rfl).elim
  | accepted _ _ _ _ _ _ sole there =>
    obtain rfl := sole.only caller _ here rfl
    cases here.symm.trans there
  | preparing _ _ _ _ _ _ sole there =>
    obtain rfl := sole.only caller _ here rfl
    cases here.symm.trans there
  | supervised _ _ _ _ _ _ nobody => exact (nobody caller _ here rfl).elim

/-- The snapshot of the registry, and the slot. -/
theorem Stage.writeSlot (stage : s.Stage) {caller : Nat} {controls : List ExecutionId}
    (here : s.shutdowns caller = some (.accepted process)) :
    ({ s with
      lifecycleHolder := none
      slotHolder := none
      shutdownProcess := some process }.setShutdown caller
        (.preparing process.id controls [])).Stage ∧
    Advances s ({ s with
      lifecycleHolder := none
      slotHolder := none
      shutdownProcess := some process }.setShutdown caller
        (.preparing process.id controls [])) := by
  cases stage with
  | accepted slot noProcess supervisor creations lifecycle held sole there fresh =>
    obtain rfl := sole.only caller _ here rfl
    obtain rfl := ShutdownCall.accepted.inj (Option.some.inj (here.symm.trans there))
    have advances : Advances s (s.setShutdown caller (.preparing process.id controls [])) :=
      .setShutdown (by simp [here]) fun id answered => by cases answered
    refine ⟨.preparing rfl rfl supervisor creations lifecycle
      (fun holder accepting => by cases accepting)
      (sole.set_iff here (by simp [ShutdownCall.isBusy])) Pool.set_self fresh,
      fun earlier found => ?_, advances.lifecycle, advances.admission, advances.answers,
      fun handles other id answered => ?_⟩
    · rw [noProcess] at found
      cases found
    · obtain ⟨earlier, found, -⟩ := advances.handles handles other id answered
      exact absurd (noProcess.symm.trans found) (by simp)
  | idle _ _ _ _ _ _ nobody => exact (nobody caller _ here rfl).elim
  | created _ _ _ _ _ _ sole there =>
    obtain rfl := sole.only caller _ here rfl
    cases here.symm.trans there
  | preparing _ _ _ _ _ _ sole there =>
    obtain rfl := sole.only caller _ here rfl
    cases here.symm.trans there
  | supervised _ _ _ _ _ _ nobody => exact (nobody caller _ here rfl).elim

/-- The accepting call takes its snapshots, or starts the supervisor. -/
theorem Stage.prepare (stage : s.Stage) {caller id : Nat} {rest : List ExecutionId}
    {initial : List (ExecutionId × TaskSnapshot)}
    (here : s.shutdowns caller = some (.preparing id rest initial)) :
    (∀ rest initial, (s.setShutdown caller (.preparing id rest initial)).Stage ∧
      Advances s (s.setShutdown caller (.preparing id rest initial))) ∧
    ∀ phase, phase = .spawned ∨ phase = .failing →
      ({ s with supervisor := some (newSupervisor phase initial) }.setShutdown caller
        (.returned (.ok id))).Stage ∧
      Advances s ({ s with supervisor := some (newSupervisor phase initial) }.setShutdown caller
        (.returned (.ok id))) := by
  cases stage with
  | @preparing holder process _ _ slot found supervisor creations lifecycle free sole there fresh =>
    obtain rfl := sole.only caller _ here rfl
    obtain ⟨rfl, rfl, rfl⟩ := ShutdownCall.preparing.inj (Option.some.inj (here.symm.trans there))
    refine ⟨fun rest initial => ⟨?_, ?_⟩, fun phase begins => ⟨?_, ?_⟩⟩
    · exact .preparing slot found supervisor creations lifecycle free
        (sole.set_iff here (by simp [ShutdownCall.isBusy])) Pool.set_self fresh
    · exact .setShutdown (by simp [here]) fun id answered => by cases answered
    · refine .supervised slot found rfl creations ?_ free (fun other record other_ => ?_) ?_
      · rcases begins with rfl | rfl <;> exact lifecycle
      · rcases Pool.of_set_eq_some other_ with ⟨-, rfl⟩ | ⟨apart, old⟩
        · simp [ShutdownCall.isBusy]
        · exact fun isBusy => apart (sole.only other record old isBusy)
      · rcases begins with rfl | rfl
        · exact fresh
        · exact ShutdownProcess.IsFresh.undecided fresh
    · have advances : Advances s (s.setShutdown caller (.returned (.ok process.id))) :=
        .setShutdown (by simp [here]) fun id answered => ⟨process, found, by cases answered; rfl⟩
      exact ⟨advances.process, advances.lifecycle, advances.admission, advances.answers,
        advances.handles⟩
  | idle _ _ _ _ _ _ nobody => exact (nobody caller _ here rfl).elim
  | created _ _ _ _ _ _ sole there =>
    obtain rfl := sole.only caller _ here rfl
    cases here.symm.trans there
  | accepted _ _ _ _ _ _ sole there =>
    obtain rfl := sole.only caller _ here rfl
    cases here.symm.trans there
  | supervised _ _ _ _ _ _ nobody => exact (nobody caller _ here rfl).elim

theorem Stage.shutdownStep (stage : s.Stage) {caller : Nat} {call : ShutdownCall}
    {event : ShutdownEvent} (here : s.shutdowns caller = some call)
    (step : s.shutdownStep config caller call event = some t) : t.Stage ∧ Advances s t := by
  unfold Beaver.shutdownStep at step
  split at step
  · exact stage.lockSlot here step
  · exact stage.acceptShutdown here step
  · split at step
    · exact Option.some.inj step ▸ stage.writeSlot here
    · cases step
  · obtain ⟨snapshot, -, rfl⟩ := Option.map_eq_some_iff.1 step
    exact (stage.prepare here).1 _ _
  · rename_i id initial available
    refine Option.some.inj step ▸ (stage.prepare here).2 _ ?_
    cases available with
    | true => exact Or.inl rfl
    | false => exact Or.inr rfl
  · cases step

theorem phase_ne_ended (moved : SupervisorMoved config s process supervisor t) :
    supervisor.phase ≠ .ended := by
  intro ended
  cases moved with
  | dropped before =>
    rw [ended] at before
    cases before
  | await here completed => rcases here with here | here <;> rw [ended] at here <;> cases here
  | stop here => rcases here with here | here <;> rw [ended] at here <;> cases here
  | _ =>
    rename supervisor.phase = _ => here
    rw [ended] at here
    cases here

theorem Stage.supervisorStep (stage : s.Stage) {event : SupervisorEvent}
    (slot : s.shutdownProcess = some process) (running : s.supervisor = some supervisor)
    (step : s.supervisorStep config process supervisor event = some t) :
    t.Stage ∧ Advances s t := by
  have moved := SupervisorMoved.of_supervisorStep step
  cases stage with
  | supervised noSlot found present creations lifecycle free nobody coherent =>
    obtain rfl := Option.some.inj (slot.symm.trans found)
    obtain rfl := Option.some.inj (running.symm.trans present)
    have shutting : supervisor.phase.lifecycle = .shuttingDown := by
      have unended := phase_ne_ended moved
      cases phase : supervisor.phase with
      | ended => exact (unended phase).elim
      | _ => rfl
    have published := moved.publishes slot coherent lifecycle
    obtain ⟨after, next, written, follows, extended, coherent', lifecycle'⟩ := published.published
    refine ⟨.supervised (published.slotHolder.trans noSlot) written follows
      (published.creations.trans creations) lifecycle'
      (fun caller held => free caller (published.holder.symm.trans held))
      (published.shutdowns ▸ nobody) coherent', ?_⟩
    refine ⟨fun earlier there => ?_, ?_, fun closed => ?_, fun caller result answered => ?_,
      fun handles caller id answered => ?_⟩
    · obtain rfl := Option.some.inj (slot.symm.trans there)
      exact ⟨after, written, extended⟩
    · rw [lifecycle', lifecycle, shutting]
      cases next.phase with
      | ended => exact Or.inr (Or.inr ⟨rfl, rfl⟩)
      | _ => exact Or.inl rfl
    · exact moved.ran.admissionOpen.trans closed
    · rw [published.shutdowns, answered]
    · obtain ⟨earlier, there, same⟩ := handles caller id (published.shutdowns ▸ answered)
      obtain rfl := Option.some.inj (slot.symm.trans there)
      exact ⟨after, written, extended.id.trans same⟩
  | idle _ _ absent => exact absurd (running.symm.trans absent) (by simp)
  | created _ _ absent => exact absurd (running.symm.trans absent) (by simp)
  | accepted _ _ absent => exact absurd (running.symm.trans absent) (by simp)
  | preparing _ _ absent => exact absurd (running.symm.trans absent) (by simp)

/-- **Step lemma.** -/
theorem Stage.step (stage : s.Stage) {action : BeaverAction}
    (step : s.step config action = some t) : t.Stage ∧ Advances s t := by
  cases Moved.of_step step with
  | outside _ moved => exact stage.aside moved.aside
  | callShutdown fresh answer => exact stage.callShutdown fresh answer
  | shutdown here moved => exact stage.shutdownStep here moved
  | supervisor slot running moved => exact stage.supervisorStep slot running moved

/-! ## Runs -/

theorem stage_of_reaches {ok : Beaver → BeaverAction → Prop}
    (reached : (beaver config).Reaches ok (beaver config).init s) : s.Stage :=
  reached.invariant
    (.idle rfl rfl rfl rfl rfl (fun _ held => by cases held) (fun _ _ found => by cases found))
    fun stage _ step => (stage.step step).1

/-- The process that is there stays, with what it has published. -/
theorem process_of_reaches {ok : Beaver → BeaverAction → Prop} (stage : s.Stage)
    (run : (beaver config).Reaches ok s t) (slot : s.shutdownProcess = some process) :
    ∃ after, t.shutdownProcess = some after ∧ process.Extends after := by
  have kept : t.Stage ∧ ∃ after, t.shutdownProcess = some after ∧ process.Extends after := by
    induction run with
    | refl => exact ⟨stage, process, slot, .refl process⟩
    | tail _ _ step ih =>
      obtain ⟨stage, between, found, extended⟩ := ih
      obtain ⟨stage', advances⟩ := stage.step step
      obtain ⟨after, found', extended'⟩ := advances.process between found
      exact ⟨stage', after, found', extended.trans extended'⟩
  exact kept.2

theorem closed_of_reaches {ok : Beaver → BeaverAction → Prop} (stage : s.Stage)
    (run : (beaver config).Reaches ok s t) (closed : s.executor.admissionOpen = false) :
    t.executor.admissionOpen = false := by
  have kept : t.Stage ∧ t.executor.admissionOpen = false := by
    induction run with
    | refl => exact ⟨stage, closed⟩
    | tail _ _ step ih =>
      obtain ⟨stage', advances⟩ := ih.1.step step
      exact ⟨stage', advances.admission ih.2⟩
  exact kept.2

theorem handles_of_reaches {ok : Beaver → BeaverAction → Prop}
    (reached : (beaver config).Reaches ok (beaver config).init s) :
    ∀ caller id, s.shutdowns caller = some (.returned (.ok id)) →
      ∃ process, s.shutdownProcess = some process ∧ process.id = id := by
  induction reached with
  | refl =>
    intro caller id answered
    cases answered
  | tail before _ step ih => exact ((stage_of_reaches before).step step).2.handles ih

theorem Stage.creations_le (stage : s.Stage) : s.shutdownProcessCreations ≤ 1 := by
  cases stage with
  | idle _ _ _ creations => omega
  | created _ _ _ creations => omega
  | accepted _ _ _ creations => omega
  | preparing _ _ _ creations => omega
  | supervised _ _ _ creations => omega

/-- A process is there only when the lifecycle has moved on. -/
theorem Stage.lifecycle_ne_running (stage : s.Stage) (slot : s.shutdownProcess = some process) :
    s.lifecycle ≠ .running := by
  cases stage with
  | idle _ absent => exact absurd (slot.symm.trans absent) (by simp)
  | created _ absent => exact absurd (slot.symm.trans absent) (by simp)
  | accepted _ absent => exact absurd (slot.symm.trans absent) (by simp)
  | preparing _ _ _ _ lifecycle => simp [lifecycle]
  | @supervised _ running _ _ _ _ lifecycle =>
    rw [lifecycle]
    cases running.phase <;> simp [ShutdownPhase.lifecycle]

/-- What is published fits the phase of the supervisor. -/
theorem Stage.coherent (stage : s.Stage) (slot : s.shutdownProcess = some process)
    (running : s.supervisor = some supervisor) : process.Coherent supervisor.phase := by
  cases stage with
  | idle _ _ absent => exact absurd (running.symm.trans absent) (by simp)
  | created _ _ absent => exact absurd (running.symm.trans absent) (by simp)
  | accepted _ _ absent => exact absurd (running.symm.trans absent) (by simp)
  | preparing _ _ absent => exact absurd (running.symm.trans absent) (by simp)
  | supervised _ found present _ _ _ _ coherent =>
    obtain rfl := Option.some.inj (slot.symm.trans found)
    obtain rfl := Option.some.inj (running.symm.trans present)
    exact coherent

/-- A final result has its supervisor. -/
theorem Stage.exists_supervisor (stage : s.Stage) (slot : s.shutdownProcess = some process)
    (final : process.finalReport ≠ none) : ∃ supervisor, s.supervisor = some supervisor := by
  cases stage with
  | idle _ absent => exact absurd (slot.symm.trans absent) (by simp)
  | created _ absent => exact absurd (slot.symm.trans absent) (by simp)
  | accepted _ absent => exact absurd (slot.symm.trans absent) (by simp)
  | preparing _ found _ _ _ _ _ _ fresh =>
    obtain rfl := Option.some.inj (slot.symm.trans found)
    exact absurd fresh.2 final
  | supervised _ _ present => exact ⟨_, present⟩

/-- A supervisor has its process. -/
theorem Stage.exists_process (stage : s.Stage) (running : s.supervisor = some supervisor) :
    ∃ process, s.shutdownProcess = some process := by
  cases stage with
  | idle _ _ absent => exact absurd (running.symm.trans absent) (by simp)
  | created _ _ absent => exact absurd (running.symm.trans absent) (by simp)
  | accepted _ _ absent => exact absurd (running.symm.trans absent) (by simp)
  | preparing _ _ absent => exact absurd (running.symm.trans absent) (by simp)
  | supervised _ found => exact ⟨_, found⟩

/-- The accepting call has a fresh process, and the lifecycle lock. -/
theorem Stage.of_accepted (stage : s.Stage) {caller : Nat}
    (here : s.shutdowns caller = some (.accepted process)) :
    process.IsFresh ∧ s.lifecycleHolder = some (.accepting caller) := by
  cases stage with
  | accepted _ _ _ _ _ held sole there fresh =>
    obtain rfl := sole.only caller _ here rfl
    obtain rfl := ShutdownCall.accepted.inj (Option.some.inj (here.symm.trans there))
    exact ⟨fresh, held⟩
  | idle _ _ _ _ _ _ nobody => exact (nobody caller _ here rfl).elim
  | created _ _ _ _ _ _ sole there =>
    obtain rfl := sole.only caller _ here rfl
    cases here.symm.trans there
  | preparing _ _ _ _ _ _ sole there =>
    obtain rfl := sole.only caller _ here rfl
    cases here.symm.trans there
  | supervised _ _ _ _ _ _ nobody => exact (nobody caller _ here rfl).elim

/-- Nobody supervises while a call is on its way. -/
theorem Stage.supervisor_of_busy (stage : s.Stage) {caller : Nat} {call : ShutdownCall}
    (here : s.shutdowns caller = some call) (busy : call.isBusy = true) :
    s.supervisor = none := by
  cases stage with
  | idle _ _ absent => exact absent
  | created _ _ absent => exact absent
  | accepted _ _ absent => exact absent
  | preparing _ _ absent => exact absent
  | supervised _ _ _ _ _ _ nobody => exact (nobody caller _ here busy).elim

/-- A process with a final result has a supervisor, and is coherent with it. -/
theorem Stage.agrees (stage : s.Stage) (slot : s.shutdownProcess = some process)
    {report : ShutdownReport} (stopped : process.grace = some (.stopped report))
    {result : Except String ShutdownReport} (final : process.finalReport = some result) :
    result = .ok report := by
  cases stage with
  | idle _ absent => exact absurd (slot.symm.trans absent) (by simp)
  | created _ absent => exact absurd (slot.symm.trans absent) (by simp)
  | accepted _ absent => exact absurd (slot.symm.trans absent) (by simp)
  | preparing _ found _ _ _ _ _ _ fresh =>
    obtain rfl := Option.some.inj (slot.symm.trans found)
    rw [fresh.2] at final
    cases final
  | supervised _ found _ _ _ _ _ coherent =>
    obtain rfl := Option.some.inj (slot.symm.trans found)
    exact coherent.agrees stopped final

/-- An existing process refuses other options, until the lifecycle is `Stopped`. -/
theorem conflict_of_step {caller : Nat} {options : ShutdownOptions} {now : Instant}
    (here : s.shutdowns caller = some (.validated options))
    (slot : s.shutdownProcess = some process) (unstopped : s.lifecycle ≠ .stopped)
    (other : options ≠ process.options)
    (step : s.step config (.shutdown caller (.proceed now)) = some t) :
    t = s.setShutdown caller
      (.returned (.error (.configConflict process.id process.options))) := by
  obtain ⟨call, found, moved⟩ := Option.bind_eq_some_iff.1 step
  obtain rfl := Option.some.inj (here.symm.trans found)
  simp only [Beaver.shutdownStep, Beaver.lockSlot, slot] at moved
  split at moved
  · split at moved
    · rw [if_neg (by rintro (stopped | same); exacts [unstopped stopped, other same.symm])] at moved
      exact (Option.some.inj moved).symm
    · cases moved
  · cases moved

/-! ## The result -/

/-- What all callers of `shutdown` can rely on in state `s`; `t` is any later state. -/
structure SharedBarrier (config : BeaverConfig) (s : Beaver) : Prop where
  sole : s.shutdownProcessCreations ≤ 1
  handles : ∀ caller id, s.shutdowns caller = some (.returned (.ok id)) →
    ∃ process, s.shutdownProcess = some process ∧ process.id = id
  validated : ∀ caller options now t,
    ShutdownProcess.validateOptions config.maxInstant options now = true →
    s.step config (.callShutdown caller options now) = some t →
    t = s.setShutdown caller (.validated options)
  conflict : ∀ caller options process now t, s.shutdowns caller = some (.validated options) →
    s.shutdownProcess = some process → s.lifecycle ≠ .stopped → options ≠ process.options →
    s.step config (.shutdown caller (.proceed now)) = some t →
    t = s.setShutdown caller (.returned (.error (.configConflict process.id process.options)))
  lifecycle : ∀ action t, s.step config action = some t → t.lifecycle = s.lifecycle ∨
    (s.lifecycle = .running ∧ t.lifecycle = .shuttingDown) ∨
    (s.lifecycle = .shuttingDown ∧ t.lifecycle = .stopped)
  admission : ∀ t, (beaver config).Reaches (fun _ _ => True) s t →
    s.executor.admissionOpen = false → t.executor.admissionOpen = false
  process : ∀ process t, s.shutdownProcess = some process →
    (beaver config).Reaches (fun _ _ => True) s t →
    ∃ after, t.shutdownProcess = some after ∧ after.id = process.id ∧
      after.options = process.options ∧
      (∀ outcome, process.waitGraceOutcome = some outcome →
        after.waitGraceOutcome = some outcome) ∧
      ∀ result, process.waitFinal = some result → after.waitFinal = some result
  agrees : ∀ process report, s.shutdownProcess = some process →
    process.grace = some (.stopped report) →
    ∀ t after result, (beaver config).Reaches (fun _ _ => True) s t →
      t.shutdownProcess = some after → after.finalReport = some result → result = .ok report

/-- **Main result.**  In every reachable state, whatever the callers, the supervisor and the
runtime have done, and in every state reached from it. -/
theorem shared_shutdown_barrier {config : BeaverConfig} {s : Beaver}
    (reached : (beaver config).Reachable s) : SharedBarrier config s := by
  have stage := stage_of_reaches reached
  constructor
  · exact stage.creations_le
  · exact handles_of_reaches reached
  · intro caller options now t valid step
    simp only [Beaver.step, Beaver.callShutdown] at step
    split at step
    · exact (Option.some.inj step).symm
    · cases step
  · intro caller options process now t here slot unstopped other step
    exact conflict_of_step here slot unstopped other step
  · intro action t step
    exact (stage.step step).2.lifecycle
  · intro t run closed
    exact closed_of_reaches stage run closed
  · intro process t slot run
    obtain ⟨after, found, extended⟩ := process_of_reaches stage run slot
    exact ⟨after, found, extended.id, extended.options, fun _ => extended.waitGraceOutcome,
      fun _ => extended.waitFinal⟩
  · intro process report slot stopped t after result run found final
    obtain ⟨last, there, extended⟩ := process_of_reaches stage run slot
    obtain rfl := Option.some.inj (found.symm.trans there)
    exact (stage_of_reaches (reached.trans run)).agrees found
      (extended.grace _ stopped) final

/-- A `Beaver` whose clock ends after ten seconds. -/
def smallBeaver : BeaverConfig where
  lanes := fun _ => narrowLane
  maxActiveExecutions := 4
  buffer := 1
  maxInstant := 10_000_000_000

/-- Two callers: one shuts the `Beaver` down, the other comes with other options. -/
def contestedRun : List BeaverAction :=
  [.callShutdown 0 {} 0, .callShutdown 1 { mode := .drainFinite } 0, .shutdown 0 (.proceed 0),
    .shutdown 0 (.proceed 0), .shutdown 0 (.controls []), .shutdown 1 (.proceed 0),
    .shutdown 0 (.spawn true)]

/-- A supervisor that finds one idle dam. -/
def supervisedRun : List BeaverAction :=
  [.supervisor .proceed, .supervisor (.drain []), .supervisor .proceed, .supervisor .proceed,
    .supervisor .proceed, .supervisor .proceed, .supervisor .proceed, .supervisor (.collect []),
    .supervisor .proceed, .supervisor .proceed, .supervisor .proceed, .supervisor (.timer true),
    .legacy (.worker 0 .proceed), .supervisor .proceed, .supervisor .proceed,
    .supervisor (.elapsed 5), .supervisor .proceed, .supervisor .proceed, .supervisor .proceed]

theorem shared_shutdown_barrier_contested :
    ∃ s process, (beaver smallBeaver).Reachable s ∧ SharedBarrier smallBeaver s ∧
      s.lifecycle = .stopped ∧ s.shutdownProcess = some process ∧
      process.finalReport = some (.ok ⟨[], [], [], 5⟩) := by
  have runs : ((beaver smallBeaver).exec (beaver smallBeaver).init
      (contestedRun ++ supervisedRun)).map (fun s =>
        (s.lifecycle, s.shutdownProcess.bind ShutdownProcess.report)) =
        some (.stopped, some ⟨[], [], [], 5⟩) := by
    decide +kernel
  obtain ⟨s, exec, facts⟩ := Option.map_eq_some_iff.1 runs
  obtain ⟨stopped, reported⟩ := Prod.mk.inj facts
  obtain ⟨process, slot, report⟩ := Option.bind_eq_some_iff.1 reported
  have reached := System.Reaches.of_schedule _ exec
  exact ⟨s, process, reached, shared_shutdown_barrier reached, stopped, slot,
    ShutdownProcess.report_eq_some.1 report⟩

/-- A grace period that ends after the clock is refused before the existing process is looked
at. -/
theorem other_options_overflow :
    ∃ s t process, (beaver smallBeaver).Reachable s ∧ s.shutdownProcess = some process ∧
      process.options = {} ∧ s.lifecycle = .shuttingDown ∧
      s.step smallBeaver (.callShutdown 2 { gracePeriod := 10_000_000_001 } 0) = some t ∧
      t.shutdowns 2 = some (.returned (.error .invalidGracePeriod)) := by
  obtain ⟨s, exec⟩ : ∃ s, (beaver smallBeaver).exec (beaver smallBeaver).init contestedRun =
      some s := ⟨_, rfl⟩
  obtain rfl := Option.some.inj exec
  exact ⟨_, _, _, .of_schedule contestedRun rfl, rfl, rfl, rfl, rfl, rfl⟩

end Beaver

end BusyBeaver
