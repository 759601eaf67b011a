import BusyBeaver.Shutdown.Barrier
import BusyBeaver.Executor.Exits
import Mathlib.Data.List.Forall2

/-!
# What the supervisor has written down

The completion answers the controls in the order of the snapshot, so its summaries belong to
the executions they stand next to, and the report pairs them as they came (`Audit`).  The
flags of a record are membership in `exceeded` and `forced`, which the handler of the grace
timer fills once.
-/

namespace BusyBeaver

open Transition

namespace ShutdownSupervisor

/-- The grace timer has not fired. -/
def Untimed (supervisor : ShutdownSupervisor) : Prop :=
  supervisor.pending = [] ∧ supervisor.exceeded = ∅ ∧ supervisor.forced = ∅

/-- The flags are settled. -/
def Timed (supervisor : ShutdownSupervisor) : Prop :=
  supervisor.exceeded = supervisor.pending.toFinset ∧ supervisor.forced ⊆ supervisor.exceeded

theorem Untimed.timed {supervisor : ShutdownSupervisor} (untimed : supervisor.Untimed) :
    supervisor.Timed := by
  obtain ⟨pending, exceeded, forced⟩ := untimed
  constructor
  · rw [pending, exceeded]
    rfl
  · rw [forced]
    exact Finset.empty_subset _

/-- The progress record of an entry carries its flags. -/
def Flagged (supervisor : ShutdownSupervisor) (entry : ExecutionId × TaskSnapshot)
    (progress : TaskShutdownProgressRecord) : Prop :=
  progress.executionId = entry.1 ∧
    progress.graceDeadlineExceeded = decide (entry.1 ∈ supervisor.exceeded) ∧
    progress.forcedCancellationRequested = decide (entry.1 ∈ supervisor.forced)

/-- A timeout snapshot that is published carries the flags. -/
def Snapped (supervisor : ShutdownSupervisor) (process : ShutdownProcess) : Prop :=
  ∀ snapshot pending, process.grace = some (.timedOut snapshot pending) →
    List.Forall₂ supervisor.Flagged supervisor.initial snapshot.tasks

theorem Snapped.of_isFresh {supervisor : ShutdownSupervisor} {process : ShutdownProcess}
    (fresh : process.IsFresh) : supervisor.Snapped process := by
  intro snapshot pending published
  rw [fresh.1] at published
  cases published

/-- A grace outcome that is no timeout changes nothing. -/
theorem Snapped.settleGrace {supervisor : ShutdownSupervisor} {process : ShutdownProcess}
    {completion : GraceCompletion} (snapped : supervisor.Snapped process)
    (other : ∀ snapshot pending, completion ≠ .timedOut snapshot pending) :
    supervisor.Snapped (process.settleGrace completion) := by
  intro snapshot pending published
  rcases ShutdownProcess.of_settleGrace published with earlier | new
  · exact snapped snapshot pending earlier
  · exact (other snapshot pending new).elim

end ShutdownSupervisor

namespace Beaver

variable {config : BeaverConfig} {s t : Beaver} {process : ShutdownProcess}
  {supervisor : ShutdownSupervisor}

/-! ## The books -/

/-- The execution is terminal, with this summary. -/
def Ended (s : Beaver) (id : ExecutionId) (summary : TaskExitSummary) : Prop :=
  ∃ x, s.executor.executions id = some x ∧ x.core.terminal = some summary

/-- The summaries so far are those of the controls that have answered. -/
def Tallied (s : Beaver) (supervisor : ShutdownSupervisor) : Prop :=
  ∃ answered, supervisor.initial.map Prod.fst = answered ++ supervisor.waiting ∧
    List.Forall₂ s.Ended answered supervisor.summaries

/-- The final record of an entry. -/
def Recorded (s : Beaver) (supervisor : ShutdownSupervisor)
    (entry : ExecutionId × TaskSnapshot) (record : TaskShutdownRecord) : Prop :=
  record.executionId = entry.1 ∧ record.snapshotAtStart = entry.2 ∧
    s.Ended entry.1 record.finalExit ∧
    record.graceDeadlineExceeded = decide (entry.1 ∈ supervisor.exceeded) ∧
    record.forcedCancellationRequested = decide (entry.1 ∈ supervisor.forced)

/-- The report has the record of every entry, sorted. -/
def Accurate (s : Beaver) (supervisor : ShutdownSupervisor) (report : ShutdownReport) : Prop :=
  ∃ records, List.Forall₂ (s.Recorded supervisor) supervisor.initial records ∧
    report.tasks = records.mergeSort fun one other => decide (one.executionId ≤ other.executionId)

/-- The books in a phase. -/
def Audit (s : Beaver) (process : ShutdownProcess) (supervisor : ShutdownSupervisor) :
    ShutdownPhase → Prop
  | .spawned | .draining | .releasing _ | .collecting | .closing _ | .cancellingLane _ _
  | .cancelling _ | .taking => supervisor.summaries = [] ∧ supervisor.Untimed
  | .arming | .timerUnavailable | .racing => s.Tallied supervisor ∧ supervisor.Untimed
  | .filtering _ => s.Tallied supervisor ∧ supervisor.exceeded = ∅ ∧ supervisor.forced = ∅
  | .forcing rest =>
    s.Tallied supervisor ∧ supervisor.Timed ∧ ∀ id ∈ rest, id ∈ supervisor.pending
  | .recording rest records =>
    s.Tallied supervisor ∧ supervisor.Timed ∧ ∃ before, supervisor.initial = before ++ rest ∧
      List.Forall₂ supervisor.Flagged before records
  | .timingOut snapshot =>
    s.Tallied supervisor ∧ supervisor.Timed ∧
      List.Forall₂ supervisor.Flagged supervisor.initial snapshot.tasks
  | .settling => s.Tallied supervisor ∧ supervisor.Timed ∧ supervisor.Snapped process
  | .reporting rest summaries records =>
    supervisor.Timed ∧ supervisor.Snapped process ∧
      List.Forall₂ s.Ended (rest.map Prod.fst) summaries ∧
      ∃ before, supervisor.initial = before ++ rest ∧
        List.Forall₂ (s.Recorded supervisor) before records
  | .publishing report | .publishingFinal report =>
    supervisor.Timed ∧ supervisor.Snapped process ∧ s.Accurate supervisor report
  | .finishing | .ended => ∀ report, process.finalReport = some (.ok report) →
    supervisor.Timed ∧ supervisor.Snapped process ∧ s.Accurate supervisor report
  | .failing | .failingFinal | .failingStopped => True

/-- The books are in order. -/
def Audited (s : Beaver) : Prop :=
  ∀ process supervisor, s.shutdownProcess = some process → s.supervisor = some supervisor →
    s.Audit process supervisor supervisor.phase

/-! ## Whatever runs beside -/

section Stays

variable (stays : ∀ id summary, s.Ended id summary → t.Ended id summary)
include stays

theorem Tallied.later (tallied : s.Tallied supervisor) : t.Tallied supervisor := by
  obtain ⟨answered, split, ended⟩ := tallied
  exact ⟨answered, split, ended.imp fun id summary => stays id summary⟩

theorem Recorded.later {entry : ExecutionId × TaskSnapshot} {record : TaskShutdownRecord}
    (recorded : s.Recorded supervisor entry record) : t.Recorded supervisor entry record := by
  obtain ⟨executionId, snapshot, ended, exceeded, forced⟩ := recorded
  exact ⟨executionId, snapshot, stays _ _ ended, exceeded, forced⟩

theorem Accurate.later {report : ShutdownReport} (accurate : s.Accurate supervisor report) :
    t.Accurate supervisor report := by
  obtain ⟨records, recorded, sorted⟩ := accurate
  exact ⟨records, recorded.imp fun entry record => Recorded.later stays, sorted⟩

theorem Audit.later {phase : ShutdownPhase} (audit : s.Audit process supervisor phase) :
    t.Audit process supervisor phase := by
  cases phase with
  | arming => exact ⟨audit.1.later stays, audit.2⟩
  | timerUnavailable => exact ⟨audit.1.later stays, audit.2⟩
  | racing => exact ⟨audit.1.later stays, audit.2⟩
  | filtering rest => exact ⟨audit.1.later stays, audit.2⟩
  | forcing rest => exact ⟨audit.1.later stays, audit.2⟩
  | recording rest records => exact ⟨audit.1.later stays, audit.2⟩
  | timingOut snapshot => exact ⟨audit.1.later stays, audit.2⟩
  | settling => exact ⟨audit.1.later stays, audit.2⟩
  | reporting rest summaries records =>
    obtain ⟨timed, snapped, ended, before, split, recorded⟩ := audit
    exact ⟨timed, snapped, ended.imp fun id summary => stays id summary, before, split,
      recorded.imp fun entry record => Recorded.later stays⟩
  | publishing report => exact ⟨audit.1, audit.2.1, audit.2.2.later stays⟩
  | publishingFinal report => exact ⟨audit.1, audit.2.1, audit.2.2.later stays⟩
  | finishing =>
    intro report final
    obtain ⟨timed, snapped, accurate⟩ := audit report final
    exact ⟨timed, snapped, accurate.later stays⟩
  | ended =>
    intro report final
    obtain ⟨timed, snapped, accurate⟩ := audit report final
    exact ⟨timed, snapped, accurate.later stays⟩
  | _ => exact audit

end Stays

/-- An exit is final. -/
theorem Ended.moved (coupled : s.executor.Coupled config.toExecutorConfig)
    (moved : ExecutorMoved config s.executor t.executor) {id : ExecutionId}
    {summary : TaskExitSummary} (ended : s.Ended id summary) : t.Ended id summary := by
  obtain ⟨x, found, terminal⟩ := ended
  rcases moved with same | ⟨action, step⟩
  · exact ⟨x, by rw [same, found], terminal⟩
  · obtain ⟨y, found', same⟩ :=
      Executor.core_of_step coupled step found (by simp [terminal])
    exact ⟨y, found', by rw [same, terminal]⟩

/-- Who waits for a control gets its own summary. -/
theorem Ended.of_waited {id : ExecutionId} {summary : TaskExitSummary}
    (waited : s.waited id = some summary) : s.Ended id summary := by
  obtain ⟨x, found, answer⟩ := Option.bind_eq_some_iff.1 waited
  split at answer
  · exact ⟨x, found, answer⟩
  · cases answer

/-! ## The supervisor -/

theorem Audited.moveTo {between : Beaver} {next : ShutdownSupervisor} {phase : ShutdownPhase}
    (slot : between.shutdownProcess = some process)
    (audit : between.Audit process { next with phase := phase } phase) :
    (between.moveTo next phase).Audited := by
  intro found supervisor there running
  obtain rfl := Option.some.inj (slot.symm.trans there)
  obtain rfl := Option.some.inj running
  have stays : ∀ id summary, between.Ended id summary →
      (between.moveTo next phase).Ended id summary := fun _ _ ended => ended
  exact Audit.later stays audit

theorem Audited.publish {write : ShutdownProcess → ShutdownProcess} {phase : ShutdownPhase}
    (slot : s.shutdownProcess = some process)
    (audit : s.Audit (write process) { supervisor with phase := phase } phase) :
    ((s.publish write).moveTo supervisor phase).Audited := by
  have written : (s.publish write).shutdownProcess = some (write process) := by
    rw [Beaver.publish, slot]
    rfl
  have stays : ∀ id summary, s.Ended id summary → (s.publish write).Ended id summary :=
    fun _ _ ended => ended
  exact .moveTo written (Audit.later stays audit)

/-- The completion goes on. -/
theorem Audited.await {after : ShutdownSupervisor} (slot : s.shutdownProcess = some process)
    (here : supervisor.phase = .racing ∨ supervisor.phase = .settling)
    (coherent : process.Coherent supervisor.phase)
    (audit : s.Audit process supervisor supervisor.phase)
    (completed : s.complete supervisor = some after) :
    ({ s with supervisor := some after } : Beaver).Audited := by
  -- the phase stays, or it is the first of the report
  have goes : ∀ next : ShutdownSupervisor, s.Audit process next next.phase →
      ({ s with supervisor := some next } : Beaver).Audited := by
    intro next audit found supervisor there running
    obtain rfl := Option.some.inj (slot.symm.trans there)
    obtain rfl := Option.some.inj running
    have stays : ∀ id summary, s.Ended id summary →
        ({ s with supervisor := some next } : Beaver).Ended id summary := fun _ _ ended => ended
    exact Audit.later stays audit
  have waits : ∀ next : ShutdownSupervisor, next.phase = supervisor.phase →
      (s.Tallied supervisor → s.Tallied next) → (supervisor.Untimed → next.Untimed) →
      (supervisor.Timed → next.Timed) → (supervisor.Snapped process → next.Snapped process) →
      s.Audit process next next.phase := by
    intro next same tallied untimed timed snapped
    rw [same]
    rcases here with racing | settling
    · rw [racing] at audit ⊢
      exact ⟨tallied audit.1, untimed audit.2⟩
    · rw [settling] at audit ⊢
      exact ⟨tallied audit.1, timed audit.2.1, snapped audit.2.2⟩
  unfold complete at completed
  split at completed
  · rename_i control rest waiting
    obtain ⟨summary, waited, rfl⟩ := Option.map_eq_some_iff.1 completed
    refine goes _ (waits _ rfl ?_ id id id)
    rintro ⟨answered, split, ended⟩
    refine ⟨answered ++ [control], ?_, ?_⟩
    · rw [List.append_assoc, ← List.singleton_append, split, waiting]
      rfl
    · exact List.rel_append ended (.cons (.of_waited waited) .nil)
  · obtain ⟨failure, -, rfl⟩ := Option.map_eq_some_iff.1 completed
    refine goes _ (waits _ rfl ?_ id id id)
    exact id
  · rename_i waiting workers
    obtain rfl := Option.some.inj completed
    have settled : s.Tallied supervisor ∧ supervisor.Timed ∧ supervisor.Snapped process := by
      rcases here with racing | settling
      · rw [racing] at audit coherent
        exact ⟨audit.1, audit.2.timed, .of_isFresh coherent⟩
      · rw [settling] at audit
        exact audit
    obtain ⟨⟨answered, split, ended⟩, timed, snapped⟩ := settled
    rw [waiting, List.append_nil] at split
    exact goes _ ⟨timed, snapped, split ▸ ended, [], rfl, .nil⟩

/-- **Step lemma** of the supervisor. -/
theorem Audited.supervisorMoved (slot : s.shutdownProcess = some process)
    (coherent : process.Coherent supervisor.phase)
    (audit : s.Audit process supervisor supervisor.phase)
    (moved : SupervisorMoved config s process supervisor t) : t.Audited := by
  cases moved with
  | dropped before => exact .moveTo slot trivial
  | takeDefault here =>
    rw [here] at audit
    exact .moveTo slot audit
  | drain here perm =>
    rw [here] at audit
    exact .moveTo slot audit
  | release here step =>
    rw [here] at audit
    obtain ⟨legacy, steps, rfl, -⟩ := releaseDam_eq step
    exact .moveTo slot audit
  | released here =>
    rw [here] at audit
    exact .moveTo slot audit
  | collect here all =>
    rw [here] at audit
    exact .moveTo slot audit
  | closeLane here step =>
    rw [here] at audit
    refine .moveTo slot ?_
    cases process.options.mode <;> exact audit
  | closed here =>
    rw [here] at audit
    exact .moveTo slot audit
  | @cancelLane control controls lanes here =>
    rw [here] at audit
    obtain ⟨executor, cancelled, -⟩ := cancel_eq config s control .executorShutdown
    rw [cancelled]
    exact .moveTo slot audit
  | cancelledLane here =>
    rw [here] at audit
    exact .moveTo slot audit
  | @cancel control snapshot rest here =>
    rw [here] at audit
    obtain ⟨executor, cancelled, -⟩ :=
      cancelInitial_eq config s process.options.mode control snapshot
    rw [cancelled]
    exact .moveTo slot audit
  | cancelled here =>
    rw [here] at audit
    exact .moveTo slot audit
  | take here =>
    rw [here] at audit
    obtain ⟨blank, untimed⟩ := audit
    refine .moveTo slot ⟨⟨[], rfl, ?_⟩, untimed⟩
    rw [blank]
    exact .nil
  | arm here armed waits =>
    rw [here] at audit coherent
    rcases armed with rfl | rfl | rfl
    · exact .moveTo slot ⟨audit.1, audit.2.timed, .of_isFresh coherent⟩
    · exact .moveTo slot audit
    · exact .moveTo slot audit
  | timerUnavailable here =>
    rw [here] at audit coherent
    have snapped : supervisor.Snapped process := .of_isFresh coherent
    exact .publish slot ⟨audit.1, audit.2.timed, snapped.settleGrace (by simp)⟩
  | await here completed => exact .await slot here coherent audit completed
  | fire here due pending =>
    rw [here] at audit
    exact .moveTo slot ⟨audit.1, audit.2.2⟩
  | filter here =>
    rw [here] at audit
    exact .moveTo slot audit
  | filtered here next =>
    rw [here] at audit
    obtain ⟨tallied, exceeded, forced⟩ := audit
    have timed : supervisor.forced ⊆ supervisor.pending.toFinset := by
      rw [forced]
      exact Finset.empty_subset _
    rcases next with rfl | rfl
    · exact .moveTo slot ⟨tallied, ⟨rfl, timed⟩, fun id member => member⟩
    · exact .moveTo slot ⟨tallied, ⟨rfl, timed⟩, [], rfl, .nil⟩
  | force here forced =>
    rw [here] at audit
    obtain ⟨tallied, ⟨exceeded, subset⟩, pending⟩ := audit
    have later : ∀ id ∈ _, id ∈ supervisor.pending := fun id member =>
      pending id (List.mem_cons_of_mem _ member)
    refine .moveTo slot ⟨tallied, ⟨exceeded, ?_⟩, later⟩
    rcases forced with rfl | rfl
    · exact subset
    · refine Finset.insert_subset ?_ subset
      rw [exceeded]
      exact List.mem_toFinset.2 (pending _ List.mem_cons_self)
  | forcedAll here =>
    rw [here] at audit
    exact .moveTo slot ⟨audit.1, audit.2.1, [], rfl, .nil⟩
  | @record control initial current rest records here found =>
    rw [here] at audit
    obtain ⟨tallied, timed, before, split, flagged⟩ := audit
    refine .moveTo slot ⟨tallied, timed, before ++ [(control, initial)], ?_, ?_⟩
    · rw [List.append_assoc]
      exact split
    · exact List.rel_append flagged (.cons ⟨rfl, rfl, rfl⟩ .nil)
  | recorded here =>
    rw [here] at audit
    obtain ⟨tallied, timed, before, split, flagged⟩ := audit
    rw [List.append_nil] at split
    exact .moveTo slot ⟨tallied, timed, split ▸ flagged⟩
  | publishTimeout here =>
    rw [here] at audit
    obtain ⟨tallied, timed, flagged⟩ := audit
    refine .publish slot ⟨tallied, timed, fun snapshot pending published => ?_⟩
    cases published
    exact flagged
  | @report control initial summary rest summaries records here =>
    rw [here] at audit
    obtain ⟨timed, snapped, ended, before, split, recorded⟩ := audit
    obtain ⟨own, ended⟩ := List.forall₂_cons.1 ended
    refine .moveTo slot ⟨timed, snapped, ended, before ++ [(control, initial)], ?_, ?_⟩
    · rw [List.append_assoc]
      exact split
    · exact List.rel_append recorded (.cons ⟨rfl, rfl, own, rfl, rfl⟩ .nil)
  | reportLate here waited =>
    rw [here] at audit
    cases audit.2.2.1
  | reported here =>
    rw [here] at audit
    obtain ⟨timed, snapped, -, before, split, recorded⟩ := audit
    rw [List.append_nil] at split
    exact .moveTo slot ⟨timed, snapped, _, split ▸ recorded, rfl⟩
  | publishGrace here =>
    rw [here] at audit
    exact .publish slot ⟨audit.1, ShutdownSupervisor.Snapped.settleGrace audit.2.1 (by simp),
      audit.2.2⟩
  | publishFinal here =>
    rw [here] at audit
    refine .publish slot fun report final => ?_
    cases final
    exact audit
  | failGrace here => exact .publish slot trivial
  | failFinal here => exact .publish slot trivial
  | stop here =>
    rcases here with finishing | failing
    · rw [finishing] at audit
      exact .moveTo slot audit
    · rw [failing] at coherent
      refine .moveTo slot fun report final => ?_
      rw [coherent.1] at final
      cases final

/-! ## Runs -/

theorem coupled_of_reaches {ok : Beaver → BeaverAction → Prop}
    (reached : (beaver config).Reaches ok (beaver config).init s) :
    s.executor.Coupled config.toExecutorConfig :=
  Executor.Coupled.of_reaches (executor_reaches reached)

/-- A step that leaves the process and the supervisor alone. -/
theorem Audited.aside (audited : s.Audited)
    (stays : ∀ id summary, s.Ended id summary → t.Ended id summary)
    (process : t.shutdownProcess = s.shutdownProcess) (supervisor : t.supervisor = s.supervisor) :
    t.Audited := by
  intro found running slot there
  exact Audit.later stays (audited found running (process.symm.trans slot)
    (supervisor.symm.trans there))

/-- **Step lemma.** -/
theorem Audited.step (audited : s.Audited) (reached : (beaver config).Reachable s)
    {action : BeaverAction} (step : s.step config action = some t) : t.Audited := by
  have stage := stage_of_reaches reached
  have stays : ∀ id summary, s.Ended id summary → t.Ended id summary := fun id summary ended =>
    ended.moved (coupled_of_reaches reached) (executorMoved_of_step step)
  cases Moved.of_step step with
  | outside _ moved => exact audited.aside stays moved.aside.shutdownProcess moved.aside.supervisor
  | callShutdown => exact audited.aside stays rfl rfl
  | shutdown here moved =>
    cases CallMoved.of_shutdownStep moved with
    | write =>
      intro process supervisor slot running
      have absent := stage.supervisor_of_busy here rfl
      exact absurd (absent.symm.trans running) (by simp)
    | start begins =>
      intro process supervisor slot running
      obtain rfl := Option.some.inj running
      rcases begins with rfl | rfl
      · exact ⟨rfl, rfl, rfl, rfl⟩
      · trivial
    | _ => exact audited.aside stays rfl rfl
  | @supervisor event process supervisor _ slot running moved =>
    exact .supervisorMoved slot (stage.coherent slot running)
      (audited process supervisor slot running) (SupervisorMoved.of_supervisorStep moved)

theorem audited_of_reaches (reached : (beaver config).Reachable s) : s.Audited := by
  induction reached with
  | refl =>
    intro process supervisor absurd
    cases absurd
  | tail before _ step ih => exact ih.step before step

/-- A final `Ok` comes from books that are closed. -/
theorem accurate_of_final (reached : (beaver config).Reachable s)
    (slot : s.shutdownProcess = some process) {report : ShutdownReport}
    (final : process.finalReport = some (.ok report)) :
    ∃ supervisor, s.supervisor = some supervisor ∧ supervisor.Timed ∧
      supervisor.Snapped process ∧ s.Accurate supervisor report := by
  have stage := stage_of_reaches reached
  obtain ⟨supervisor, running⟩ := stage.exists_supervisor slot (by simp [final])
  have audit := audited_of_reaches reached process supervisor slot running
  refine ⟨supervisor, running, ?_⟩
  rcases (stage.coherent slot running).phase_of_final final with finishing | ended
  · rw [finishing] at audit
    exact audit report final
  · rw [ended] at audit
    exact audit report final

end Beaver

end BusyBeaver
