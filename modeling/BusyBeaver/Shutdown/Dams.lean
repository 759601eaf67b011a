import BusyBeaver.Shutdown.Barrier
import BusyBeaver.Legacy.Worker

/-!
# The workers of the dams at the end of a shutdown

The supervisor joins the workers of the dams it finds: the default dam and those in the map.
A dam that a call has taken out of the map before is found by nobody (`left`), and a report
without failures says nothing about its worker (`cancelled_dam_outlives_destroy`).  When
those have finished at the time of the report, every dam has
(`legacy_shutdown_complete`).
-/

namespace BusyBeaver

open Transition

/-- A report is published, to those who wait for the grace outcome or to the others. -/
def ShutdownProcess.Reported (process : ShutdownProcess)
    (report : ShutdownReport) : Prop :=
  process.grace = some (.stopped report) ∨ process.finalReport = some (.ok report)

theorem ShutdownProcess.reported_of_settleGrace {process : ShutdownProcess}
    {completion : GraceCompletion} {report : ShutdownReport}
    (reported : (process.settleGrace completion).Reported report) :
    process.Reported report ∨ completion = .stopped report := by
  rcases reported with grace | final
  · rcases ShutdownProcess.of_settleGrace grace with earlier | new
    · exact Or.inl (Or.inl earlier)
    · exact Or.inr new
  · exact Or.inl (Or.inr final)

/-- An `Ok` of `destroy` comes from a report without failures. -/
theorem ShutdownProcess.reported_of_destroy {process : ShutdownProcess}
    (answered : process.destroy = some (.ok ())) :
    ∃ report, process.Reported report ∧ report.workerFailures = [] := by
  unfold ShutdownProcess.destroy ShutdownProcess.waitGraceOutcome at answered
  cases grace : process.grace with
  | none =>
    rw [grace] at answered
    cases answered
  | some completion =>
    rw [grace] at answered
    cases completion with
    | stopped report =>
      refine ⟨report, Or.inl grace, ?_⟩
      cases failures : report.workerFailures with
      | nil => rfl
      | cons failure rest => simp [failures] at answered
    | _ => simp at answered

namespace Beaver

variable {config : BeaverConfig} {s t : Beaver} {process : ShutdownProcess}
  {supervisor : ShutdownSupervisor}

/-! ## Where the dams are -/

/-- The worker of a dam has exited, and no task of it is left. -/
def DamFinished (s : Beaver) (i : Nat) : Prop :=
  ∀ dam : Dam, s.legacy.dams[i]? = some dam → dam.isFinished = true

def AllFinished (s : Beaver) : Prop := ∀ i, s.DamFinished i

/-- No join handle has been taken. -/
def Handled (s : Beaver) : Prop :=
  ∀ (i : Nat) (dam : Dam), s.legacy.dams[i]? = some dam → dam.handle = true

/-- The default dam and the map have been taken. -/
def Emptied (s : Beaver) : Prop := s.legacy.default = none ∧ s.legacy.named = []

/-- The workers of the dams are being joined, or have exited, unless one has failed. -/
def Joins (s : Beaver) (supervisor : ShutdownSupervisor) : Prop :=
  supervisor.failures = [] →
    ∀ i ∈ supervisor.dams, ShutdownWorker.dam i ∈ supervisor.workers ∨ s.DamFinished i

/-- What the supervisor has of the dams in a phase. -/
def Gathered (s : Beaver) (supervisor : ShutdownSupervisor) : ShutdownPhase → Prop
  | .spawned => s.Handled ∧ supervisor.dams = []
  | .draining => s.Handled ∧ s.legacy.default = none
  | .releasing _ | .collecting | .closing _ | .cancellingLane _ _ | .cancelling _ | .taking =>
    s.Handled ∧ s.Emptied
  | .arming | .timerUnavailable | .racing | .filtering _ | .forcing _ | .recording _ _
  | .timingOut _ | .settling => s.Emptied ∧ s.Joins supervisor
  | .reporting _ _ _ => s.Emptied ∧ supervisor.workers = [] ∧ s.Joins supervisor
  | .publishing report =>
    s.Emptied ∧ (report.workerFailures = [] → ∀ i ∈ supervisor.dams, s.DamFinished i)
  | .publishingFinal report => report.workerFailures = [] → s.AllFinished
  | _ => True

/-- The dams of a reachable state. -/
structure Tended (s : Beaver) : Prop where
  tidy : ∀ (i : Nat) (dam : Dam), s.legacy.dams[i]? = some dam → dam.Tidy
  placed : ∀ (i : Nat) (dam : Dam), s.legacy.dams[i]? = some dam →
    s.legacy.default = some i ∨ (∃ entry ∈ s.legacy.named, entry.dam = i) ∨ i ∈ s.supervised ∨
      i ∈ s.legacy.left
  unsupervised : s.supervisor = none → s.Handled
  gathered : ∀ supervisor, s.supervisor = some supervisor →
    s.Gathered supervisor supervisor.phase
  published : ∀ process report, s.shutdownProcess = some process → process.Reported report →
    report.workerFailures = [] → s.AllFinished

/-! ## The sections of the legacy calls -/

/-- A dam that is there now was there, or a running `Beaver` has made it. -/
theorem fresh_or_follows {running : Bool} (ran : s.legacy.Ran running t.legacy) {i : Nat}
    {after : Dam} (there : t.legacy.dams[i]? = some after) :
    (∃ dam, s.legacy.dams[i]? = some dam ∧ dam.Follows after) ∨
      running = true ∧ (∃ entry ∈ t.legacy.named, entry.dam = i) ∧
        ∃ capacity, after = .withHandle capacity := by
  cases found : s.legacy.dams[i]? with
  | none => exact Or.inr (ran.fresh i after (List.getElem?_eq_none_iff.1 found) there)
  | some dam =>
    obtain ⟨dam', there', follows⟩ := ran.dams i dam found
    obtain rfl := Option.some.inj (there.symm.trans there')
    exact Or.inl ⟨dam, rfl, follows⟩

theorem Handled.ran {running : Bool} (handled : s.Handled)
    (ran : s.legacy.Ran running t.legacy) : t.Handled := by
  intro i after there
  rcases fresh_or_follows ran there with ⟨dam, found, follows⟩ | ⟨-, -, capacity, rfl⟩
  · exact follows.handle.trans (handled i dam found)
  · rfl

theorem DamFinished.ran {i : Nat} (finished : s.DamFinished i)
    (ran : s.legacy.Ran false t.legacy) : t.DamFinished i := by
  intro after there
  rcases fresh_or_follows ran there with ⟨dam, found, follows⟩ | ⟨running, -⟩
  · exact follows.finished (finished dam found)
  · cases running

theorem AllFinished.ran (finished : s.AllFinished) (ran : s.legacy.Ran false t.legacy) :
    t.AllFinished :=
  fun i => (finished i).ran ran

theorem Emptied.ran (emptied : s.Emptied) (ran : s.legacy.Ran false t.legacy) : t.Emptied :=
  ⟨ran.default.trans emptied.1, ran.empty rfl emptied.2⟩

theorem Joins.ran (joins : s.Joins supervisor) (ran : s.legacy.Ran false t.legacy) :
    t.Joins supervisor := by
  intro unfailed i member
  rcases joins unfailed i member with joining | finished
  · exact Or.inl joining
  · exact Or.inr (finished.ran ran)

/-- The legacy calls take nothing from the supervisor. -/
theorem Gathered.ran {phase : ShutdownPhase} (gathered : s.Gathered supervisor phase)
    (ran : s.legacy.Ran false t.legacy) : t.Gathered supervisor phase := by
  cases phase with
  | spawned => exact ⟨gathered.1.ran ran, gathered.2⟩
  | draining => exact ⟨gathered.1.ran ran, ran.default.trans gathered.2⟩
  | releasing steps => exact ⟨gathered.1.ran ran, gathered.2.ran ran⟩
  | collecting => exact ⟨gathered.1.ran ran, gathered.2.ran ran⟩
  | closing lanes => exact ⟨gathered.1.ran ran, gathered.2.ran ran⟩
  | cancellingLane controls lanes => exact ⟨gathered.1.ran ran, gathered.2.ran ran⟩
  | cancelling rest => exact ⟨gathered.1.ran ran, gathered.2.ran ran⟩
  | taking => exact ⟨gathered.1.ran ran, gathered.2.ran ran⟩
  | reporting rest summaries records =>
    exact ⟨gathered.1.ran ran, gathered.2.1, gathered.2.2.ran ran⟩
  | publishing report =>
    exact ⟨gathered.1.ran ran, fun unfailed i member => (gathered.2 unfailed i member).ran ran⟩
  | publishingFinal report => exact fun unfailed => (gathered unfailed).ran ran
  | finishing => trivial
  | failing => trivial
  | failingFinal => trivial
  | failingStopped => trivial
  | ended => trivial
  | _ => exact ⟨gathered.1.ran ran, gathered.2.ran ran⟩

/-- **Step lemma**, for the legacy calls and whatever leaves the dams alone. -/
theorem Tended.ran (inv : s.Tended) (stage : s.Stage)
    (ran : s.legacy.Ran (decide (s.lifecycle = .running)) t.legacy)
    (supervisor : t.supervisor = s.supervisor)
    (process : t.shutdownProcess = s.shutdownProcess) : t.Tended where
  tidy := by
    intro i after there
    rcases fresh_or_follows ran there with ⟨dam, found, follows⟩ | ⟨-, -, capacity, rfl⟩
    · exact follows.tidy (inv.tidy i dam found)
    · exact .of_task_eq_none rfl
  placed := by
    intro i after there
    rcases fresh_or_follows ran there with ⟨dam, found, -⟩ | ⟨-, named, -⟩
    · rw [ran.default, supervised, supervisor]
      rcases inv.placed i dam found with default | ⟨entry, member, rfl⟩ | held | left
      · exact Or.inl default
      · rcases ran.named entry member with ⟨entry', member', same⟩ | left
        · exact Or.inr (Or.inl ⟨entry', member', same⟩)
        · exact Or.inr (Or.inr (Or.inr left))
      · exact Or.inr (Or.inr (Or.inl held))
      · exact Or.inr (Or.inr (Or.inr (ran.left i left)))
    · exact Or.inr (Or.inl named)
  unsupervised := fun absent => (inv.unsupervised (supervisor.symm.trans absent)).ran ran
  gathered := by
    intro found there
    have present := supervisor.symm.trans there
    obtain ⟨process, slot⟩ := stage.exists_process present
    rw [decide_eq_false (stage.lifecycle_ne_running slot)] at ran
    exact (inv.gathered found present).ran ran
  published := by
    intro found report there reported unfailed
    have present := process.symm.trans there
    rw [decide_eq_false (stage.lifecycle_ne_running present)] at ran
    exact (inv.published found report present reported unfailed).ran ran

theorem legacyRan_of_runLegacy {action : LegacyAction} (step : s.runLegacy config action = some t) :
    s.legacy.Ran (decide (s.lifecycle = .running)) t.legacy := by
  cases action with
  | enqueue task =>
    obtain ⟨-, moved⟩ := Option.ite_none_right_eq_some.1 step
    exact Option.some.inj moved ▸ Legacy.ran_enqueue _ _ _
  | enqueueOnNewThread task name buffer longResident =>
    obtain ⟨-, moved⟩ := Option.ite_none_right_eq_some.1 step
    exact Option.some.inj moved ▸ Legacy.ran_enqueueOnNewThread _ _ _ _ _ _
  | cancelAll controls =>
    obtain ⟨-, moved⟩ := Option.ite_none_right_eq_some.1 step
    exact Option.some.inj moved ▸ .of_same rfl rfl rfl rfl
  | cancelNonLongResident => exact Option.some.inj step ▸ .of_same rfl rfl rfl rfl
  | releaseThreadResourceByName name => exact Option.some.inj step ▸ .of_same rfl rfl rfl rfl
  | cancelTyped call =>
    simp only [runLegacy] at step
    split at step
    · exact Option.some.inj step ▸ .of_same rfl rfl rfl rfl
    · cases step
  | advance call dams =>
    obtain ⟨legacy, moved, rfl⟩ := Option.map_eq_some_iff.1 step
    exact Legacy.ran_of_advance moved
  | dropDam dam =>
    obtain ⟨legacy, moved, rfl⟩ := Option.map_eq_some_iff.1 step
    exact Legacy.ran_of_dropDam moved
  | worker dam event =>
    obtain ⟨legacy, moved, rfl⟩ := Option.map_eq_some_iff.1 step
    exact Legacy.ran_of_runDam (fun _ _ stepped => Dam.follows_of_workerStep stepped) moved
  | task dam event =>
    obtain ⟨legacy, moved, rfl⟩ := Option.map_eq_some_iff.1 step
    exact Legacy.ran_of_runDam (fun _ _ stepped => Dam.follows_of_taskStep stepped) moved

/-- The typed executor and the lanes leave the dams alone. -/
theorem Outside.legacyRan (outside : Outside config s t) :
    s.legacy.Ran (decide (s.lifecycle = .running)) t.legacy := by
  cases outside with
  | legacy step => exact legacyRan_of_runLegacy step
  | _ => exact .refl _ _

/-! ## The calls of `shutdown` -/

theorem Tended.called (inv : s.Tended) (stage : s.Stage) {caller : Nat} {call : ShutdownCall}
    (here : s.shutdowns caller = some call) (moved : CallMoved config s caller call t) :
    t.Tended := by
  cases moved with
  | answer => exact inv.ran stage (.refl _ _) rfl rfl
  | create => exact inv.ran stage (.refl _ _) rfl rfl
  | accept => exact inv.ran stage (.refl _ _) rfl rfl
  | refuse => exact inv.ran stage (.refl _ _) rfl rfl
  | write =>
    refine ⟨inv.tidy, inv.placed, inv.unsupervised, inv.gathered, ?_⟩
    intro found report there reported
    obtain rfl := Option.some.inj there
    obtain ⟨fresh, -⟩ := stage.of_accepted here
    rcases reported with grace | final
    · rw [fresh.1] at grace
      cases grace
    · rw [fresh.2] at final
      cases final
  | prepare => exact inv.ran stage (.refl _ _) rfl rfl
  | start begins =>
    have absent := stage.supervisor_of_busy here rfl
    refine ⟨inv.tidy, fun i dam found => ?_, fun absurd => (by cases absurd), ?_, inv.published⟩
    · have placed := inv.placed i dam found
      rw [supervised, absent] at placed
      exact placed
    · intro supervisor there
      obtain rfl := Option.some.inj there
      rcases begins with rfl | rfl
      · exact ⟨inv.unsupervised absent, rfl⟩
      · trivial

/-! ## The supervisor -/

/-- A move of the supervisor that leaves the dams alone. -/
theorem Tended.supervise (inv : s.Tended) (running : s.supervisor = some supervisor)
    {next : ShutdownSupervisor} (legacy : t.legacy = s.legacy) (there : t.supervisor = some next)
    (dams : next.dams = supervisor.dams) (gathered : s.Gathered next next.phase)
    (published : ∀ process report, t.shutdownProcess = some process → process.Reported report →
      report.workerFailures = [] → s.AllFinished) : t.Tended where
  tidy := legacy ▸ inv.tidy
  placed := by
    have placed := inv.placed
    rw [supervised, running] at placed
    rw [legacy, supervised, there, Option.elim_some, dams]
    exact placed
  unsupervised := fun absent => by
    rw [there] at absent
    cases absent
  gathered := by
    intro found present
    obtain rfl := Option.some.inj (there.symm.trans present)
    exact gathered.ran (by rw [legacy]; exact .refl _ _)
  published := by
    intro process report slot reported unfailed
    exact (published process report slot reported unfailed).ran (by rw [legacy]; exact .refl _ _)

/-- A move of the supervisor alone. -/
theorem Tended.proceed (inv : s.Tended) (running : s.supervisor = some supervisor)
    {next : ShutdownSupervisor} {phase : ShutdownPhase} (dams : next.dams = supervisor.dams)
    (gathered : s.Gathered { next with phase := phase } phase) :
    (s.moveTo next phase).Tended :=
  inv.supervise running rfl rfl dams gathered inv.published

/-- A move that writes to the process. -/
theorem Tended.publish (inv : s.Tended) (running : s.supervisor = some supervisor)
    (slot : s.shutdownProcess = some process) {write : ShutdownProcess → ShutdownProcess}
    {phase : ShutdownPhase} (gathered : s.Gathered { supervisor with phase := phase } phase)
    (reported : ∀ report, (write process).Reported report →
      process.Reported report ∨ (report.workerFailures = [] → s.AllFinished)) :
    ((s.publish write).moveTo supervisor phase).Tended := by
  refine inv.supervise running rfl rfl rfl gathered fun found report there now unfailed => ?_
  have written : some (write process) = some found := by
    rw [← there, Beaver.moveTo, Beaver.publish, slot]
    rfl
  obtain rfl := Option.some.inj written
  rcases reported report now with before | finished
  · exact inv.published process report slot before unfailed
  · exact finished unfailed

/-- The dams that are joined, and those that were taken out of the map, are all. -/
theorem Tended.allFinished (inv : s.Tended) (running : s.supervisor = some supervisor)
    (emptied : s.Emptied) (joined : ∀ i ∈ supervisor.dams, s.DamFinished i)
    (left : ∀ i ∈ s.legacy.left, s.DamFinished i) : s.AllFinished := by
  intro i dam found
  rcases inv.placed i dam found with default | ⟨entry, member, -⟩ | held | gone
  · rw [emptied.1] at default
    cases default
  · rw [emptied.2] at member
    cases member
  · rw [supervised, running] at held
    exact joined i held dam found
  · exact left i gone dam found

theorem dam_of_takeWorkers {i : Nat} {after : Dam}
    (there : (s.takeWorkers supervisor).legacy.dams[i]? = some after) :
    ∃ dam, s.legacy.dams[i]? = some dam ∧ after.worker = dam.worker ∧ after.task = dam.task := by
  rw [Beaver.takeWorkers, Beaver.moveTo, List.getElem?_mapIdx] at there
  obtain ⟨dam, found, rfl⟩ := Option.map_eq_some_iff.1 there
  refine ⟨dam, found, ?_⟩
  split <;> exact ⟨rfl, rfl⟩

theorem DamFinished.takeWorkers {i : Nat} (finished : s.DamFinished i) :
    (s.takeWorkers supervisor).DamFinished i := by
  intro after there
  obtain ⟨dam, found, worker, task⟩ := dam_of_takeWorkers there
  rw [Dam.isFinished, worker, task]
  exact finished dam found

/-- The handles are taken, all of them. -/
theorem Tended.takeWorkers (inv : s.Tended) (running : s.supervisor = some supervisor)
    (handled : s.Handled) (emptied : s.Emptied) : (s.takeWorkers supervisor).Tended := by
  refine ⟨fun i after there => ?_, fun i after there => ?_, fun absent => (by cases absent), ?_, ?_⟩
  · obtain ⟨dam, found, worker, task⟩ := dam_of_takeWorkers there
    rw [Dam.Tidy, worker, task]
    exact inv.tidy i dam found
  · obtain ⟨dam, found, -⟩ := dam_of_takeWorkers there
    have placed := inv.placed i dam found
    rw [supervised, running] at placed
    exact placed
  · intro next there
    obtain rfl := Option.some.inj there
    refine ⟨emptied, fun _ i member => ?_⟩
    cases found : s.legacy.dams[i]? with
    | none =>
      refine Or.inr (DamFinished.takeWorkers fun dam there => ?_)
      rw [found] at there
      cases there
    | some dam =>
      refine Or.inl (List.mem_append_left _ (List.mem_map_of_mem (List.mem_filter.2 ⟨member, ?_⟩)))
      rw [found]
      exact handled i dam found
  · intro process report there reported unfailed i
    exact (inv.published process report there reported unfailed i).takeWorkers

/-- What a join handle of a dam reports is how its worker has exited. -/
theorem worker_of_workerResult {i : Nat} {failure : Option String} {dam : Dam}
    (result : s.workerResult (.dam i) = some failure) (found : s.legacy.dams[i]? = some dam) :
    dam.worker = .exited failure := by
  simp only [workerResult, found, Option.map_some] at result
  split at result
  · rename_i exited
    rw [Option.some.inj exited, Option.some.inj result]
  · cases result

/-- The completion goes on. -/
theorem Tended.await (inv : s.Tended) (running : s.supervisor = some supervisor)
    {after : ShutdownSupervisor} (gathered : s.Emptied ∧ s.Joins supervisor)
    (here : supervisor.phase = .racing ∨ supervisor.phase = .settling)
    (completed : s.complete supervisor = some after) :
    ({ s with supervisor := some after } : Beaver).Tended := by
  obtain ⟨emptied, joins⟩ := gathered
  have waits : ∀ {next : ShutdownSupervisor}, next.phase = supervisor.phase → s.Joins next →
      s.Gathered next next.phase := by
    intro next same joins
    rw [same]
    rcases here with racing | settling
    · rw [racing]
      exact ⟨emptied, joins⟩
    · rw [settling]
      exact ⟨emptied, joins⟩
  unfold complete at completed
  split at completed
  · obtain ⟨summary, -, rfl⟩ := Option.map_eq_some_iff.1 completed
    exact inv.supervise running rfl rfl rfl (waits rfl joins) inv.published
  · rename_i worker rest waiting workers
    obtain ⟨failure, result, rfl⟩ := Option.map_eq_some_iff.1 completed
    refine inv.supervise running rfl rfl rfl (waits rfl fun unfailed i member => ?_) inv.published
    obtain ⟨unfailed, clean⟩ := List.append_eq_nil_iff.1 unfailed
    rcases joins unfailed i member with joining | finished
    · rw [workers] at joining
      rcases List.mem_cons.1 joining with rfl | later
      · refine Or.inr fun dam found => (inv.tidy i dam found).isFinished ?_
        rw [Option.toList_eq_nil_iff.1 clean] at result
        exact worker_of_workerResult result found
      · exact Or.inl later
    · exact Or.inr finished
  · rename_i waiting workers
    obtain rfl := Option.some.inj completed
    exact inv.supervise running rfl rfl rfl ⟨emptied, workers, joins⟩ inv.published

/-- **Step lemma** of the supervisor. -/
theorem Tended.supervisorMoved (inv : s.Tended) (stage : s.Stage)
    (slot : s.shutdownProcess = some process) (running : s.supervisor = some supervisor)
    (left : ∀ report, supervisor.phase = .publishing report → report.workerFailures = [] →
      ∀ i ∈ s.legacy.left, s.DamFinished i)
    (moved : SupervisorMoved config s process supervisor t) : t.Tended := by
  have gathered := inv.gathered supervisor running
  cases moved with
  | dropped before => exact inv.proceed running rfl trivial
  | takeDefault here =>
    rw [here] at gathered
    obtain ⟨handled, none⟩ := gathered
    refine ⟨inv.tidy, fun i dam found => ?_, fun absent => (by cases absent), ?_, inv.published⟩
    · rcases inv.placed i dam found with default | named | held | gone
      · exact Or.inr (Or.inr (Or.inl (Option.mem_toList.2 default)))
      · exact Or.inr (Or.inl named)
      · rw [supervised, running, Option.elim_some, none] at held
        cases held
      · exact Or.inr (Or.inr (Or.inr gone))
    · intro next there
      obtain rfl := Option.some.inj there
      exact ⟨handled, rfl⟩
  | @drain dams here perm =>
    rw [here] at gathered
    obtain ⟨handled, none⟩ := gathered
    refine ⟨inv.tidy, fun i dam found => ?_, fun absent => (by cases absent), ?_, inv.published⟩
    · rcases inv.placed i dam found with default | ⟨entry, member, rfl⟩ | held | gone
      · exact Or.inl default
      · have drained : entry.dam ∈ dams :=
          (List.isPerm_iff.1 perm).mem_iff.2 (List.mem_map_of_mem member)
        exact Or.inr (Or.inr (Or.inl (List.mem_append_right _ drained)))
      · rw [supervised, running] at held
        exact Or.inr (Or.inr (Or.inl (List.mem_append_left _ held)))
      · exact Or.inr (Or.inr (Or.inr gone))
    · intro next there
      obtain rfl := Option.some.inj there
      exact ⟨handled, none, rfl⟩
  | release here step =>
    rw [here] at gathered
    obtain ⟨legacy, steps, rfl, rfl | ⟨next, stepped⟩⟩ := releaseDam_eq step
    · exact inv.proceed running rfl gathered
    · have ran : ∀ running, s.legacy.Ran running legacy :=
        fun _ => Legacy.ran_of_damStep stepped
      have between : ({ s with legacy := legacy } : Beaver).Tended :=
        inv.ran stage (ran _) rfl rfl
      exact between.proceed running rfl ⟨gathered.1.ran (ran false), gathered.2.ran (ran false)⟩
  | released here =>
    rw [here] at gathered
    exact inv.proceed running rfl gathered
  | collect here all =>
    rw [here] at gathered
    exact inv.proceed running rfl gathered
  | closeLane here step =>
    rw [here] at gathered
    refine inv.supervise running rfl rfl rfl ?_ inv.published
    cases process.options.mode <;> exact gathered
  | closed here =>
    rw [here] at gathered
    exact inv.proceed running rfl gathered
  | @cancelLane control controls lanes here =>
    rw [here] at gathered
    obtain ⟨executor, cancelled, -⟩ := cancel_eq config s control .executorShutdown
    rw [cancelled]
    exact inv.supervise running rfl rfl rfl gathered inv.published
  | cancelledLane here =>
    rw [here] at gathered
    exact inv.proceed running rfl gathered
  | @cancel control snapshot rest here =>
    rw [here] at gathered
    obtain ⟨executor, cancelled, -⟩ :=
      cancelInitial_eq config s process.options.mode control snapshot
    rw [cancelled]
    exact inv.supervise running rfl rfl rfl gathered inv.published
  | cancelled here =>
    rw [here] at gathered
    exact inv.proceed running rfl gathered
  | take here =>
    rw [here] at gathered
    exact inv.takeWorkers running gathered.1 gathered.2
  | arm here armed waits =>
    rw [here] at gathered
    rcases armed with rfl | rfl | rfl <;> exact inv.proceed running rfl gathered
  | timerUnavailable here =>
    rw [here] at gathered
    refine inv.publish running slot gathered fun report reported => ?_
    rcases ShutdownProcess.reported_of_settleGrace reported with before | new
    · exact Or.inl before
    · cases new
  | await here completed =>
    refine inv.await running ?_ here completed
    rcases here with racing | settling
    · rw [racing] at gathered
      exact gathered
    · rw [settling] at gathered
      exact gathered
  | fire here due pending =>
    rw [here] at gathered
    exact inv.proceed running rfl gathered
  | filter here =>
    rw [here] at gathered
    exact inv.proceed running rfl gathered
  | filtered here next =>
    rw [here] at gathered
    rcases next with rfl | rfl <;> exact inv.proceed running rfl gathered
  | force here forced =>
    rw [here] at gathered
    exact inv.proceed running rfl gathered
  | forcedAll here =>
    rw [here] at gathered
    exact inv.proceed running rfl gathered
  | record here found =>
    rw [here] at gathered
    exact inv.proceed running rfl gathered
  | recorded here =>
    rw [here] at gathered
    exact inv.proceed running rfl gathered
  | publishTimeout here =>
    rw [here] at gathered
    refine inv.publish running slot gathered fun report reported => Or.inl ?_
    rcases reported with grace | final
    · cases grace
    · exact Or.inr final
  | report here =>
    rw [here] at gathered
    exact inv.proceed running rfl gathered
  | reportLate here waited =>
    rw [here] at gathered
    exact inv.proceed running rfl gathered
  | reported here =>
    rw [here] at gathered
    obtain ⟨emptied, joined, joins⟩ := gathered
    refine inv.proceed running rfl ⟨emptied, fun unfailed i member => ?_⟩
    rcases joins unfailed i member with joining | finished
    · rw [joined] at joining
      cases joining
    · exact finished
  | @publishGrace report here =>
    rw [here] at gathered
    have finished : report.workerFailures = [] → s.AllFinished := fun unfailed =>
      inv.allFinished running gathered.1 (gathered.2 unfailed) (left report here unfailed)
    refine inv.publish running slot finished fun other reported => ?_
    rcases ShutdownProcess.reported_of_settleGrace reported with before | new
    · exact Or.inl before
    · exact Or.inr (GraceCompletion.stopped.inj new ▸ finished)
  | @publishFinal report here =>
    rw [here] at gathered
    refine inv.publish running slot trivial fun other reported => ?_
    rcases reported with grace | final
    · exact Or.inl (Or.inl grace)
    · cases final
      exact Or.inr gathered
  | failGrace here =>
    refine inv.publish running slot trivial fun report reported => ?_
    rcases ShutdownProcess.reported_of_settleGrace reported with before | new
    · exact Or.inl before
    · cases new
  | failFinal here =>
    refine inv.publish running slot trivial fun report reported => Or.inl ?_
    rcases reported with grace | final
    · exact Or.inl grace
    · cases final
  | stop here => exact inv.supervise running rfl rfl rfl trivial inv.published

/-! ## Runs -/

/-- A final report without failures is about to be published. -/
def isClean (s : Beaver) : Bool :=
  match s.supervisor.map ShutdownSupervisor.phase with
  | some (.publishing report) => report.workerFailures.isEmpty
  | _ => false

/-- When a final report without failures is published, the dams that calls have taken out of
the map have finished. -/
def LeftFinished (s : Beaver) (action : BeaverAction) : Prop :=
  (action.isProceed && s.isClean) = true →
    (s.legacy.left.all fun i => s.legacy.dams[i]?.all Dam.isFinished) = true

instance (s : Beaver) (action : BeaverAction) : Decidable (s.LeftFinished action) :=
  inferInstanceAs (Decidable (_ → _))

/-- The condition, at the step of the supervisor. -/
theorem LeftFinished.publishing (left : s.LeftFinished (.supervisor .proceed))
    (running : s.supervisor = some supervisor) {report : ShutdownReport}
    (here : supervisor.phase = .publishing report) (unfailed : report.workerFailures = []) :
    ∀ i ∈ s.legacy.left, s.DamFinished i := by
  intro i member dam found
  have clean : s.isClean = true := by
    simp [isClean, running, here, unfailed]
  have finished := List.all_eq_true.1 (left (by rw [clean]; rfl)) i member
  rw [found] at finished
  exact finished

theorem proceed_of_publishing {event : SupervisorEvent} {report : ShutdownReport}
    (here : supervisor.phase = .publishing report)
    (step : s.supervisorStep config process supervisor event = some t) : event = .proceed := by
  cases event with
  | proceed => rfl
  | _ =>
    simp only [supervisorStep, here] at step
    cases step

/-- **Step lemma.** -/
theorem Tended.step (inv : s.Tended) (stage : s.Stage) {action : BeaverAction}
    (left : s.LeftFinished action) (step : s.step config action = some t) : t.Tended := by
  cases Moved.of_step step with
  | outside _ moved =>
    exact inv.ran stage moved.legacyRan moved.aside.supervisor moved.aside.shutdownProcess
  | callShutdown => exact inv.ran stage (.refl _ _) rfl rfl
  | shutdown here moved => exact inv.called stage here (CallMoved.of_shutdownStep moved)
  | supervisor slot running moved =>
    refine inv.supervisorMoved stage slot running (fun report here => ?_)
      (SupervisorMoved.of_supervisorStep moved)
    obtain rfl := proceed_of_publishing here moved
    exact left.publishing running here

theorem tended_of_reaches
    (reached : (beaver config).Reaches LeftFinished (beaver config).init s) : s.Tended := by
  induction reached with
  | refl =>
    have only : ∀ (i : Nat) (dam : Dam), (beaver config).init.legacy.dams[i]? = some dam →
        i = 0 ∧ dam = .withHandle config.buffer := by
      intro i dam found
      cases i with
      | zero => exact ⟨rfl, (Option.some.inj found).symm⟩
      | succ i => cases found
    refine ⟨fun i dam found => ?_, fun i dam found => ?_, fun _ i dam found => ?_,
      fun _ absurd => (by cases absurd), fun _ _ absurd => (by cases absurd)⟩
    · rw [(only i dam found).2]
      exact .of_task_eq_none rfl
    · rw [(only i dam found).1]
      exact Or.inl rfl
    · rw [(only i dam found).2]
      rfl
  | tail before left step ih => exact ih.step (stage_of_reaches before) left step

/-! ## What has finished stays so -/

theorem AllFinished.of_dams (finished : s.AllFinished) (same : t.legacy.dams = s.legacy.dams) :
    t.AllFinished :=
  fun i dam found => finished i dam (same ▸ found)

theorem AllFinished.supervisorMoved (finished : s.AllFinished)
    (moved : SupervisorMoved config s process supervisor t) : t.AllFinished := by
  cases moved with
  | release here step =>
    obtain ⟨legacy, steps, rfl, rfl | ⟨next, stepped⟩⟩ := releaseDam_eq step
    · exact finished.of_dams rfl
    · exact finished.ran (Legacy.ran_of_damStep stepped)
  | take here => exact fun i => (finished i).takeWorkers
  | @cancelLane control controls lanes here =>
    obtain ⟨executor, cancelled, -⟩ := cancel_eq config s control .executorShutdown
    rw [cancelled]
    exact finished.of_dams rfl
  | @cancel control snapshot rest here =>
    obtain ⟨executor, cancelled, -⟩ :=
      cancelInitial_eq config s process.options.mode control snapshot
    rw [cancelled]
    exact finished.of_dams rfl
  | _ => exact finished.of_dams rfl

/-- Once a process is there no dam is made, and no worker that has exited comes back. -/
theorem AllFinished.step (finished : s.AllFinished) (stage : s.Stage)
    (slot : s.shutdownProcess = some process) {action : BeaverAction}
    (step : s.step config action = some t) : t.AllFinished := by
  cases Moved.of_step step with
  | outside _ moved =>
    have ran := moved.legacyRan
    rw [decide_eq_false (stage.lifecycle_ne_running slot)] at ran
    exact finished.ran ran
  | callShutdown => exact finished.of_dams rfl
  | shutdown _ moved => cases CallMoved.of_shutdownStep moved <;> exact finished.of_dams rfl
  | supervisor _ _ moved => exact finished.supervisorMoved (SupervisorMoved.of_supervisorStep moved)

theorem AllFinished.reaches (finished : s.AllFinished) (stage : s.Stage)
    (slot : s.shutdownProcess = some process)
    (run : (beaver config).Reaches (fun _ _ => True) s t) : t.AllFinished := by
  have kept : t.AllFinished ∧ t.Stage ∧ ∃ process, t.shutdownProcess = some process := by
    induction run with
    | refl => exact ⟨finished, stage, process, slot⟩
    | tail _ _ step ih =>
      obtain ⟨finished, stage, process, slot⟩ := ih
      obtain ⟨stage', advances⟩ := stage.step step
      obtain ⟨after, slot', -⟩ := advances.process process slot
      exact ⟨finished.step stage slot step, stage', after, slot'⟩
  exact kept.1

/-! ## The result -/

/-- **Main result.**  When `destroy` answers `Ok`, or the final report has no failures, the
worker of every dam has exited and nothing executes, now and later; the dams that were taken
out of the map are the only ones this asks anything of. -/
theorem legacy_shutdown_complete {config : BeaverConfig} {s : Beaver} {process : ShutdownProcess}
    (reached : (beaver config).Reaches LeftFinished (beaver config).init s)
    (slot : s.shutdownProcess = some process)
    (clean : process.destroy = some (.ok ()) ∨
      ∃ report, process.finalReport = some (.ok report) ∧ report.workerFailures = []) :
    ∀ t, (beaver config).Reaches (fun _ _ => True) s t → ∀ dam ∈ t.legacy.dams,
      dam.worker.hasExited = true ∧ dam.isExecuting = false := by
  intro t run dam member
  have reported : ∃ report, process.Reported report ∧ report.workerFailures = [] := by
    rcases clean with answered | ⟨report, final, unfailed⟩
    · exact ShutdownProcess.reported_of_destroy answered
    · exact ⟨report, Or.inr final, unfailed⟩
  obtain ⟨report, there, unfailed⟩ := reported
  have finished := (tended_of_reaches reached).published process report slot there unfailed
  have after := finished.reaches (stage_of_reaches reached) slot run
  obtain ⟨i, bound, found⟩ := List.getElem_of_mem member
  have here : dam.isFinished = true := after i dam (List.getElem?_eq_some_iff.2 ⟨bound, found⟩)
  exact ⟨((Bool.and_eq_true _ _).mp here).1, Dam.not_executing here⟩

/-- A named dam whose task executes, with one attempt. -/
def namedRun : List BeaverAction :=
  [.legacy (.enqueueOnNewThread (.fixedCount 1) "job" 1 false), .legacy (.advance 0 []),
    .legacy (.advance 0 []), .legacy (.advance 0 []), .legacy (.worker 1 .proceed),
    .legacy (.worker 1 .proceed), .legacy (.worker 1 .proceed), .legacy (.worker 1 .proceed),
    .legacy (.worker 1 .proceed), .legacy (.task 1 .proceed), .legacy (.task 1 (.callback none)),
    .legacy (.task 1 .proceed), .legacy (.task 1 .proceed)]

/-- `cancel_all` takes the dam out of the map, and drops it. -/
def cancelAllRun : List BeaverAction :=
  [.legacy (.cancelAll []), .legacy (.advance 1 []), .legacy (.advance 1 []),
    .legacy (.advance 1 []), .legacy (.advance 1 []), .legacy (.advance 1 [1]),
    .legacy (.advance 1 []), .legacy (.advance 1 []), .legacy (.advance 1 []),
    .legacy (.dropDam 1), .legacy (.advance 2 []), .legacy (.advance 2 []),
    .legacy (.advance 2 []), .legacy (.advance 2 [])]

/-- The attempt ends, and the worker exits. -/
def settledRun : List BeaverAction :=
  [.legacy (.task 1 (.result false)), .legacy (.task 1 .proceed),
    .legacy (.task 1 (.callback none)), .legacy (.worker 1 .proceed),
    .legacy (.worker 1 .proceed), .legacy (.worker 1 .proceed)]

/-- `destroy`, which finds the default dam alone. -/
def destroyRun : List BeaverAction :=
  [.callShutdown 0 {} 0, .shutdown 0 (.proceed 0), .shutdown 0 (.proceed 0),
    .shutdown 0 (.controls []), .shutdown 0 (.spawn true)] ++ supervisedRun

theorem legacy_shutdown_complete_settled :
    ∃ s process, (beaver smallBeaver).Reaches LeftFinished (beaver smallBeaver).init s ∧
      s.shutdownProcess = some process ∧ process.destroy = some (.ok ()) ∧ s.legacy.left = [1] ∧
      ∀ t, (beaver smallBeaver).Reaches (fun _ _ => True) s t → ∀ dam ∈ t.legacy.dams,
        dam.worker.hasExited = true ∧ dam.isExecuting = false := by
  have runs : ((beaver smallBeaver).exec (beaver smallBeaver).init
      (namedRun ++ cancelAllRun ++ settledRun ++ destroyRun)).map (fun s =>
        (s.legacy.left, s.shutdownProcess.map ShutdownProcess.grace)) =
        some ([1], some (some (.stopped ⟨[], [], [], 5⟩))) := by
    decide +kernel
  have meets : (beaver smallBeaver).Meets LeftFinished (beaver smallBeaver).init
      (namedRun ++ cancelAllRun ++ settledRun ++ destroyRun) := by
    decide +kernel
  obtain ⟨s, exec, facts⟩ := Option.map_eq_some_iff.1 runs
  obtain ⟨left, published⟩ := Prod.mk.inj facts
  obtain ⟨process, slot, grace⟩ := Option.map_eq_some_iff.1 published
  have reached := System.Reaches.of_exec exec meets
  have answered : process.destroy = some (.ok ()) := by
    rw [ShutdownProcess.destroy, ShutdownProcess.waitGraceOutcome, grace]
    rfl
  exact ⟨s, process, reached, slot, answered, left,
    legacy_shutdown_complete reached slot (Or.inl answered)⟩

/-- `destroy` answers `Ok` while the task of a dam that `cancel_all` took away executes. -/
theorem cancelled_dam_outlives_destroy :
    ∃ s process dam, (beaver smallBeaver).Reachable s ∧ s.shutdownProcess = some process ∧
      process.destroy = some (.ok ()) ∧ dam ∈ s.legacy.dams ∧
      dam.worker.hasExited = false ∧ dam.isExecuting = true := by
  have runs : ((beaver smallBeaver).exec (beaver smallBeaver).init
      (namedRun ++ cancelAllRun ++ destroyRun)).map (fun s =>
        (s.legacy.dams[1]?.map fun dam => (dam.worker.hasExited, dam.isExecuting),
          s.shutdownProcess.map ShutdownProcess.grace)) =
        some (some (false, true), some (some (.stopped ⟨[], [], [], 5⟩))) := by
    decide +kernel
  obtain ⟨s, exec, facts⟩ := Option.map_eq_some_iff.1 runs
  obtain ⟨running, published⟩ := Prod.mk.inj facts
  obtain ⟨dam, found, there⟩ := Option.map_eq_some_iff.1 running
  obtain ⟨process, slot, grace⟩ := Option.map_eq_some_iff.1 published
  obtain ⟨awake, executing⟩ := Prod.mk.inj there
  refine ⟨s, process, dam, .of_schedule _ exec, slot, ?_, List.mem_of_getElem? found, awake,
    executing⟩
  rw [ShutdownProcess.destroy, ShutdownProcess.waitGraceOutcome, grace]
  rfl

end Beaver

end BusyBeaver
