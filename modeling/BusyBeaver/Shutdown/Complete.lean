import BusyBeaver.Shutdown.Seal

/-!
# The typed shutdown is complete

When the final report is published as `Ok`, every accepted execution is terminal, the
dispatcher of every lane has exited, and nothing is accepted any more (`shutdown_complete`).
The supervisor joins the dispatchers of all lanes (`Swept`), for no lane is created once the
lifecycle has left `running`.  When it drains, it requests no stop of a finite execution: the
snapshots it goes by have the kinds of their executions (`Labelled`).
-/

namespace BusyBeaver

open Transition

namespace Beaver

variable {config : BeaverConfig} {s t : Beaver} {process : ShutdownProcess}
  {supervisor : ShutdownSupervisor} {phase : ShutdownPhase}

/-! ## The accepted executions -/

theorem Stage.left_of_accepting (stage : s.Stage) {caller : Nat}
    (held : s.lifecycleHolder = some (.accepting caller)) : s.lifecycle ≠ .running := by
  cases stage with
  | idle _ _ _ _ _ free => exact absurd held (free caller)
  | created _ _ _ _ _ free => exact absurd held (free caller)
  | accepted _ _ _ _ shutting => simp [shutting]
  | preparing _ _ _ _ shutting => simp [shutting]
  | supervised _ _ _ _ _ free => exact absurd held (free caller)

/-- What was accepted is active when the accepting call takes its snapshot, or terminal, and
the supervisor has waited for what was active. -/
theorem finished_of_final (reached : (beaver config).Reachable s)
    (slot : s.shutdownProcess = some process) {report : ShutdownReport}
    (final : process.finalReport = some (.ok report)) (id : ExecutionId) :
    ¬ s.executor.Unfinished id := by
  intro unfinished
  obtain ⟨actions, run, -⟩ := reached.exists_exec
  obtain ⟨supervisor, running, -, -, records, recorded, -⟩ := accurate_of_final reached slot final
  obtain ⟨before, action, after, x, rfl, first, caller, -, held, -, all⟩ :=
    (chronicle_of_exec run).initial supervisor running
  obtain ⟨x', y, first', early, -, taken, late⟩ :=
    System.Reaches.split run (System.Meets.of_forall (fun _ _ => trivial) _ _)
  obtain rfl := Option.some.inj (first.symm.trans first')
  have left := (stage_of_reaches early).left_of_accepting held
  obtain ⟨-, -, earlier⟩ :=
    Sealed.earlier early left ((System.Reaches.single trivial taken).trans late)
  obtain ⟨z, found, entered, unended⟩ := unfinished
  obtain ⟨w, there, same, running'⟩ := earlier id z found
  have active : id ∈ x.executor.active :=
    Executor.Unfinished.active (executor_reaches early)
      ⟨w, there, same ▸ entered, running' unended⟩
  rw [← all, List.mem_toFinset] at active
  -- its record says that it has ended
  obtain ⟨entry, member, rfl⟩ := List.mem_map.1 active
  obtain ⟨record, -, -, -, ⟨z', found', terminal⟩, -⟩ :=
    exists_of_forall₂ recorded.flip entry member
  obtain rfl := Option.some.inj (found.symm.trans found')
  rw [unended] at terminal
  cases terminal

/-! ## The dispatchers of the lanes -/

/-- The dispatcher task of the lane has exited. -/
def HasExited (s : Beaver) (lane : LaneId) : Prop :=
  ∃ failure, s.dispatchers lane = .exited failure

def AllExited (s : Beaver) : Prop := ∀ lane ∈ s.laneMap, s.HasExited lane

/-- What the supervisor has of the dispatchers in a phase. -/
def Joined (s : Beaver) (supervisor : ShutdownSupervisor) : ShutdownPhase → Prop
  | .spawned | .draining | .releasing _ | .collecting => s.takenDispatchers = ∅
  | .closing _ | .cancellingLane _ _ | .cancelling _ | .taking =>
    s.takenDispatchers = ∅ ∧ supervisor.lanes.toFinset = s.laneMap
  | .arming | .timerUnavailable | .racing | .filtering _ | .forcing _ | .recording _ _
  | .timingOut _ | .settling =>
    ∀ lane ∈ s.laneMap, ShutdownWorker.dispatcher lane ∈ supervisor.workers ∨ s.HasExited lane
  | .reporting _ _ _ | .publishing _ | .publishingFinal _ => s.AllExited
  | _ => True

/-- A dispatcher belongs to a lane of the map. -/
def Housed (s : Beaver) : Prop := ∀ lane, s.dispatchers lane ≠ .absent → lane ∈ s.laneMap

/-- The lanes of a reachable state. -/
structure Swept (s : Beaver) : Prop where
  housed : s.Housed
  untaken : s.supervisor = none → s.takenDispatchers = ∅
  joined : ∀ supervisor, s.supervisor = some supervisor → s.Joined supervisor supervisor.phase
  published : ∀ process report, s.shutdownProcess = some process →
    process.finalReport = some (.ok report) → s.AllExited

/-- What a step does to the lanes, unless it takes the handles. -/
structure Tends (s t : Beaver) : Prop where
  housed : t.Housed
  laneMap : s.lifecycle ≠ .running → t.laneMap = s.laneMap
  exited : ∀ lane, s.HasExited lane → t.HasExited lane
  taken : t.takenDispatchers = s.takenDispatchers

theorem Tends.of_same (housed : s.Housed) (laneMap : t.laneMap = s.laneMap)
    (dispatchers : t.dispatchers = s.dispatchers)
    (taken : t.takenDispatchers = s.takenDispatchers) : Tends s t where
  housed := fun lane there => laneMap ▸ housed lane (dispatchers ▸ there)
  laneMap := fun _ => laneMap
  exited := by
    rintro lane ⟨failure, exited⟩
    exact ⟨failure, dispatchers ▸ exited⟩
  taken := taken

/-- A dispatcher that is there goes on. -/
theorem Tends.of_update (housed : s.Housed) {lane : LaneId} {task : DispatcherTask}
    (there : s.dispatchers lane ≠ .absent)
    (goes : s.HasExited lane → ∃ failure, task = .exited failure)
    (laneMap : t.laneMap = s.laneMap)
    (dispatchers : t.dispatchers = Function.update s.dispatchers lane task)
    (taken : t.takenDispatchers = s.takenDispatchers) : Tends s t where
  housed := by
    intro other present
    rw [laneMap]
    by_cases same : other = lane
    · exact same ▸ housed lane there
    · rw [dispatchers, Function.update_of_ne same] at present
      exact housed other present
  laneMap := fun _ => laneMap
  exited := by
    intro other exited
    by_cases same : other = lane
    · subst same
      obtain ⟨failure, rfl⟩ := goes exited
      exact ⟨failure, by rw [dispatchers, Function.update_self]⟩
    · obtain ⟨failure, exited⟩ := exited
      exact ⟨failure, by rw [dispatchers, Function.update_of_ne same, exited]⟩
  taken := taken

theorem Outside.tends (housed : s.Housed) (outside : Outside config s t) : Tends s t := by
  cases outside with
  | executor | spawn | submit | setCleanup | legacy => exact .of_same housed rfl rfl rfl
  | @createLane lane running new =>
    refine ⟨fun other there => ?_, fun left => absurd running left, ?_, rfl⟩
    · by_cases same : other = lane
      · exact same ▸ Finset.mem_insert_self _ _
      · have present : Function.update s.dispatchers lane .running other ≠ .absent := there
        rw [Function.update_of_ne same] at present
        exact Finset.mem_insert_of_mem (housed other present)
    · rintro other ⟨failure, exited⟩
      have apart : other ≠ lane := by
        rintro rfl
        exact new (housed other (by simp [exited]))
      exact ⟨failure, (Function.update_of_ne apart ..).trans exited⟩
  | @dispatch lane executor running =>
    by_cases leaves : (executor.lanes lane).lane.shouldExit = true
    · have there : s.dispatchers lane ≠ .absent := by simp [running]
      refine .of_update housed there ?_ rfl (if_pos leaves) rfl
      rintro ⟨failure, exited⟩
      rw [running] at exited
      cases exited
    · exact .of_same housed rfl (if_neg leaves) rfl
  | loseDispatcher running =>
    refine .of_update housed (by simp [running]) ?_ rfl rfl rfl
    rintro ⟨failure, exited⟩
    rw [running] at exited
    cases exited
  | @stopDispatcher lane failure _ leaving =>
    exact .of_update housed (by simp [leaving]) (fun _ => ⟨failure, rfl⟩) rfl rfl rfl

theorem Tends.allExited (tends : Tends s t) (left : s.lifecycle ≠ .running)
    (exited : s.AllExited) : t.AllExited := by
  intro lane member
  rw [tends.laneMap left] at member
  exact tends.exited lane (exited lane member)

theorem Tends.joined (tends : Tends s t) (left : s.lifecycle ≠ .running)
    (joined : s.Joined supervisor phase) : t.Joined supervisor phase := by
  cases phase with
  | spawned | draining | releasing _ | collecting => exact tends.taken.trans joined
  | closing _ | cancellingLane _ _ | cancelling _ | taking =>
    exact ⟨tends.taken.trans joined.1, joined.2.trans (tends.laneMap left).symm⟩
  | arming | timerUnavailable | racing | filtering _ | forcing _ | recording _ _ | timingOut _
  | settling =>
    intro lane member
    rw [tends.laneMap left] at member
    exact (joined lane member).imp_right (tends.exited lane)
  | reporting _ _ _ | publishing _ | publishingFinal _ => exact tends.allExited left joined
  | _ => trivial

/-- **Step lemma**, for what leaves the process and the supervisor alone. -/
theorem Swept.aside (swept : s.Swept) (stage : s.Stage) (tends : Tends s t)
    (supervisor : t.supervisor = s.supervisor)
    (process : t.shutdownProcess = s.shutdownProcess) : t.Swept where
  housed := tends.housed
  untaken := fun absent => tends.taken.trans (swept.untaken (supervisor.symm.trans absent))
  joined := by
    intro found there
    have running := supervisor.symm.trans there
    obtain ⟨process, slot⟩ := stage.exists_process running
    exact tends.joined (stage.lifecycle_ne_running slot) (swept.joined found running)
  published := by
    intro found report there final
    have slot := process.symm.trans there
    have exited := swept.published found report slot final
    exact tends.allExited (stage.lifecycle_ne_running slot) exited

theorem Swept.called (swept : s.Swept) (stage : s.Stage) {caller : Nat} {call : ShutdownCall}
    (here : s.shutdowns caller = some call) (moved : CallMoved config s caller call t) :
    t.Swept := by
  cases moved with
  | write =>
    refine ⟨swept.housed, swept.untaken, swept.joined, fun found report there final => ?_⟩
    obtain rfl := Option.some.inj there
    rw [(stage.of_accepted here).1.2] at final
    cases final
  | start begins =>
    have absent := stage.supervisor_of_busy here rfl
    refine ⟨swept.housed, fun absurd => (by cases absurd), fun supervisor there => ?_,
      swept.published⟩
    obtain rfl := Option.some.inj there
    rcases begins with rfl | rfl
    · exact swept.untaken absent
    · trivial
  | _ => exact swept.aside stage (.of_same swept.housed rfl rfl rfl) rfl rfl

/-! ## The supervisor -/

/-- A move of the supervisor that leaves the lanes alone. -/
theorem Swept.supervise (swept : s.Swept) {next : ShutdownSupervisor}
    (laneMap : t.laneMap = s.laneMap) (dispatchers : t.dispatchers = s.dispatchers)
    (there : t.supervisor = some next) (joined : t.Joined next next.phase)
    (published : ∀ process report, t.shutdownProcess = some process →
      process.finalReport = some (.ok report) → s.AllExited) : t.Swept where
  housed := fun lane present => laneMap ▸ swept.housed lane (dispatchers ▸ present)
  untaken := fun absent => by
    rw [there] at absent
    cases absent
  joined := by
    intro found present
    obtain rfl := Option.some.inj (there.symm.trans present)
    exact joined
  published := by
    intro process report slot final lane member
    obtain ⟨failure, exited⟩ := published process report slot final lane (laneMap ▸ member)
    exact ⟨failure, dispatchers ▸ exited⟩

/-- A move of the supervisor alone. -/
theorem Swept.proceed (swept : s.Swept) {next : ShutdownSupervisor} {phase : ShutdownPhase}
    (joined : (s.moveTo next phase).Joined { next with phase := phase } phase) :
    (s.moveTo next phase).Swept :=
  swept.supervise rfl rfl rfl joined swept.published

/-- A move that writes to the process. -/
theorem Swept.publish (swept : s.Swept) (slot : s.shutdownProcess = some process)
    {write : ShutdownProcess → ShutdownProcess}
    (joined : (s.moveTo supervisor phase).Joined { supervisor with phase := phase } phase)
    (published : ∀ report, (write process).finalReport = some (.ok report) →
      process.finalReport = some (.ok report) ∨ s.AllExited) :
    ((s.publish write).moveTo supervisor phase).Swept := by
  have joined : ((s.publish write).moveTo supervisor phase).Joined
      { supervisor with phase := phase } phase := by
    cases phase <;> exact joined
  refine swept.supervise rfl rfl rfl joined fun found report there now => ?_
  have written : some (write process) = some found := by
    rw [← there, Beaver.moveTo, Beaver.publish, slot]
    rfl
  obtain rfl := Option.some.inj written
  rcases published report now with before | exited
  · exact swept.published process report slot before
  · exact exited

/-- No handle has been taken yet, so that of every lane is taken now. -/
theorem Swept.takeWorkers (swept : s.Swept) (untaken : s.takenDispatchers = ∅)
    (all : supervisor.lanes.toFinset = s.laneMap) : (s.takeWorkers supervisor).Swept := by
  refine swept.supervise rfl rfl rfl (fun lane member => Or.inl ?_) swept.published
  have member : lane ∈ s.laneMap := member
  rw [← all, List.mem_toFinset] at member
  refine List.mem_append_right _ (List.mem_map_of_mem (List.mem_filter.2 ⟨member, ?_⟩))
  rw [untaken]
  exact decide_eq_true (Finset.notMem_empty lane)

/-- The completion goes on. -/
theorem Swept.await (swept : s.Swept) {after : ShutdownSupervisor}
    (joins : ∀ lane ∈ s.laneMap,
      ShutdownWorker.dispatcher lane ∈ supervisor.workers ∨ s.HasExited lane)
    (here : supervisor.phase = .racing ∨ supervisor.phase = .settling)
    (completed : s.complete supervisor = some after) :
    ({ s with supervisor := some after } : Beaver).Swept := by
  have waits : ∀ {next : ShutdownSupervisor}, next.phase = supervisor.phase →
      (∀ lane ∈ s.laneMap, ShutdownWorker.dispatcher lane ∈ next.workers ∨ s.HasExited lane) →
      ({ s with supervisor := some next } : Beaver).Swept := by
    intro next same joins
    refine swept.supervise rfl rfl rfl ?_ swept.published
    rw [same]
    rcases here with racing | settling
    · rw [racing]
      exact joins
    · rw [settling]
      exact joins
  unfold complete at completed
  split at completed
  · obtain ⟨summary, -, rfl⟩ := Option.map_eq_some_iff.1 completed
    exact waits rfl joins
  · rename_i worker rest waiting workers
    obtain ⟨failure, result, rfl⟩ := Option.map_eq_some_iff.1 completed
    refine waits rfl fun lane member => ?_
    rcases joins lane member with joining | exited
    · rw [workers] at joining
      rcases List.mem_cons.1 joining with rfl | later
      · -- its join handle has an answer
        simp only [workerResult] at result
        split at result
        · rename_i failure' exited
          exact Or.inr ⟨failure', exited⟩
        · cases result
      · exact Or.inl later
    · exact Or.inr exited
  · rename_i waiting workers
    obtain rfl := Option.some.inj completed
    refine swept.supervise rfl rfl rfl (fun lane member => ?_) swept.published
    rcases joins lane member with joining | exited
    · rw [workers] at joining
      cases joining
    · exact exited

/-- **Step lemma** of the supervisor. -/
theorem Swept.supervisorMoved (swept : s.Swept) (slot : s.shutdownProcess = some process)
    (running : s.supervisor = some supervisor)
    (moved : SupervisorMoved config s process supervisor t) : t.Swept := by
  have joined := swept.joined supervisor running
  cases moved with
  | dropped before => exact swept.proceed trivial
  | takeDefault here =>
    rw [here] at joined
    exact swept.supervise rfl rfl rfl joined swept.published
  | drain here perm =>
    rw [here] at joined
    exact swept.supervise rfl rfl rfl joined swept.published
  | release here step =>
    rw [here] at joined
    obtain ⟨legacy, steps, rfl, -⟩ := releaseDam_eq step
    exact swept.supervise rfl rfl rfl joined swept.published
  | released here =>
    rw [here] at joined
    exact swept.proceed joined
  | collect here all =>
    rw [here] at joined
    exact swept.proceed ⟨joined, all⟩
  | closeLane here step =>
    rw [here] at joined
    refine swept.supervise rfl rfl rfl ?_ swept.published
    cases process.options.mode <;> exact joined
  | closed here =>
    rw [here] at joined
    exact swept.proceed joined
  | @cancelLane control controls lanes here =>
    rw [here] at joined
    obtain ⟨executor, cancelled, -⟩ := cancel_eq config s control .executorShutdown
    rw [cancelled]
    exact swept.supervise rfl rfl rfl joined swept.published
  | cancelledLane here =>
    rw [here] at joined
    exact swept.proceed joined
  | @cancel control snapshot rest here =>
    rw [here] at joined
    obtain ⟨executor, cancelled, -⟩ :=
      cancelInitial_eq config s process.options.mode control snapshot
    rw [cancelled]
    exact swept.supervise rfl rfl rfl joined swept.published
  | cancelled here =>
    rw [here] at joined
    exact swept.proceed joined
  | take here =>
    rw [here] at joined
    exact swept.takeWorkers joined.1 joined.2
  | arm here armed waits =>
    rw [here] at joined
    rcases armed with rfl | rfl | rfl <;> exact swept.proceed joined
  | timerUnavailable here =>
    rw [here] at joined
    exact swept.publish slot joined fun report final => Or.inl final
  | await here completed =>
    refine swept.await ?_ here completed
    rcases here with racing | settling
    · rw [racing] at joined
      exact joined
    · rw [settling] at joined
      exact joined
  | fire here due pending =>
    rw [here] at joined
    exact swept.proceed joined
  | filter here =>
    rw [here] at joined
    exact swept.proceed joined
  | filtered here next =>
    rw [here] at joined
    rcases next with rfl | rfl <;> exact swept.proceed joined
  | force here forced =>
    rw [here] at joined
    exact swept.proceed joined
  | forcedAll here =>
    rw [here] at joined
    exact swept.proceed joined
  | record here found =>
    rw [here] at joined
    exact swept.proceed joined
  | recorded here =>
    rw [here] at joined
    exact swept.proceed joined
  | publishTimeout here =>
    rw [here] at joined
    exact swept.publish slot joined fun report final => Or.inl final
  | report here =>
    rw [here] at joined
    exact swept.proceed joined
  | reportLate here waited =>
    rw [here] at joined
    exact swept.proceed joined
  | reported here =>
    rw [here] at joined
    exact swept.proceed joined
  | publishGrace here =>
    rw [here] at joined
    exact swept.publish slot joined fun report final => Or.inl final
  | publishFinal here =>
    rw [here] at joined
    exact swept.publish slot trivial fun report final => Or.inr joined
  | failGrace here => exact swept.publish slot trivial fun report final => Or.inl final
  | failFinal here => exact swept.publish slot trivial fun report final => by cases final
  | stop here => exact swept.supervise rfl rfl rfl trivial swept.published

/-- **Step lemma.** -/
theorem Swept.step (swept : s.Swept) (stage : s.Stage) {action : BeaverAction}
    (step : s.step config action = some t) : t.Swept := by
  cases Moved.of_step step with
  | outside _ moved =>
    exact swept.aside stage (moved.tends swept.housed) moved.aside.supervisor
      moved.aside.shutdownProcess
  | callShutdown => exact swept.aside stage (.of_same swept.housed rfl rfl rfl) rfl rfl
  | shutdown here moved => exact swept.called stage here (CallMoved.of_shutdownStep moved)
  | supervisor slot running moved =>
    exact swept.supervisorMoved slot running (SupervisorMoved.of_supervisorStep moved)

theorem swept_of_reaches (reached : (beaver config).Reachable s) : s.Swept := by
  induction reached with
  | refl =>
    refine ⟨fun lane there => absurd rfl there, fun _ => rfl, fun _ absurd => (by cases absurd),
      fun _ _ absurd => (by cases absurd)⟩
  | tail before _ step ih => exact ih.step (stage_of_reaches before) step

/-! ## Draining -/

/-- The execution whose `control.cancel` is the next section of the supervisor. -/
def submits (s : Beaver) : Option ExecutionId :=
  match s.shutdownProcess, s.supervisor.map ShutdownSupervisor.phase with
  | some _, some (.cancellingLane (control :: _) _) => some control
  | some process, some (.cancelling ((control, snapshot) :: _)) =>
    if process.options.mode = .cancelAll ∨ snapshot.kind ≠ .finite then some control else none
  | _, _ => none

/-- The supervisor changes an execution by that `control.cancel` alone. -/
theorem executions_of_supervisorStep {event : SupervisorEvent}
    (slot : s.shutdownProcess = some process) (running : s.supervisor = some supervisor)
    (step : s.supervisorStep config process supervisor event = some t) :
    t.executor.executions = s.executor.executions ∨ ∃ id, s.submits = some id ∧
      t.executor = (s.cancel config id .executorShutdown).executor := by
  cases SupervisorMoved.of_supervisorStep step with
  | release here released =>
    obtain ⟨legacy, steps, rfl, -⟩ := releaseDam_eq released
    exact Or.inl rfl
  | closeLane here closed => exact Or.inl (Executor.executions_of_requestClose closed)
  | @cancelLane control controls lanes here =>
    refine Or.inr ⟨control, ?_, rfl⟩
    simp [submits, slot, running, here]
  | @cancel control snapshot rest here =>
    cases mode : process.options.mode with
    | cancelAll =>
      refine Or.inr ⟨control, ?_, rfl⟩
      simp [submits, slot, running, here, mode]
    | drainFinite =>
      by_cases finite : snapshot.kind = .finite
      · refine Or.inl ?_
        rw [cancelInitial, if_neg (by simp [finite])]
        rfl
      · refine Or.inr ⟨control, ?_, ?_⟩
        · simp [submits, slot, running, here, finite]
        · rw [cancelInitial, if_pos finite]
          rfl
  | _ => exact Or.inl rfl

/-- The snapshot has the kind of its execution. -/
def Labelled (s : Beaver) (entry : ExecutionId × TaskSnapshot) : Prop :=
  s.executor.executions entry.1 ≠ none ∧ entry.2.kind = s.kinds entry.1

theorem Labelled.of_snapshot {id : ExecutionId} {snapshot : TaskSnapshot}
    (taken : s.snapshot id = some snapshot) : s.Labelled (id, snapshot) := by
  obtain ⟨x, found, rfl⟩ := Option.map_eq_some_iff.1 taken
  exact ⟨by simp [found], rfl⟩

theorem SupervisorMoved.kinds_eq (moved : SupervisorMoved config s process supervisor t) :
    t.kinds = s.kinds := by
  obtain ⟨_, _, _, _, _, _, rfl⟩ := moved.within
  rfl

/-- The kind of an execution that is there does not change. -/
theorem kinds_of_step {action : BeaverAction} (step : s.step config action = some t)
    {id : ExecutionId} (present : s.executor.executions id ≠ none) : t.kinds id = s.kinds id := by
  cases Moved.of_step step with
  | outside _ moved =>
    cases moved with
    | submit _ stepped =>
      obtain ⟨⟨-, -, absent⟩, -⟩ := Option.ite_none_right_eq_some.1 stepped
      exact Function.update_of_ne (fun same => present (by rw [same]; exact absent)) ..
    | spawn _ _ stepped =>
      obtain ⟨absent, -⟩ := Option.ite_none_right_eq_some.1 stepped
      exact Function.update_of_ne (fun same => present (by rw [same]; exact absent)) ..
    | _ => rfl
  | callShutdown => rfl
  | shutdown _ moved => cases CallMoved.of_shutdownStep moved <;> rfl
  | supervisor _ _ moved => rw [(SupervisorMoved.of_supervisorStep moved).kinds_eq]

theorem Labelled.step (reached : (beaver config).Reachable s) {action : BeaverAction}
    (step : s.step config action = some t) {entry : ExecutionId × TaskSnapshot}
    (labelled : s.Labelled entry) : t.Labelled entry := by
  obtain ⟨present, kind⟩ := labelled
  refine ⟨?_, kind.trans (kinds_of_step step present).symm⟩
  rcases executorMoved_of_step step with same | ⟨inner, moved⟩
  · rw [same]
    exact present
  · rcases ((coupled_of_reaches reached).step moved).2 entry.1 with
      ⟨same, -⟩ | ⟨-, -, absent, -⟩ | ⟨-, -, -, after⟩
    · rw [same]
      exact present
    · exact absurd absent present
    · rw [(Executor.view_eq_some.1 after).1]
      exact Option.some_ne_none _

/-- Whom the supervisor may still cancel: when it drains, those of its snapshots alone. -/
def Spares (mode : ShutdownMode) (supervisor : ShutdownSupervisor) : ShutdownPhase → Prop
  | .cancellingLane _ _ => mode = .cancelAll
  | .cancelling rest => ∀ entry ∈ rest, entry ∈ supervisor.initial
  | _ => True

theorem SupervisorMoved.spares (moved : SupervisorMoved config s process supervisor t)
    (spares : Spares process.options.mode supervisor supervisor.phase) {next : ShutdownSupervisor}
    (there : t.supervisor = some next) : Spares process.options.mode next next.phase := by
  cases moved with
  | release here step =>
    obtain ⟨legacy, steps, rfl, -⟩ := releaseDam_eq step
    obtain rfl := Option.some.inj there
    trivial
  | closeLane here step =>
    obtain rfl := Option.some.inj there
    cases process.options.mode with
    | cancelAll => rfl
    | drainFinite => trivial
  | closed here =>
    obtain rfl := Option.some.inj there
    exact fun entry member => member
  | cancelLane here =>
    rw [here] at spares
    obtain rfl := Option.some.inj there
    exact spares
  | cancel here =>
    rw [here] at spares
    obtain rfl := Option.some.inj there
    exact fun entry member => spares entry (List.mem_cons_of_mem _ member)
  | arm here armed waits =>
    obtain rfl := Option.some.inj there
    rcases armed with rfl | rfl | rfl <;> trivial
  | await here completed =>
    obtain rfl := Option.some.inj there
    rcases phase_of_complete completed with same | reporting
    · rw [same]
      rcases here with here | here <;> rw [here] <;> trivial
    · rw [reporting]
      trivial
  | filtered here following =>
    obtain rfl := Option.some.inj there
    rcases following with rfl | rfl <;> trivial
  | _ =>
    obtain rfl := Option.some.inj there
    trivial

/-- The snapshots of a reachable state. -/
structure Drains (s : Beaver) : Prop where
  prepared : ∀ caller id rest initial, s.shutdowns caller = some (.preparing id rest initial) →
    ∀ entry ∈ initial, s.Labelled entry
  initial : ∀ supervisor, s.supervisor = some supervisor →
    ∀ entry ∈ supervisor.initial, s.Labelled entry
  spares : ∀ process supervisor, s.shutdownProcess = some process →
    s.supervisor = some supervisor → Spares process.options.mode supervisor supervisor.phase

/-- **Step lemma**, for a section of a call: the snapshots it has are good ones. -/
theorem Drains.set (drains : s.Drains) (later : ∀ entry, s.Labelled entry → t.Labelled entry)
    {caller : Nat} {record : ShutdownCall} (same : t.shutdowns = s.shutdowns.set caller record)
    (own : ∀ id rest initial, record = .preparing id rest initial →
      ∀ entry ∈ initial, s.Labelled entry) :
    ∀ caller id rest initial, t.shutdowns caller = some (.preparing id rest initial) →
      ∀ entry ∈ initial, t.Labelled entry := by
  intro other id rest initial found entry member
  rw [same] at found
  rcases Pool.of_set_eq_some found with ⟨-, answer⟩ | ⟨-, old⟩
  · exact later entry (own id rest initial answer entry member)
  · exact later entry (drains.prepared other id rest initial old entry member)

theorem Drains.called (drains : s.Drains) (stage : s.Stage)
    (later : ∀ entry, s.Labelled entry → t.Labelled entry) {caller : Nat} {call : ShutdownCall}
    (here : s.shutdowns caller = some call) (moved : CallMoved config s caller call t) :
    t.Drains := by
  -- nobody is supervising while a call is on its way
  have idle : call.isBusy = true → t.supervisor = s.supervisor →
      (∀ caller id rest initial, t.shutdowns caller = some (.preparing id rest initial) →
        ∀ entry ∈ initial, t.Labelled entry) → t.Drains := by
    intro busy same prepared
    have absent := same.trans (stage.supervisor_of_busy here busy)
    refine ⟨prepared, fun found there => ?_, fun process found _ there => ?_⟩
    · rw [absent] at there
      cases there
    · rw [absent] at there
      cases there
  cases moved with
  | answer =>
    refine ⟨drains.set later rfl fun _ _ _ absurd => (by cases absurd), fun found there => ?_,
      drains.spares⟩
    exact fun entry member => later entry (drains.initial found there entry member)
  | create _ _ _ =>
    refine ⟨drains.set later rfl fun _ _ _ absurd => (by cases absurd), fun found there => ?_,
      drains.spares⟩
    exact fun entry member => later entry (drains.initial found there entry member)
  | accept free running closed =>
    exact idle rfl rfl (drains.set later rfl fun _ _ _ absurd => by cases absurd)
  | refuse =>
    exact idle rfl rfl (drains.set later rfl fun _ _ _ absurd => by cases absurd)
  | write all active =>
    refine idle rfl rfl (drains.set later rfl fun _ _ _ same entry member => ?_)
    obtain ⟨-, -, rfl⟩ := ShutdownCall.preparing.inj same
    cases member
  | @prepare id control rest initial snapshot taken =>
    refine idle rfl rfl (drains.set later rfl fun _ _ _ same entry member => ?_)
    obtain ⟨-, -, rfl⟩ := ShutdownCall.preparing.inj same
    rcases List.mem_append.1 member with old | new
    · exact drains.prepared caller _ _ _ here entry old
    · obtain rfl := List.mem_singleton.1 new
      exact .of_snapshot taken
  | @start id initial phase begins =>
    refine ⟨drains.set later rfl fun _ _ _ absurd => (by cases absurd), fun found there => ?_,
      fun process found _ there => ?_⟩
    · obtain rfl := Option.some.inj there
      exact fun entry member => later entry (drains.prepared caller _ _ _ here entry member)
    · obtain rfl := Option.some.inj there
      rcases begins with rfl | rfl <;> trivial

/-- **Step lemma.** -/
theorem Drains.step (drains : s.Drains) (reached : (beaver config).Reachable s)
    {action : BeaverAction} (step : s.step config action = some t) : t.Drains := by
  have later : ∀ entry, s.Labelled entry → t.Labelled entry := fun _ => Labelled.step reached step
  cases Moved.of_step step with
  | outside _ moved =>
    have aside := moved.aside
    refine ⟨fun caller id rest initial found entry member => ?_, fun found there entry member => ?_,
      fun process found slot there => ?_⟩
    · rw [aside.shutdowns] at found
      exact later entry (drains.prepared caller id rest initial found entry member)
    · rw [aside.supervisor] at there
      exact later entry (drains.initial found there entry member)
    · rw [aside.shutdownProcess] at slot
      rw [aside.supervisor] at there
      exact drains.spares process found slot there
  | callShutdown _ answer =>
    refine ⟨drains.set later rfl fun _ _ _ same => ?_, fun found there entry member => ?_,
      drains.spares⟩
    · rcases answer with rfl | rfl <;> cases same
    · exact later entry (drains.initial found there entry member)
  | shutdown here moved =>
    exact drains.called (stage_of_reaches reached) later here (CallMoved.of_shutdownStep moved)
  | @supervisor event process supervisor _ slot running supervised =>
    have moved := SupervisorMoved.of_supervisorStep supervised
    obtain ⟨next, there, same, -⟩ := pending_of_supervisorStep running supervised
    obtain ⟨after, slot', extended⟩ :=
      ((stage_of_reaches reached).step step).2.process process slot
    refine ⟨fun caller id rest initial found entry member => ?_,
      fun found there' entry member => ?_, fun process' found slot'' there' => ?_⟩
    · rw [moved.shutdowns] at found
      exact later entry (drains.prepared caller id rest initial found entry member)
    · obtain rfl := Option.some.inj (there.symm.trans there')
      rw [same] at member
      exact later entry (drains.initial supervisor running entry member)
    · obtain rfl := Option.some.inj (slot'.symm.trans slot'')
      rw [extended.options]
      exact moved.spares (drains.spares process supervisor slot running) there'

theorem drains_of_reaches (reached : (beaver config).Reachable s) : s.Drains := by
  induction reached with
  | refl =>
    exact ⟨fun _ _ _ _ absurd => (by cases absurd), fun _ absurd => (by cases absurd),
      fun _ _ absurd => by cases absurd⟩
  | tail before _ step ih => exact ih.step before step

/-- When it drains, the supervisor requests no stop of a finite execution. -/
theorem Drains.kind_ne_finite (drains : s.Drains) (slot : s.shutdownProcess = some process)
    (mode : process.options.mode = .drainFinite) {id : ExecutionId}
    (submits : s.submits = some id) : s.kinds id ≠ .finite := by
  cases running : s.supervisor with
  | none => simp [Beaver.submits, slot, running] at submits
  | some supervisor =>
    have spares := drains.spares process supervisor slot running
    simp only [Beaver.submits, slot, running, Option.map_some] at submits
    split at submits
    · rename_i control controls lanes _ here
      rw [Option.some.inj here, mode] at spares
      cases spares
    · rename_i process' control snapshot rest same here
      obtain rfl := Option.some.inj same
      rw [Option.some.inj here] at spares
      have member := spares (control, snapshot) (List.mem_cons_self ..)
      obtain ⟨-, kind⟩ := drains.initial supervisor running _ member
      obtain ⟨unspared, same⟩ := Option.ite_none_right_eq_some.1 submits
      obtain rfl := Option.some.inj same
      rw [← kind]
      exact unspared.resolve_left (by simp [mode])
    · cases submits

theorem executions_of_cancel (config : BeaverConfig) (s : Beaver) {id other : ExecutionId}
    (reason : CancelReason) (apart : other ≠ id) :
    (s.cancel config id reason).executor.executions other = s.executor.executions other := by
  unfold cancel
  split
  · rename_i executor step
    obtain ⟨x, -, requested⟩ := Option.bind_eq_some_iff.1 step
    obtain ⟨y, -, rfl⟩ := Option.map_eq_some_iff.1 requested
    rw [Executor.put_executions]
    exact Pool.set_of_ne apart
  · rfl

/-! ## The shutdown -/

/-- The shutdown is complete: what there will be after the final report. -/
structure CompleteShutdown (s t : Beaver) : Prop where
  /-- Whatever was accepted is terminal. -/
  terminal : ∀ id, ¬ t.executor.Unfinished id
  dispatchers : ∀ lane, t.dispatchers lane = .absent ∨ t.HasExited lane
  /-- Nothing has been accepted since. -/
  accepted : ∀ id, t.executor.Accepts id → s.executor.Accepts id

/-- An execution that stays in the queue of a lane. -/
def queuedRun : List BeaverAction :=
  .createLane 0 :: .submit 1 .finite 0 {} none false ::
    List.replicate 5 (.executor (.advanceAdmission 1))

/-- A draining shutdown finds it, and an execution outside the lane, and gets to its timer. -/
def drainingRun : List BeaverAction :=
  [.callShutdown 0 { mode := .drainFinite } 0, .shutdown 0 (.proceed 0),
    .shutdown 0 (.proceed 0), .shutdown 0 (.controls [2, 1]), .shutdown 0 (.proceed 0),
    .shutdown 0 (.proceed 0), .shutdown 0 (.spawn true), .supervisor .proceed,
    .supervisor (.drain []), .supervisor .proceed, .supervisor .proceed, .supervisor .proceed,
    .supervisor .proceed, .supervisor .proceed, .supervisor (.collect [0]),
    .supervisor (.controls [1]), .supervisor .proceed, .supervisor .proceed,
    .supervisor .proceed, .supervisor .proceed, .supervisor .proceed, .supervisor (.timer true),
    .legacy (.worker 0 .proceed)]

/-- The lane starts its execution. -/
def startedRun : List BeaverAction :=
  [.dispatch 0, .executor (.start 1), .executor (.run 1), .executor (.run 1), .executor (.run 1)]

/-- The lane is empty: its dispatcher leaves, and the report is published. -/
def drainedRun : List BeaverAction :=
  [.executor (.monitor 1), .dispatch 0, .stopDispatcher 0, .supervisor .proceed,
    .supervisor .proceed, .supervisor .proceed, .supervisor .proceed, .supervisor .proceed,
    .supervisor .proceed, .supervisor .proceed, .supervisor (.elapsed 4), .supervisor .proceed,
    .supervisor .proceed, .supervisor .proceed]

end Beaver

end BusyBeaver
