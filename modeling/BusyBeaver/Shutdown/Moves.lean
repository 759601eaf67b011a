import BusyBeaver.Shutdown.State
import BusyBeaver.Executor.Closing

/-!
# What a step of the shutdown does

`SupervisorMoved` lists the moves of the supervisor, with what each has found; everything
that does not belong to the shutdown leaves its part of the state alone (`Aside`).  The
executor inside takes at most one of its own steps at a time, so a run of the `Beaver` is a
run of the executor.
-/

namespace BusyBeaver

open Transition

/-- A step of a call of `shutdown`, or of the supervisor. -/
def BeaverAction.isShutdown : BeaverAction → Bool
  | .callShutdown _ _ _ | .shutdown _ _ | .supervisor _ => true
  | _ => false

/-- The runtime polls the supervisor. -/
def BeaverAction.isProceed : BeaverAction → Bool
  | .supervisor .proceed => true
  | _ => false

namespace Beaver

variable {config : BeaverConfig} {s t : Beaver} {process : ShutdownProcess}
  {supervisor : ShutdownSupervisor} {phase : ShutdownPhase} {event : SupervisorEvent}

/-! ## The calls of `shutdown` -/

/-- Every section of a call of `shutdown` after its options have been validated. -/
inductive CallMoved (config : BeaverConfig) (s : Beaver) (caller : Nat) :
    ShutdownCall → Beaver → Prop
  | answer {options : ShutdownOptions} {result : Except ShutdownError Nat} :
    CallMoved config s caller (.validated options) (s.setShutdown caller (.returned result))
  | create {options : ShutdownOptions} {process : ShutdownProcess} {now : Instant} :
    s.slotHolder = none → s.shutdownProcess = none →
    ShutdownProcess.new config.maxInstant s.shutdownProcessCreations options now = some process →
    CallMoved config s caller (.validated options)
      ({ s with
        slotHolder := some caller
        shutdownProcessCreations := s.shutdownProcessCreations + 1 }.setShutdown caller
          (.created process))
  | accept {process : ShutdownProcess} {executor : Executor} :
    s.lifecycleHolder = none → s.lifecycle = .running →
    s.executor.step config.toExecutorConfig .closeAdmission = some executor →
    CallMoved config s caller (.created process)
      ({ s with
        executor := executor
        lifecycle := .shuttingDown
        lifecycleHolder := some (.accepting caller) }.setShutdown caller (.accepted process))
  | refuse {process : ShutdownProcess} :
    s.lifecycleHolder = none → s.lifecycle ≠ .running →
    CallMoved config s caller (.created process)
      ({ s with slotHolder := none }.setShutdown caller (.returned (.error .lockPoisoned)))
  | write {process : ShutdownProcess} {controls : List ExecutionId} :
    controls.Nodup → controls.toFinset = s.executor.active →
    CallMoved config s caller (.accepted process)
      ({ s with
        lifecycleHolder := none
        slotHolder := none
        shutdownProcess := some process }.setShutdown caller (.preparing process.id controls []))
  | prepare {id : Nat} {control : ExecutionId} {rest : List ExecutionId}
      {initial : List (ExecutionId × TaskSnapshot)} {snapshot : TaskSnapshot} :
    s.snapshot control = some snapshot →
    CallMoved config s caller (.preparing id (control :: rest) initial)
      (s.setShutdown caller (.preparing id rest (initial ++ [(control, snapshot)])))
  | start {id : Nat} {initial : List (ExecutionId × TaskSnapshot)} {phase : ShutdownPhase} :
    phase = .spawned ∨ phase = .failing →
    CallMoved config s caller (.preparing id [] initial)
      ({ s with supervisor := some (newSupervisor phase initial) }.setShutdown caller
        (.returned (.ok id)))

namespace CallMoved

theorem of_lockSlot {caller : Nat} {options : ShutdownOptions} {now : Instant}
    (step : s.lockSlot config caller options now = some t) :
    CallMoved config s caller (.validated options) t := by
  unfold lockSlot at step
  split at step
  · rename_i free
    split at step
    · split at step
      · exact Option.some.inj step ▸ .answer
      · cases step
    · rename_i empty
      split at step
      · exact Option.some.inj step ▸ .answer
      · rename_i process created
        exact Option.some.inj step ▸ .create free empty created
  · cases step

theorem of_acceptShutdown {caller : Nat}
    (step : s.acceptShutdown config caller process = some t) :
    CallMoved config s caller (.created process) t := by
  unfold acceptShutdown at step
  split at step
  · rename_i free
    split at step
    · rename_i running
      obtain ⟨executor, closed, rfl⟩ := Option.map_eq_some_iff.1 step
      exact .accept free running closed
    · rename_i stopped
      exact Option.some.inj step ▸ .refuse free stopped
  · cases step

/-- **Step lemma** of the calls. -/
theorem of_shutdownStep {caller : Nat} {call : ShutdownCall} {event : ShutdownEvent}
    (step : s.shutdownStep config caller call event = some t) :
    CallMoved config s caller call t := by
  unfold shutdownStep at step
  split at step
  · exact of_lockSlot step
  · exact of_acceptShutdown step
  · split at step
    · rename_i all
      exact Option.some.inj step ▸ .write all.1 all.2
    · cases step
  · obtain ⟨snapshot, found, rfl⟩ := Option.map_eq_some_iff.1 step
    exact .prepare found
  · rename_i available
    refine Option.some.inj step ▸ .start ?_
    cases available with
    | true => exact Or.inl rfl
    | false => exact Or.inr rfl
  · cases step

end CallMoved

/-! ## The supervisor -/

/-- Every move of the supervisor. -/
inductive SupervisorMoved (config : BeaverConfig) (s : Beaver) (process : ShutdownProcess)
    (supervisor : ShutdownSupervisor) : Beaver → Prop
  | dropped :
    supervisor.phase.isFinal = false →
    SupervisorMoved config s process supervisor (s.moveTo supervisor .failing)
  | takeDefault :
    supervisor.phase = .spawned →
    SupervisorMoved config s process supervisor
      ({ s with legacy := { s.legacy with default := none } }.moveTo
        { supervisor with dams := s.legacy.default.toList } .draining)
  | drain {dams : List Nat} :
    supervisor.phase = .draining → dams.isPerm (s.legacy.named.map NamedEntry.dam) = true →
    SupervisorMoved config s process supervisor
      ({ s with legacy := { s.legacy with named := [] } }.moveTo
        { supervisor with dams := supervisor.dams ++ dams }
        (.releasing ((supervisor.dams ++ dams).flatMap (onDam · Dam.release))))
  | release {dam : Nat} {step : DamStep} {rest : List CallStep} {t : Beaver} :
    supervisor.phase = .releasing (.work dam step :: rest) →
    s.releaseDam supervisor rest dam step = some t → SupervisorMoved config s process supervisor t
  | released :
    supervisor.phase = .releasing [] →
    SupervisorMoved config s process supervisor (s.moveTo supervisor .collecting)
  | collect {lanes : List LaneId} :
    supervisor.phase = .collecting → lanes.toFinset = s.laneMap →
    SupervisorMoved config s process supervisor
      (s.moveTo { supervisor with lanes := lanes } (.closing lanes))
  | closeLane {lane : LaneId} {lanes : List LaneId} {controls : List ExecutionId}
      {executor : Executor} :
    supervisor.phase = .closing (lane :: lanes) →
    s.executor.step config.toExecutorConfig (.requestClose lane) = some executor →
    SupervisorMoved config s process supervisor
      ({ s with executor := executor }.moveTo supervisor
        (match process.options.mode with
        | .cancelAll => .cancellingLane controls lanes
        | .drainFinite => .closing lanes))
  | closed :
    supervisor.phase = .closing [] →
    SupervisorMoved config s process supervisor
      (s.moveTo supervisor (.cancelling supervisor.initial))
  | cancelLane {control : ExecutionId} {controls : List ExecutionId} {lanes : List LaneId} :
    supervisor.phase = .cancellingLane (control :: controls) lanes →
    SupervisorMoved config s process supervisor
      ((s.cancel config control .executorShutdown).moveTo supervisor
        (.cancellingLane controls lanes))
  | cancelledLane {lanes : List LaneId} :
    supervisor.phase = .cancellingLane [] lanes →
    SupervisorMoved config s process supervisor (s.moveTo supervisor (.closing lanes))
  | cancel {control : ExecutionId} {snapshot : TaskSnapshot}
      {rest : List (ExecutionId × TaskSnapshot)} :
    supervisor.phase = .cancelling ((control, snapshot) :: rest) →
    SupervisorMoved config s process supervisor
      ((s.cancelInitial config process.options.mode control snapshot).moveTo supervisor
        (.cancelling rest))
  | cancelled :
    supervisor.phase = .cancelling [] →
    SupervisorMoved config s process supervisor (s.moveTo supervisor .taking)
  | take :
    supervisor.phase = .taking →
    SupervisorMoved config s process supervisor (s.takeWorkers supervisor)
  | arm {next : ShutdownPhase} :
    supervisor.phase = .arming → next = .settling ∨ next = .racing ∨ next = .timerUnavailable →
    (process.options.onTimeout = .wait → next = .settling) →
    SupervisorMoved config s process supervisor (s.moveTo supervisor next)
  | timerUnavailable :
    supervisor.phase = .timerUnavailable →
    SupervisorMoved config s process supervisor
      ((s.publish fun process => process.settleGrace .timerUnavailable).moveTo supervisor
        .settling)
  | await {after : ShutdownSupervisor} :
    supervisor.phase = .racing ∨ supervisor.phase = .settling →
    s.complete supervisor = some after →
    SupervisorMoved config s process supervisor { s with supervisor := some after }
  | fire {now : Instant} :
    supervisor.phase = .racing → process.graceDeadline ≤ now →
    supervisor.isComplete = false →
    SupervisorMoved config s process supervisor
      (s.moveTo supervisor (.filtering supervisor.initial))
  | filter {control : ExecutionId} {snapshot : TaskSnapshot}
      {rest : List (ExecutionId × TaskSnapshot)} :
    supervisor.phase = .filtering ((control, snapshot) :: rest) →
    SupervisorMoved config s process supervisor
      (s.moveTo
        { supervisor with
          pending :=
            if s.isTerminal control then supervisor.pending else supervisor.pending ++ [control] }
        (.filtering rest))
  | filtered {next : ShutdownPhase} :
    supervisor.phase = .filtering [] →
    next = .forcing supervisor.pending ∨ next = .recording supervisor.initial [] →
    SupervisorMoved config s process supervisor
      (s.moveTo { supervisor with exceeded := supervisor.pending.toFinset } next)
  | force {control : ExecutionId} {rest : List ExecutionId} {forced : Finset ExecutionId} :
    supervisor.phase = .forcing (control :: rest) →
    forced = supervisor.forced ∨ forced = insert control supervisor.forced →
    SupervisorMoved config s process supervisor
      (s.moveTo { supervisor with forced := forced } (.forcing rest))
  | forcedAll :
    supervisor.phase = .forcing [] →
    SupervisorMoved config s process supervisor
      (s.moveTo supervisor (.recording supervisor.initial []))
  | record {control : ExecutionId} {initial current : TaskSnapshot}
      {rest : List (ExecutionId × TaskSnapshot)} {records : List TaskShutdownProgressRecord} :
    supervisor.phase = .recording ((control, initial) :: rest) records →
    s.snapshot control = some current →
    SupervisorMoved config s process supervisor
      (s.moveTo supervisor
        (.recording rest (records ++ [s.progressRecord supervisor control initial current])))
  | recorded {records : List TaskShutdownProgressRecord} {now : Instant} :
    supervisor.phase = .recording [] records →
    SupervisorMoved config s process supervisor
      (s.moveTo supervisor (.timingOut
        { tasks := records
          callbackFailures := s.callbackFailures supervisor
          workerFailures := []
          elapsed := now - process.acceptedAt }))
  | publishTimeout {snapshot : ShutdownReportSnapshot} :
    supervisor.phase = .timingOut snapshot →
    SupervisorMoved config s process supervisor
      ((s.publish fun process => process.publishTimeout snapshot supervisor.pending).moveTo
        supervisor .settling)
  | report {control : ExecutionId} {initial : TaskSnapshot} {summary : TaskExitSummary}
      {rest : List (ExecutionId × TaskSnapshot)} {summaries : List TaskExitSummary}
      {records : List TaskShutdownRecord} :
    supervisor.phase = .reporting ((control, initial) :: rest) (summary :: summaries) records →
    SupervisorMoved config s process supervisor
      (s.moveTo supervisor (.reporting rest summaries
        (records ++ [s.shutdownRecord supervisor control initial summary])))
  | reportLate {control : ExecutionId} {initial : TaskSnapshot} {summary : TaskExitSummary}
      {rest : List (ExecutionId × TaskSnapshot)} {records : List TaskShutdownRecord} :
    supervisor.phase = .reporting ((control, initial) :: rest) [] records →
    s.waited control = some summary →
    SupervisorMoved config s process supervisor
      (s.moveTo supervisor (.reporting rest []
        (records ++ [s.shutdownRecord supervisor control initial summary])))
  | reported {summaries : List TaskExitSummary} {records : List TaskShutdownRecord}
      {now : Instant} :
    supervisor.phase = .reporting [] summaries records →
    SupervisorMoved config s process supervisor
      (s.moveTo supervisor
        (.publishing (s.finalReport supervisor process.acceptedAt now records)))
  | publishGrace {report : ShutdownReport} :
    supervisor.phase = .publishing report →
    SupervisorMoved config s process supervisor
      ((s.publish fun process => process.settleGrace (.stopped report)).moveTo supervisor
        (.publishingFinal report))
  | publishFinal {report : ShutdownReport} :
    supervisor.phase = .publishingFinal report →
    SupervisorMoved config s process supervisor
      ((s.publish fun process => process.settleFinal (.ok report)).moveTo supervisor .finishing)
  | failGrace :
    supervisor.phase = .failing →
    SupervisorMoved config s process supervisor
      ((s.publish fun process => process.settleGrace (.failed cancelledMessage)).moveTo supervisor
        .failingFinal)
  | failFinal :
    supervisor.phase = .failingFinal →
    SupervisorMoved config s process supervisor
      ((s.publish fun process => process.settleFinal (.error cancelledMessage)).moveTo supervisor
        .failingStopped)
  | stop :
    supervisor.phase = .finishing ∨ supervisor.phase = .failingStopped →
    SupervisorMoved config s process supervisor
      ({ s with lifecycle := .stopped }.moveTo supervisor .ended)

namespace SupervisorMoved

theorem of_begin (here : supervisor.phase = phase)
    (step : s.begin config process supervisor phase event = some t) :
    SupervisorMoved config s process supervisor t := by
  unfold Beaver.begin at step
  split at step
  · exact Option.some.inj step ▸ .takeDefault here
  · unfold Beaver.drain at step
    split at step
    · rename_i perm
      exact Option.some.inj step ▸ .drain here perm
    · cases step
  · exact .release here step
  · exact Option.some.inj step ▸ .released here
  · split at step
    · rename_i lanes all
      exact Option.some.inj step ▸ .collect here all.2
    · cases step
  · unfold Beaver.closeLane at step
    split at step
    · obtain ⟨executor, moved, rfl⟩ := Option.map_eq_some_iff.1 step
      exact .closeLane here moved
    · cases step
  · exact Option.some.inj step ▸ .closed here
  · exact Option.some.inj step ▸ .cancelLane here
  · exact Option.some.inj step ▸ .cancelledLane here
  · exact Option.some.inj step ▸ .cancel here
  · exact Option.some.inj step ▸ .cancelled here
  · exact Option.some.inj step ▸ .take here
  · cases step

theorem of_awaitCompletion (here : supervisor.phase = phase)
    (step : s.awaitCompletion process supervisor phase event = some t) :
    SupervisorMoved config s process supervisor t := by
  unfold Beaver.awaitCompletion at step
  split at step
  · rename_i available
    obtain rfl := Option.some.inj step
    by_cases waits : process.options.onTimeout = .wait
    · rw [if_pos waits]
      exact .arm here (Or.inl rfl) fun _ => rfl
    · rw [if_neg waits]
      refine .arm here (Or.inr ?_) fun waiting => (waits waiting).elim
      cases available with
      | true => exact Or.inl rfl
      | false => exact Or.inr rfl
  · exact Option.some.inj step ▸ .timerUnavailable here
  · obtain ⟨after, moved, rfl⟩ := Option.map_eq_some_iff.1 step
    exact .await (Or.inl here) moved
  · obtain ⟨after, moved, rfl⟩ := Option.map_eq_some_iff.1 step
    exact .await (Or.inr here) moved
  · split at step
    · rename_i due
      exact Option.some.inj step ▸ .fire here due.1 due.2
    · cases step
  · cases step

theorem of_timeOut (here : supervisor.phase = phase)
    (step : s.timeOut process supervisor phase event = some t) :
    SupervisorMoved config s process supervisor t := by
  unfold Beaver.timeOut at step
  split at step
  · exact Option.some.inj step ▸ .filter here
  · obtain rfl := Option.some.inj step
    split
    · exact .filtered here (Or.inl rfl)
    · exact .filtered here (Or.inr rfl)
  · rename_i control rest answer
    split at step
    · obtain rfl := Option.some.inj step
      refine .force here ?_
      cases countsAsForced answer with
      | true => exact Or.inr rfl
      | false => exact Or.inl rfl
    · cases step
  · exact Option.some.inj step ▸ .forcedAll here
  · obtain ⟨current, found, rfl⟩ := Option.map_eq_some_iff.1 step
    exact .record here found
  · exact Option.some.inj step ▸ .recorded here
  · exact Option.some.inj step ▸ .publishTimeout here
  · cases step

theorem of_report (here : supervisor.phase = phase)
    (step : s.report process supervisor phase event = some t) :
    SupervisorMoved config s process supervisor t := by
  unfold Beaver.report at step
  split at step
  · exact Option.some.inj step ▸ .report here
  · obtain ⟨summary, waited, rfl⟩ := Option.map_eq_some_iff.1 step
    exact .reportLate here waited
  · exact Option.some.inj step ▸ .reported here
  · cases step

theorem of_settle (here : supervisor.phase = phase) (step : s.settle supervisor phase = some t) :
    SupervisorMoved config s process supervisor t := by
  unfold Beaver.settle at step
  split at step
  · exact Option.some.inj step ▸ .publishGrace here
  · exact Option.some.inj step ▸ .publishFinal here
  · split at step
    · exact Option.some.inj step ▸ .stop (Or.inl here)
    · cases step
  · split at step
    · exact Option.some.inj step ▸ .stop (Or.inr here)
    · cases step
  · exact Option.some.inj step ▸ .failGrace here
  · exact Option.some.inj step ▸ .failFinal here
  · cases step

/-- **Step lemma** of the supervisor. -/
theorem of_supervisorStep (step : s.supervisorStep config process supervisor event = some t) :
    SupervisorMoved config s process supervisor t := by
  unfold Beaver.supervisorStep at step
  split at step
  case h_1 =>
    split at step
    · rename_i suspended
      refine Option.some.inj step ▸ .dropped ?_
      cases phase : supervisor.phase with
      | spawned => rfl
      | racing => rfl
      | settling => rfl
      | _ => simp [phase, ShutdownPhase.suspended] at suspended
    · cases step
  case h_2 =>
    split at step
    · cases step
    · rename_i before
      exact Option.some.inj step ▸ .dropped (Bool.eq_false_iff.2 before)
  case h_3 =>
    -- each part of the task has its own phases
    cases here : supervisor.phase with
    | spawned | draining | releasing | collecting | closing | cancellingLane | cancelling
    | taking =>
      simp only [here] at step
      exact of_begin here step
    | arming | timerUnavailable | racing | settling =>
      simp only [here] at step
      exact of_awaitCompletion here step
    | filtering | forcing | recording | timingOut =>
      simp only [here] at step
      exact of_timeOut here step
    | reporting =>
      simp only [here] at step
      exact of_report here step
    | _ =>
      simp only [here] at step
      split at step
      · exact of_settle here step
      · cases step

end SupervisorMoved

/-! ## The executor inside -/

/-- The executor takes at most one of its steps. -/
def ExecutorMoved (config : BeaverConfig) (executor after : Executor) : Prop :=
  after = executor ∨ ∃ action, executor.step config.toExecutorConfig action = some after

/-- The same, but for the closing of the admission and for what creates an execution. -/
def ExecutorRan (config : BeaverConfig) (executor after : Executor) : Prop :=
  after = executor ∨ ∃ action, action ≠ .closeAdmission ∧ action.creates = none ∧
    executor.step config.toExecutorConfig action = some after

theorem ExecutorRan.moved {executor after : Executor} (ran : ExecutorRan config executor after) :
    ExecutorMoved config executor after := by
  rcases ran with same | ⟨action, -, -, step⟩
  · exact Or.inl same
  · exact Or.inr ⟨action, step⟩

theorem ExecutorRan.admissionOpen {executor after : Executor}
    (ran : ExecutorRan config executor after) : after.admissionOpen = executor.admissionOpen := by
  rcases ran with same | ⟨action, other, -, step⟩
  · rw [same]
  · exact Executor.admissionOpen_of_step step other

theorem cancel_eq (config : BeaverConfig) (s : Beaver) (id : ExecutionId) (reason : CancelReason) :
    ∃ executor, s.cancel config id reason = { s with executor := executor } ∧
      ExecutorRan config s.executor executor := by
  unfold cancel
  split
  · rename_i executor step
    exact ⟨executor, rfl, Or.inr ⟨_, by simp, rfl, step⟩⟩
  · exact ⟨s.executor, rfl, Or.inl rfl⟩

theorem cancelInitial_eq (config : BeaverConfig) (s : Beaver) (mode : ShutdownMode)
    (id : ExecutionId) (snapshot : TaskSnapshot) :
    ∃ executor, s.cancelInitial config mode id snapshot = { s with executor := executor } ∧
      ExecutorRan config s.executor executor := by
  cases mode with
  | cancelAll => exact cancel_eq config s id .executorShutdown
  | drainFinite =>
    simp only [cancelInitial]
    split
    · exact cancel_eq config s id .executorShutdown
    · exact ⟨s.executor, rfl, Or.inl rfl⟩

/-- A section of `dam.release()` touches the legacy state alone, and no worker by itself. -/
theorem releaseDam_eq {rest : List CallStep} {dam : Nat} {step : DamStep}
    (released : s.releaseDam supervisor rest dam step = some t) :
    ∃ legacy steps, t = { s with legacy := legacy }.moveTo supervisor (.releasing steps) ∧
      (legacy = s.legacy ∨ ∃ next, s.legacy.damStep dam step = some (.ok (legacy, next))) := by
  unfold releaseDam at released
  obtain ⟨result, stepped, rfl⟩ := Option.map_eq_some_iff.1 released
  cases result with
  | error error => exact ⟨s.legacy, _, rfl, Or.inl rfl⟩
  | ok pair => exact ⟨pair.1, _, rfl, Or.inr ⟨pair.2, stepped⟩⟩

theorem releaseLifecycle_eq (s : Beaver) :
    ∃ holder, s.releaseLifecycle = { s with lifecycleHolder := holder } ∧
      (holder = s.lifecycleHolder ∨
        ∃ id x error, s.lifecycleHolder = some (.spawning id) ∧ holder = none ∧
          s.executor.executions id = some x ∧ x.admission = .returned error) := by
  unfold releaseLifecycle
  split
  · rename_i id held
    split
    · rename_i error answered
      obtain ⟨x, found, admission⟩ := Option.map_eq_some_iff.1 answered
      exact ⟨none, rfl, Or.inr ⟨id, x, error, held, rfl, found, admission⟩⟩
    · exact ⟨s.lifecycleHolder, rfl, Or.inl rfl⟩
  · exact ⟨s.lifecycleHolder, rfl, Or.inl rfl⟩

/-- The legacy calls touch the dams, and request stops. -/
theorem of_runLegacy {action : LegacyAction} (step : s.runLegacy config action = some t) :
    ∃ executor legacy, t = { s with executor := executor, legacy := legacy } ∧
      ExecutorRan config s.executor executor := by
  have moved : ∀ {legacy : Option Legacy},
      legacy.map (fun legacy => { s with legacy := legacy }) = some t →
        ∃ executor legacy, t = { s with executor := executor, legacy := legacy } ∧
          ExecutorRan config s.executor executor := by
    intro legacy moved
    obtain ⟨legacy, -, rfl⟩ := Option.map_eq_some_iff.1 moved
    exact ⟨s.executor, legacy, rfl, Or.inl rfl⟩
  cases action with
  | cancelTyped call =>
    simp only [runLegacy] at step
    split at step
    · rename_i id rest answer _
      obtain ⟨executor, cancelled, ran⟩ := cancel_eq config s id .userRequested
      rw [cancelled] at step
      exact ⟨executor, _, (Option.some.inj step).symm, ran⟩
    · cases step
  | enqueue task =>
    simp only [runLegacy] at step
    split at step
    · exact moved step
    · cases step
  | enqueueOnNewThread task name buffer longResident =>
    simp only [runLegacy] at step
    split at step
    · exact moved step
    · cases step
  | cancelAll controls =>
    simp only [runLegacy] at step
    split at step
    · exact moved step
    · cases step
  | cancelNonLongResident =>
    exact ⟨s.executor, _, (Option.some.inj step).symm, Or.inl rfl⟩
  | releaseThreadResourceByName name =>
    exact ⟨s.executor, _, (Option.some.inj step).symm, Or.inl rfl⟩
  | _ => exact moved step

/-! ## A step -/

/-- What is none of the shutdown's business. -/
inductive Outside (config : BeaverConfig) (s : Beaver) : Beaver → Prop
  -- a direct spawn that answers gives the lifecycle lock back
  | executor {action : ExecutorAction} {executor : Executor} {holder : Option LifecycleHolder} :
    s.permits action = true → s.executor.step config.toExecutorConfig action = some executor →
    (holder = s.lifecycleHolder ∨ ∃ id x error, s.lifecycleHolder = some (.spawning id) ∧
      holder = none ∧ executor.executions id = some x ∧ x.admission = .returned error) →
    Outside config s
      { s with
        executor := executor
        lifecycleHolder := holder }
  | spawn {id : ExecutionId} {kind : ExecutionKind} {tagTooLong : Bool} {executor : Executor} :
    s.lifecycle = .running → s.lifecycleHolder = none →
    s.executor.step config.toExecutorConfig (.spawn id tagTooLong) = some executor →
    Outside config s
      { s with
        executor := executor
        kinds := Function.update s.kinds id kind
        lifecycleHolder := some (.spawning id) }
  | submit {id : ExecutionId} {kind : ExecutionKind} {lane : LaneId} {options : SpawnOptions}
      {ticket : Option Nat} {tagTooLong : Bool} {executor : Executor} :
    lane ∈ s.laneMap →
    s.executor.step config.toExecutorConfig (.submit id lane options ticket tagTooLong) =
      some executor →
    Outside config s
      { s with executor := executor, kinds := Function.update s.kinds id kind }
  | setCleanup {id : ExecutionId} {progress : CleanupProgress} :
    Outside config s { s with cleanups := Function.update s.cleanups id progress }
  | createLane {lane : LaneId} :
    s.lifecycle = .running → lane ∉ s.laneMap →
    Outside config s
      { s with
        laneMap := insert lane s.laneMap
        dispatchers := Function.update s.dispatchers lane .running }
  | dispatch {lane : LaneId} {executor : Executor} :
    s.dispatchers lane = .running →
    s.executor.step config.toExecutorConfig (.dispatch lane) = some executor →
    Outside config s
      { s with
        executor := executor
        dispatchers :=
          if (executor.lanes lane).lane.shouldExit then
            Function.update s.dispatchers lane (.leaving none)
          else s.dispatchers }
  | loseDispatcher {lane : LaneId} {message : String} :
    s.dispatchers lane = .running →
    Outside config s
      { s with dispatchers := Function.update s.dispatchers lane (.leaving (some message)) }
  | stopDispatcher {lane : LaneId} {failure : Option String} {executor : Executor} :
    s.dispatchers lane = .leaving failure →
    s.executor.step config.toExecutorConfig (.dispatcherStopped lane) = some executor →
    Outside config s
      { s with
        executor := executor
        dispatchers := Function.update s.dispatchers lane (.exited failure) }
  | legacy {action : LegacyAction} {executor : Executor} {legacy : Legacy} :
    s.runLegacy config action = some { s with executor := executor, legacy := legacy } →
    ExecutorRan config s.executor executor →
    Outside config s { s with executor := executor, legacy := legacy }

inductive Moved (config : BeaverConfig) (s : Beaver) : BeaverAction → Beaver → Prop
  | outside {action : BeaverAction} {t : Beaver} :
    action.isShutdown = false → Outside config s t → Moved config s action t
  | callShutdown {caller : Nat} {options : ShutdownOptions} {now : Instant}
      {call : ShutdownCall} :
    s.shutdowns caller = none →
    call = .validated options ∨ call = .returned (.error .invalidGracePeriod) →
    Moved config s (.callShutdown caller options now) (s.setShutdown caller call)
  | shutdown {caller : Nat} {event : ShutdownEvent} {call : ShutdownCall} {t : Beaver} :
    s.shutdowns caller = some call → s.shutdownStep config caller call event = some t →
    Moved config s (.shutdown caller event) t
  | supervisor {event : SupervisorEvent} {process : ShutdownProcess}
      {supervisor : ShutdownSupervisor} {t : Beaver} :
    s.shutdownProcess = some process → s.supervisor = some supervisor →
    s.supervisorStep config process supervisor event = some t →
    Moved config s (.supervisor event) t

/-- **Step lemma** of the `Beaver`. -/
theorem Moved.of_step {action : BeaverAction} (step : s.step config action = some t) :
    Moved config s action t := by
  cases action with
  | executor action =>
    obtain ⟨permitted, moved⟩ := Option.ite_none_right_eq_some.1 step
    obtain ⟨executor, stepped, rfl⟩ := Option.map_eq_some_iff.1 moved
    obtain ⟨holder, released, kept⟩ := releaseLifecycle_eq
      { s with executor := executor }
    rw [released]
    exact .outside rfl (.executor permitted stepped kept)
  | spawn id kind tagTooLong =>
    obtain ⟨⟨running, free⟩, moved⟩ := Option.ite_none_right_eq_some.1 step
    obtain ⟨executor, stepped, rfl⟩ := Option.map_eq_some_iff.1 moved
    exact .outside rfl (.spawn running free stepped)
  | submit id kind lane options ticket tagTooLong =>
    obtain ⟨member, moved⟩ := Option.ite_none_right_eq_some.1 step
    obtain ⟨executor, stepped, rfl⟩ := Option.map_eq_some_iff.1 moved
    exact .outside rfl (.submit member stepped)
  | setCleanup id progress =>
    obtain rfl := Option.some.inj step
    exact .outside rfl .setCleanup
  | createLane lane =>
    obtain ⟨⟨running, -, -, -, new⟩, moved⟩ := Option.ite_none_right_eq_some.1 step
    obtain rfl := Option.some.inj moved
    exact .outside rfl (.createLane running new)
  | dispatch lane =>
    obtain ⟨running, moved⟩ := Option.ite_none_right_eq_some.1 step
    obtain ⟨executor, stepped, rfl⟩ := Option.map_eq_some_iff.1 moved
    exact .outside rfl (.dispatch running stepped)
  | loseDispatcher lane message =>
    obtain ⟨running, moved⟩ := Option.ite_none_right_eq_some.1 step
    obtain rfl := Option.some.inj moved
    exact .outside rfl (.loseDispatcher running)
  | stopDispatcher lane =>
    simp only [Beaver.step, Beaver.stopDispatcher] at step
    split at step
    · rename_i failure leaving
      obtain ⟨executor, stepped, rfl⟩ := Option.map_eq_some_iff.1 step
      exact .outside rfl (.stopDispatcher leaving stepped)
    · cases step
  | legacy action =>
    obtain ⟨executor, legacy, rfl, ran⟩ := of_runLegacy step
    exact .outside rfl (.legacy step ran)
  | callShutdown caller options now =>
    obtain ⟨fresh, moved⟩ := Option.ite_none_right_eq_some.1 step
    obtain rfl := Option.some.inj moved
    refine .callShutdown fresh ?_
    split
    · exact Or.inl rfl
    · exact Or.inr rfl
  | shutdown caller event =>
    obtain ⟨call, here, moved⟩ := Option.bind_eq_some_iff.1 step
    exact .shutdown here moved
  | supervisor event =>
    simp only [Beaver.step] at step
    split at step
    · rename_i slot running
      exact .supervisor slot running step
    · cases step

/-! ## The rest leaves the shutdown alone -/

/-- The part of the state that belongs to the shutdown is the same. -/
structure Aside (s t : Beaver) : Prop where
  lifecycle : t.lifecycle = s.lifecycle
  shutdownProcess : t.shutdownProcess = s.shutdownProcess
  slotHolder : t.slotHolder = s.slotHolder
  creations : t.shutdownProcessCreations = s.shutdownProcessCreations
  shutdowns : t.shutdowns = s.shutdowns
  supervisor : t.supervisor = s.supervisor
  accepting : ∀ caller,
    t.lifecycleHolder = some (.accepting caller) ↔ s.lifecycleHolder = some (.accepting caller)
  admission : t.executor.admissionOpen = s.executor.admissionOpen

/-- A closing of the admission is not among the executor's own steps. -/
theorem ne_closeAdmission {action : ExecutorAction} (permitted : s.permits action = true) :
    action ≠ .closeAdmission := by
  rintro rfl
  cases permitted

/-- What creates an execution is not among them either. -/
theorem creates_of_permits {action : ExecutorAction} (permitted : s.permits action = true) :
    action.creates = none := by
  cases action with
  | submit | spawn => cases permitted
  | _ => rfl

theorem Outside.aside (outside : Outside config s t) : Aside s t := by
  cases outside with
  | executor permitted stepped kept =>
    refine ⟨rfl, rfl, rfl, rfl, rfl, rfl, fun caller => ?_,
      Executor.admissionOpen_of_step stepped (ne_closeAdmission permitted)⟩
    rcases kept with rfl | ⟨id, x, error, held, rfl, -⟩
    · exact Iff.rfl
    · simp [held]
  | spawn running free stepped =>
    refine ⟨rfl, rfl, rfl, rfl, rfl, rfl, fun caller => ?_,
      Executor.admissionOpen_of_step stepped (by simp)⟩
    simp [free]
  | submit _ stepped | dispatch _ stepped | stopDispatcher _ stepped =>
    exact ⟨rfl, rfl, rfl, rfl, rfl, rfl, fun _ => Iff.rfl,
      Executor.admissionOpen_of_step stepped (by simp)⟩
  | setCleanup | createLane | loseDispatcher =>
    exact ⟨rfl, rfl, rfl, rfl, rfl, rfl, fun _ => Iff.rfl, rfl⟩
  | legacy _ ran => exact ⟨rfl, rfl, rfl, rfl, rfl, rfl, fun _ => Iff.rfl, ran.admissionOpen⟩

/-! ## A run of the `Beaver` is a run of the executor -/

/-- A move of the supervisor leaves the locks, the map of lanes and the calls alone. -/
theorem SupervisorMoved.within (moved : SupervisorMoved config s process supervisor t) :
    ∃ lifecycle slot next taken legacy executor, t = { s with
      lifecycle := lifecycle
      shutdownProcess := slot
      supervisor := next
      takenDispatchers := taken
      legacy := legacy
      executor := executor } := by
  cases moved with
  | release here step =>
    obtain ⟨legacy, steps, rfl, -⟩ := releaseDam_eq step
    exact ⟨_, _, _, _, _, _, rfl⟩
  | @cancelLane control controls lanes here =>
    obtain ⟨executor, cancelled, -⟩ := cancel_eq config s control .executorShutdown
    rw [cancelled]
    exact ⟨_, _, _, _, _, _, rfl⟩
  | @cancel control snapshot rest here =>
    obtain ⟨executor, cancelled, -⟩ :=
      cancelInitial_eq config s process.options.mode control snapshot
    rw [cancelled]
    exact ⟨_, _, _, _, _, _, rfl⟩
  | _ => exact ⟨_, _, _, _, _, _, rfl⟩

theorem SupervisorMoved.ran (moved : SupervisorMoved config s process supervisor t) :
    ExecutorRan config s.executor t.executor := by
  cases moved with
  | release here step =>
    obtain ⟨legacy, steps, rfl, -⟩ := releaseDam_eq step
    exact Or.inl rfl
  | closeLane here step => exact Or.inr ⟨_, by simp, rfl, step⟩
  | @cancelLane control controls lanes here =>
    obtain ⟨executor, cancelled, ran⟩ := cancel_eq config s control .executorShutdown
    rw [cancelled]
    exact ran
  | @cancel control snapshot rest here =>
    obtain ⟨executor, cancelled, ran⟩ :=
      cancelInitial_eq config s process.options.mode control snapshot
    rw [cancelled]
    exact ran
  | _ => exact Or.inl rfl

theorem CallMoved.executorMoved {caller : Nat} {call : ShutdownCall}
    (moved : CallMoved config s caller call t) : ExecutorMoved config s.executor t.executor := by
  cases moved with
  | accept free running closed => exact Or.inr ⟨_, closed⟩
  | _ => exact Or.inl rfl

theorem Outside.executorMoved (outside : Outside config s t) :
    ExecutorMoved config s.executor t.executor := by
  cases outside with
  | executor _ stepped | spawn _ _ stepped | submit _ stepped | dispatch _ stepped
  | stopDispatcher _ stepped =>
    exact Or.inr ⟨_, stepped⟩
  | setCleanup | createLane | loseDispatcher => exact Or.inl rfl
  | legacy _ ran => exact ran.moved

/-- The executor takes at most one of its steps. -/
theorem executorMoved_of_step {action : BeaverAction} (step : s.step config action = some t) :
    ExecutorMoved config s.executor t.executor := by
  cases Moved.of_step step with
  | outside _ moved => exact moved.executorMoved
  | callShutdown => exact Or.inl rfl
  | shutdown _ moved => exact (CallMoved.of_shutdownStep moved).executorMoved
  | supervisor _ _ moved => exact (SupervisorMoved.of_supervisorStep moved).ran.moved

/-- A run of the `Beaver` is a run of its executor. -/
theorem executor_reaches {ok : Beaver → BeaverAction → Prop}
    (run : (beaver config).Reaches ok s t) :
    (BusyBeaver.executor config.toExecutorConfig).Reaches (fun _ _ => True) s.executor
      t.executor := by
  refine run.map fun _ _ step => ?_
  rcases executorMoved_of_step step with same | ⟨action, moved⟩
  · rw [same]
    exact .refl
  · exact .single trivial moved

end Beaver

end BusyBeaver
