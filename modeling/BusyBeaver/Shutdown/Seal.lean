import BusyBeaver.Shutdown.Report

/-!
# The admission after the acceptance of a shutdown

A direct spawn holds the `lifecycle` lock, a lane submission the admission lock, until it
answers, and the accepting call takes both.  So once the lifecycle has left `running` every
admission call has answered, and no execution is created after that (`Sealed`).
-/

namespace BusyBeaver

open Transition Execution

/-! ## Accepted executions -/

namespace View

variable {v : View} {label : Label} {effect : Effect} {y : Execution}

/-- An inserted execution is active until its commit has passed the removal. -/
def Enrolled (v : View) : Prop :=
  v.execution.admission.isEntered = true → v.active = true ∨ v.execution.runner.hasLeft = true

theorem Enrolled.fresh (fresh : v.Fresh) : v.Enrolled := by
  intro entered
  cases fresh <;> cases entered

theorem Enrolled.kept (enrolled : v.Enrolled) (sound : v.execution.Sound)
    (moved : v.execution.Moved label effect y) : (v.after y effect).Enrolled := by
  intro entered
  rw [after_execution] at entered ⊢
  cases effect with
  | enter => exact Or.inl rfl
  | leave =>
    cases moved
    exact Or.inr rfl
  | silent | record | announce _ =>
    have before := (moved.isEntered (by simp)).symm.trans entered
    exact (enrolled before).imp id (moved.passes sound).1

end View

namespace Executor

variable {config : ExecutorConfig} {s t : Executor} {action : ExecutorAction} {i : ExecutionId}
  {x y : Execution}

/-- The execution is accepted: it has been inserted into the registry. -/
def Accepts (s : Executor) (i : ExecutionId) : Prop :=
  ∃ x, s.executions i = some x ∧ x.admission.isEntered = true

/-- It is accepted, and not terminal. -/
def Unfinished (s : Executor) (i : ExecutionId) : Prop :=
  ∃ x, s.executions i = some x ∧ x.admission.isEntered = true ∧ x.core.terminal = none

/-- Who is accepted and not terminal is in the registry. -/
theorem Unfinished.active (reached : (executor config).Reachable s) (unfinished : s.Unfinished i) :
    i ∈ s.active := by
  obtain ⟨x, found, entered, running⟩ := unfinished
  have seen : s.view i = some ⟨x, decide (i ∈ s.active), s.finishes.count i, s.eventsOf i⟩ :=
    view_eq_some.2 ⟨found, rfl, rfl, rfl⟩
  have enrolled := view_invariant (P := View.Enrolled) reached (fun v fresh => .fresh fresh)
    (fun _ _ _ sound moved before => before.kept sound moved) i _ seen entered
  rcases enrolled with active | left
  · exact of_decide_eq_true active
  · have committed := ((Coupled.of_reaches reached).sound i x found).terminal
    rw [running, Runner.isCommitted_of_hasLeft left] at committed
    cases committed

/-- Every admission call has answered. -/
def Answered (s : Executor) : Prop :=
  ∀ i x, s.executions i = some x → ∃ error, x.admission = .returned error

/-- What there is after a step that creates nothing was there, with its answer, and is
terminal if it was. -/
theorem Answered.earlier (answered : s.Answered) (coupled : s.Coupled config)
    (step : s.step config action = some t) (creates : action.creates = none)
    (found : t.executions i = some y) :
    ∃ x, s.executions i = some x ∧ y.admission = x.admission ∧
      (y.core.terminal = none → x.core.terminal = none) := by
  rcases (coupled.step step).2 i with ⟨same, -⟩ | ⟨-, created, -, -⟩ | ⟨before, moved, -, after⟩
  · exact ⟨y, same ▸ found, rfl, id⟩
  · rw [creates] at created
    cases created
  · have here := (view_eq_some.1 after).1
    rw [View.after_execution] at here
    cases here.symm.trans found
    have earlier := (view_eq_some.1 before).1
    obtain ⟨error, admission⟩ := answered i _ earlier
    exact ⟨_, earlier, (moved.returned admission).trans admission.symm, moved.terminal_none⟩

/-- Only a submission takes the admission mutex, and a closed admission refuses it. -/
theorem admitting_of_step (step : s.step config action = some t) (closed : s.admissionOpen = false)
    (free : s.admitting = none) : t.admitting = none := by
  cases action with
  | submit id lane options ticket tagTooLong =>
    obtain ⟨⟨opened, -⟩, -⟩ := Option.ite_none_right_eq_some.1 step
    rw [closed] at opened
    cases opened
  | spawn id tagTooLong =>
    obtain ⟨-, moved⟩ := Option.ite_none_right_eq_some.1 step
    exact Option.some.inj moved ▸ free
  | closeAdmission =>
    obtain ⟨-, moved⟩ := Option.ite_none_right_eq_some.1 step
    exact Option.some.inj moved ▸ free
  | dispatch lane | dispatcherStopped lane | requestClose lane => exact Option.some.inj step ▸ free
  | newWaitingProducer lane | finishWaitingProducer lane ticket =>
    obtain ⟨run, -, rfl⟩ := Option.map_eq_some_iff.1 step
    exact free
  | advanceAdmission id =>
    obtain ⟨x, -, advanced⟩ := Option.bind_eq_some_iff.1 step
    obtain ⟨-, -, same | ⟨given, -⟩⟩ := admitting_of_advanceAdmission advanced
    · exact same.trans free
    · exact given
  | monitor id =>
    obtain ⟨x, -, finished⟩ := Option.bind_eq_some_iff.1 step
    simp only [Executor.move, Executor.monitor] at finished
    split at finished
    · obtain ⟨-, moved⟩ := Option.ite_none_right_eq_some.1 finished
      obtain ⟨run, -, rfl⟩ := Option.map_eq_some_iff.1 moved
      exact free
    · cases finished
  | advanceStop id =>
    obtain ⟨x, -, advanced⟩ := Option.bind_eq_some_iff.1 step
    simp only [Executor.move, Executor.advanceStop] at advanced
    split at advanced
    · exact Option.some.inj advanced ▸ (put_admitting _).trans free
    · obtain ⟨moved, -, rfl⟩ := Option.map_eq_some_iff.1 advanced
      exact (put_admitting _).trans free
  | start id | run id | unwind id | finishBody id exit | loseRunner id | report id next
  | loadReport id | sendReport id | requestStop id cause =>
    obtain ⟨x, -, moved⟩ := Option.bind_eq_some_iff.1 step
    obtain ⟨y, -, rfl⟩ := Option.map_eq_some_iff.1 moved
    exact (put_admitting _).trans free

end Executor

namespace Beaver

variable {config : BeaverConfig} {s t : Beaver} {process : ShutdownProcess}

/-! ## The two locks -/

/-- A direct spawn without its answer holds the lifecycle lock, and nobody holds a lock of the
admission once the lifecycle has left `running`. -/
structure Attended (s : Beaver) : Prop where
  direct : ∀ i x, s.executor.executions i = some x → x.lane = none →
    (∃ error, x.admission = .returned error) ∨ s.lifecycleHolder = some (.spawning i)
  unheld : s.lifecycle ≠ .running → ∀ i, s.lifecycleHolder ≠ some (.spawning i)
  closed : s.lifecycle ≠ .running → s.executor.admissionOpen = false
  free : s.lifecycle ≠ .running → s.executor.admitting = none

/-- An answer is final, and no step of the executor but a spawn needs the lifecycle lock. -/
theorem Attended.answers (attended : s.Attended)
    (coupled : s.executor.Coupled config.toExecutorConfig) {action : ExecutorAction}
    {executor : Executor} (step : s.executor.step config.toExecutorConfig action = some executor)
    {i : ExecutionId} {y : Execution}
    (created : action.creates = some i → executor.executions i = some y → y.lane ≠ none)
    (found : executor.executions i = some y) (place : y.lane = none) :
    (∃ error, y.admission = .returned error) ∨ s.lifecycleHolder = some (.spawning i) := by
  rcases (coupled.step step).2 i with ⟨same, -⟩ | ⟨-, creates, -, -⟩ | ⟨before, moved, -, after⟩
  · exact attended.direct i y (same ▸ found) place
  · exact absurd place (created creates found)
  · have here := (Executor.view_eq_some.1 after).1
    rw [View.after_execution] at here
    cases here.symm.trans found
    refine (attended.direct i _ (Executor.view_eq_some.1 before).1 (moved.lane ▸ place)).imp_left ?_
    rintro ⟨error, answered⟩
    exact ⟨error, moved.returned answered⟩

/-- **Step lemma**, for what creates nothing and leaves the lifecycle lock alone. -/
theorem Attended.ran (attended : s.Attended)
    (coupled : s.executor.Coupled config.toExecutorConfig)
    (ran : ExecutorRan config s.executor t.executor)
    (lifecycle : t.lifecycle ≠ .running → s.lifecycle ≠ .running)
    (holder : t.lifecycleHolder = s.lifecycleHolder) : t.Attended where
  direct := by
    intro i y found place
    rw [holder]
    rcases ran with same | ⟨action, -, creates, step⟩
    · exact attended.direct i y (same ▸ found) place
    · refine attended.answers coupled step (fun created => ?_) found place
      rw [creates] at created
      cases created
  unheld := fun left => holder ▸ attended.unheld (lifecycle left)
  closed := fun left => ran.admissionOpen.trans (attended.closed (lifecycle left))
  free := by
    intro left
    rcases ran with same | ⟨action, -, -, step⟩
    · exact same ▸ attended.free (lifecycle left)
    · exact Executor.admitting_of_step step (attended.closed (lifecycle left))
        (attended.free (lifecycle left))

/-- A permitted step of the executor creates nothing; a direct spawn that answers gives the lock
back. -/
theorem Attended.executor (attended : s.Attended)
    (coupled : s.executor.Coupled config.toExecutorConfig) {action : ExecutorAction}
    {executor : Executor} {holder : Option LifecycleHolder} (permitted : s.permits action = true)
    (stepped : s.executor.step config.toExecutorConfig action = some executor)
    (kept : holder = s.lifecycleHolder ∨ ∃ id x error, s.lifecycleHolder = some (.spawning id) ∧
      holder = none ∧ executor.executions id = some x ∧ x.admission = .returned error) :
    ({ s with
      executor := executor
      lifecycleHolder := holder } : Beaver).Attended := by
  have other := ne_closeAdmission permitted
  have answers : ∀ i y, executor.executions i = some y → y.lane = none →
      (∃ error, y.admission = .returned error) ∨ s.lifecycleHolder = some (.spawning i) := by
    intro i y found place
    refine attended.answers coupled stepped (fun creates => ?_) found place
    rw [creates_of_permits permitted] at creates
    cases creates
  refine ⟨fun i y found place => ?_, fun left i held => ?_, fun left => ?_, fun left => ?_⟩
  · rcases kept with rfl | ⟨id, x, error, held, rfl, there, answered⟩
    · exact answers i y found place
    · refine Or.inl ((answers i y found place).elim (fun answered => answered) fun mine => ?_)
      -- the lock is given back with the answer
      obtain rfl := LifecycleHolder.spawning.inj (Option.some.inj (held.symm.trans mine))
      obtain rfl := Option.some.inj (there.symm.trans found)
      exact ⟨error, answered⟩
  · rcases kept with rfl | ⟨id, x, error, held', rfl, -⟩
    · exact attended.unheld left i held
    · cases held
  · exact (Executor.admissionOpen_of_step stepped other).trans (attended.closed left)
  · exact Executor.admitting_of_step stepped (attended.closed left) (attended.free left)

/-- A submission to a lane leaves the lifecycle lock alone. -/
theorem Attended.submit (attended : s.Attended)
    (coupled : s.executor.Coupled config.toExecutorConfig) {id : ExecutionId}
    {kind : ExecutionKind} {lane : LaneId} {options : SpawnOptions} {ticket : Option Nat}
    {tagTooLong : Bool} {executor : Executor}
    (stepped : s.executor.step config.toExecutorConfig
      (.submit id lane options ticket tagTooLong) = some executor) :
    ({ s with
      executor := executor
      kinds := Function.update s.kinds id kind } : Beaver).Attended := by
  refine ⟨fun i y found place => ?_, attended.unheld, fun left => ?_, fun left => ?_⟩
  · refine attended.answers coupled stepped (fun creates found => ?_) found place
    obtain rfl := Option.some.inj creates
    obtain ⟨-, submitted⟩ := Option.ite_none_right_eq_some.1 stepped
    split at submitted
    · cases submitted
    · obtain rfl := Option.some.inj submitted
      obtain rfl := Option.some.inj (Pool.set_self.symm.trans found)
      exact Option.some_ne_none lane
  · exact (Executor.admissionOpen_of_step stepped (by simp)).trans (attended.closed left)
  · exact Executor.admitting_of_step stepped (attended.closed left) (attended.free left)

/-- A direct spawn takes the lifecycle lock of a running `Beaver`. -/
theorem Attended.spawn (attended : s.Attended)
    (coupled : s.executor.Coupled config.toExecutorConfig) {id : ExecutionId}
    {kind : ExecutionKind} {tagTooLong : Bool} {executor : Executor}
    (running : s.lifecycle = .running) (unheld : s.lifecycleHolder = none)
    (stepped : s.executor.step config.toExecutorConfig (.spawn id tagTooLong) = some executor) :
    ({ s with
      executor := executor
      kinds := Function.update s.kinds id kind
      lifecycleHolder := some (.spawning id) } : Beaver).Attended := by
  refine ⟨fun i y found place => ?_, fun left => absurd running left,
    fun left => absurd running left, fun left => absurd running left⟩
  by_cases mine : i = id
  · exact Or.inr (by rw [mine])
  · have answers := attended.answers coupled stepped
      (fun creates => absurd (Option.some.inj creates).symm mine) found place
    refine answers.imp_right fun held => ?_
    rw [unheld] at held
    cases held

theorem Attended.outside (attended : s.Attended)
    (coupled : s.executor.Coupled config.toExecutorConfig) (moved : Outside config s t) :
    t.Attended := by
  cases moved with
  | executor permitted stepped kept => exact attended.executor coupled permitted stepped kept
  | spawn running free stepped => exact attended.spawn coupled running free stepped
  | submit _ stepped => exact attended.submit coupled stepped
  | setCleanup | createLane | loseDispatcher =>
    exact attended.ran coupled (Or.inl rfl) (fun left => left) rfl
  | dispatch _ stepped | stopDispatcher _ stepped =>
    exact attended.ran coupled (Or.inr ⟨_, by simp, rfl, stepped⟩) (fun left => left) rfl
  | legacy _ ran => exact attended.ran coupled ran (fun left => left) rfl

/-- A section of a call of `shutdown`. -/
theorem Attended.called (attended : s.Attended) (stage : s.Stage)
    (coupled : s.executor.Coupled config.toExecutorConfig) {caller : Nat} {call : ShutdownCall}
    (here : s.shutdowns caller = some call) (moved : CallMoved config s caller call t) :
    t.Attended := by
  cases moved with
  | @accept process executor free running closed =>
    have answers : ∀ i y, executor.executions i = some y → y.lane = none →
        ∃ error, y.admission = .returned error := by
      intro i y found place
      refine (attended.answers coupled closed (fun creates => ?_) found place).resolve_right ?_
      · cases creates
      · rw [free]
        exact fun absurd => by cases absurd
    obtain ⟨unclaimed, moved⟩ := Option.ite_none_right_eq_some.1 closed
    refine ⟨fun i y found place => Or.inl (answers i y found place), fun _ i held => ?_,
      fun _ => ?_, fun _ => ?_⟩
    · cases held
    · exact Option.some.inj moved ▸ rfl
    · exact Option.some.inj moved ▸ unclaimed
  | write all active =>
    obtain ⟨-, held⟩ := stage.of_accepted here
    refine ⟨fun i y found place => ?_, fun _ i held => (by cases held), attended.closed,
      attended.free⟩
    refine Or.inl ((attended.direct i y found place).resolve_right ?_)
    rw [held]
    exact fun absurd => by cases absurd
  | _ => exact attended.ran coupled (Or.inl rfl) (fun left => left) rfl

theorem Stage.lifecycle_eq (stage : s.Stage) {supervisor : ShutdownSupervisor}
    (slot : s.shutdownProcess = some process) (running : s.supervisor = some supervisor) :
    s.lifecycle = supervisor.phase.lifecycle := by
  cases stage with
  | idle _ absent => exact absurd (slot.symm.trans absent) (by simp)
  | created _ absent => exact absurd (slot.symm.trans absent) (by simp)
  | accepted _ absent => exact absurd (slot.symm.trans absent) (by simp)
  | preparing _ _ absent => exact absurd (running.symm.trans absent) (by simp)
  | supervised _ _ present _ lifecycle =>
    obtain rfl := Option.some.inj (running.symm.trans present)
    exact lifecycle

/-- **Step lemma.** -/
theorem Attended.step (attended : s.Attended) (reached : (beaver config).Reachable s)
    {action : BeaverAction} (step : s.step config action = some t) : t.Attended := by
  have stage := stage_of_reaches reached
  have coupled := coupled_of_reaches reached
  cases Moved.of_step step with
  | outside _ moved => exact attended.outside coupled moved
  | callShutdown => exact attended.ran coupled (Or.inl rfl) (fun left => left) rfl
  | shutdown here moved =>
    exact attended.called stage coupled here (CallMoved.of_shutdownStep moved)
  | supervisor slot running supervised =>
    have moved := SupervisorMoved.of_supervisorStep supervised
    have publishes := moved.publishes slot (stage.coherent slot running)
      (stage.lifecycle_eq slot running)
    exact attended.ran coupled moved.ran (fun _ => stage.lifecycle_ne_running slot)
      publishes.holder

theorem attended_of_reaches (reached : (beaver config).Reachable s) : s.Attended := by
  induction reached with
  | refl =>
    refine ⟨fun i x absurd => (by cases absurd), fun left => ?_, fun left => ?_, fun left => ?_⟩ <;>
      exact absurd rfl left
  | tail before _ step ih => exact ih.step before step

/-! ## The lifecycle has left `running` -/

/-- Every admission call has answered, and there will be no other. -/
structure Sealed (s : Beaver) : Prop where
  left : s.lifecycle ≠ .running
  answered : s.executor.Answered

theorem sealed_of_reaches (reached : (beaver config).Reachable s) (left : s.lifecycle ≠ .running) :
    s.Sealed := by
  have attended := attended_of_reaches reached
  refine ⟨left, fun i x found => ?_⟩
  cases place : x.lane with
  | none => exact (attended.direct i x found place).resolve_right (attended.unheld left i)
  | some lane =>
    have exclusive := Executor.exclusive_of_reaches (executor_reaches reached)
    refine (exclusive i x found (by simp [place])).resolve_right ?_
    rw [attended.free left]
    exact fun absurd => by cases absurd

/-- The executor creates nothing. -/
theorem Attended.creates_none (attended : s.Attended) (left : s.lifecycle ≠ .running)
    {action : BeaverAction} (step : s.step config action = some t) :
    t.executor = s.executor ∨ ∃ action, action.creates = none ∧
      s.executor.step config.toExecutorConfig action = some t.executor := by
  have quiet : ExecutorRan config s.executor t.executor → t.executor = s.executor ∨
      ∃ action, action.creates = none ∧
        s.executor.step config.toExecutorConfig action = some t.executor := by
    rintro (same | ⟨action, -, creates, stepped⟩)
    · exact Or.inl same
    · exact Or.inr ⟨action, creates, stepped⟩
  cases Moved.of_step step with
  | outside _ moved =>
    cases moved with
    | executor permitted stepped => exact Or.inr ⟨_, creates_of_permits permitted, stepped⟩
    | spawn running => exact absurd running left
    | submit _ stepped =>
      obtain ⟨⟨opened, -⟩, -⟩ := Option.ite_none_right_eq_some.1 stepped
      rw [attended.closed left] at opened
      cases opened
    | setCleanup | createLane | loseDispatcher => exact Or.inl rfl
    | dispatch _ stepped | stopDispatcher _ stepped => exact Or.inr ⟨_, rfl, stepped⟩
    | legacy _ ran => exact quiet ran
  | callShutdown => exact Or.inl rfl
  | shutdown _ moved =>
    cases CallMoved.of_shutdownStep moved with
    | accept free running closed => exact absurd running left
    | _ => exact Or.inl rfl
  | supervisor _ _ moved => exact quiet (SupervisorMoved.of_supervisorStep moved).ran

/-- What there is now was there when the lifecycle left `running`, with the same answer, and
it is terminal if it was. -/
theorem Sealed.earlier (reached : (beaver config).Reachable s) (left : s.lifecycle ≠ .running)
    (run : (beaver config).Reaches (fun _ _ => True) s t) :
    (beaver config).Reachable t ∧ t.lifecycle ≠ .running ∧
      ∀ i y, t.executor.executions i = some y → ∃ x, s.executor.executions i = some x ∧
        y.admission = x.admission ∧ (y.core.terminal = none → x.core.terminal = none) := by
  induction run with
  | refl => exact ⟨reached, left, fun i y found => ⟨y, found, rfl, id⟩⟩
  | @tail x y action _ _ taken ih =>
    obtain ⟨reached, left, earlier⟩ := ih
    have step : x.step config action = some y := taken
    have stays : y.lifecycle ≠ .running := by
      rcases ((stage_of_reaches reached).step step).2.lifecycle with same | ⟨-, now⟩ | ⟨-, now⟩
      · exact same ▸ left
      · simp [now]
      · simp [now]
    refine ⟨reached.tail trivial taken, stays, fun i z found => ?_⟩
    have before : ∃ z', x.executor.executions i = some z' ∧ z.admission = z'.admission ∧
        (z.core.terminal = none → z'.core.terminal = none) := by
      have attended := attended_of_reaches reached
      rcases attended.creates_none left step with same | ⟨inner, creates, moved⟩
      · exact ⟨z, same ▸ found, rfl, id⟩
      · exact (sealed_of_reaches reached left).answered.earlier (coupled_of_reaches reached) moved
          creates found
    obtain ⟨z', found', same, running⟩ := before
    obtain ⟨w, first, same', running'⟩ := earlier i z' found'
    exact ⟨w, first, same.trans same', fun unfinished => running' (running unfinished)⟩

end Beaver

end BusyBeaver
