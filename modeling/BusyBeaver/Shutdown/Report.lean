import BusyBeaver.Lib.History
import BusyBeaver.Shutdown.Audit

/-!
# The final report

`report_accurate` ties the final report to the history of the run: who was active when the
shutdown was accepted, when the grace timer fired, and whom its handler found unfinished.
The handler looks at one control after the other, so a task that finishes between the timer
and its own turn is not flagged (`finished_before_its_turn`).
-/

namespace BusyBeaver

open Transition

namespace Beaver

variable {config : BeaverConfig} {s t : Beaver} {process : ShutdownProcess}
  {supervisor : ShutdownSupervisor} {actions : List BeaverAction}

/-! ## What happens -/

/-- The control the handler of the grace timer looks at next. -/
def looksAt (s : Beaver) : Option ExecutionId :=
  match s.supervisor.map ShutdownSupervisor.phase with
  | some (.filtering ((control, _) :: _)) => some control
  | _ => none

/-- The accepting call takes its snapshot of the registry, under the lifecycle lock. -/
def TakesControls (ids : List ExecutionId) (s : Beaver) (action : BeaverAction) : Prop :=
  ∃ caller, action = .shutdown caller (.controls ids) ∧
    s.lifecycleHolder = some (.accepting caller) ∧ ids.Nodup ∧
    ids.toFinset = s.executor.active

/-- The handler of the grace timer finds the execution unfinished. -/
def FindsPending (id : ExecutionId) (s : Beaver) (action : BeaverAction) : Prop :=
  action.isProceed = true ∧ s.looksAt = some id ∧ s.isTerminal id = false

/-- The grace timer fires, and `P` holds of the state. -/
def Fires (P : Beaver → Prop) (s : Beaver) (action : BeaverAction) : Prop :=
  ∃ process now, action = .supervisor (.fire now) ∧ s.shutdownProcess = some process ∧
    process.graceDeadline ≤ now ∧ process.options.onTimeout ≠ .wait ∧ P s

/-- What the report says is what has happened in the run. -/
structure AccurateReport (config : BeaverConfig) (actions : List BeaverAction) (s : Beaver)
    (process : ShutdownProcess) (report : ShutdownReport) : Prop where
  /-- One record for each execution that was active at the acceptance, in order. -/
  active : ∃ ids, (beaver config).Happened (TakesControls ids) (beaver config).init actions ∧
    ∀ id, id ∈ report.tasks.map TaskShutdownRecord.executionId ↔ id ∈ ids
  sorted : (report.tasks.map TaskShutdownRecord.executionId).Pairwise (· < ·)
  finalExit : ∀ record ∈ report.tasks, s.Ended record.executionId record.finalExit
  exceeded : ∀ record ∈ report.tasks, record.graceDeadlineExceeded = true ↔
    (beaver config).Happened (FindsPending record.executionId) (beaver config).init actions
  fired : ∀ record ∈ report.tasks, record.graceDeadlineExceeded = true →
    process.options.onTimeout ≠ .wait ∧
    (beaver config).Happened (Fires fun s => s.isTerminal record.executionId = false)
      (beaver config).init actions
  forced : ∀ record ∈ report.tasks, record.forcedCancellationRequested = true →
    record.graceDeadlineExceeded = true
  snapshot : ∀ snapshot pending, process.grace = some (.timedOut snapshot pending) →
    (snapshot.tasks.map fun progress =>
      (progress.executionId, progress.graceDeadlineExceeded,
        progress.forcedCancellationRequested)).Perm
    (report.tasks.map fun record =>
      (record.executionId, record.graceDeadlineExceeded, record.forcedCancellationRequested))

/-! ## Terminal is terminal -/

theorem isTerminal_eq (reached : (beaver config).Reachable s) {id : ExecutionId} :
    s.isTerminal id = true ↔ ∃ summary, s.Ended id summary := by
  have before := executor_reaches reached
  constructor
  · intro terminal
    obtain ⟨x, found, stated⟩ := (Option.any_eq_true _ _).1 terminal
    rw [Executor.isTerminal_iff before found] at stated
    obtain ⟨summary, ended⟩ := Option.isSome_iff_exists.1 stated
    exact ⟨summary, x, found, ended⟩
  · rintro ⟨summary, x, found, ended⟩
    refine (Option.any_eq_true _ _).2 ⟨x, found, ?_⟩
    rw [Executor.isTerminal_iff before found, ended]
    rfl

theorem isTerminal_of_step (reached : (beaver config).Reachable s) {action : BeaverAction}
    (step : s.step config action = some t) {id : ExecutionId} (terminal : s.isTerminal id = true) :
    t.isTerminal id = true := by
  obtain ⟨summary, ended⟩ := (isTerminal_eq reached).1 terminal
  exact (isTerminal_eq (reached.tail trivial step)).2
    ⟨summary, ended.moved (coupled_of_reaches reached) (executorMoved_of_step step)⟩

/-! ## The handler of the grace timer -/

/-- No move but a look of the handler adds to the pending controls. -/
theorem SupervisorMoved.pending (moved : SupervisorMoved config s process supervisor t)
    (elsewhere : ∀ control snapshot rest,
      supervisor.phase ≠ .filtering ((control, snapshot) :: rest)) :
    ∃ next, t.supervisor = some next ∧ next.initial = supervisor.initial ∧
      next.pending = supervisor.pending := by
  cases moved with
  | release here step =>
    obtain ⟨legacy, steps, rfl, -⟩ := releaseDam_eq step
    exact ⟨_, rfl, rfl, rfl⟩
  | await here completed =>
    unfold complete at completed
    split at completed
    · obtain ⟨summary, -, rfl⟩ := Option.map_eq_some_iff.1 completed
      exact ⟨_, rfl, rfl, rfl⟩
    · obtain ⟨failure, -, rfl⟩ := Option.map_eq_some_iff.1 completed
      exact ⟨_, rfl, rfl, rfl⟩
    · obtain rfl := Option.some.inj completed
      exact ⟨_, rfl, rfl, rfl⟩
  | filter here => exact (elsewhere _ _ _ here).elim
  | _ => exact ⟨_, rfl, rfl, rfl⟩

/-- The pending controls are those that were found unfinished. -/
theorem pending_of_supervisorStep {event : SupervisorEvent}
    (running : s.supervisor = some supervisor)
    (step : s.supervisorStep config process supervisor event = some t) :
    ∃ next, t.supervisor = some next ∧ next.initial = supervisor.initial ∧
      ∀ id, id ∈ next.pending ↔
        id ∈ supervisor.pending ∨ FindsPending id s (.supervisor event) := by
  by_cases looks : ∃ control snapshot rest,
      supervisor.phase = .filtering ((control, snapshot) :: rest)
  · obtain ⟨control, snapshot, rest, here⟩ := looks
    have looksAt : s.looksAt = some control := by
      rw [Beaver.looksAt, running, Option.map_some, here]
    cases event with
    | proceed =>
      simp only [supervisorStep, here, timeOut] at step
      obtain rfl := Option.some.inj step
      refine ⟨_, rfl, rfl, fun id => ?_⟩
      simp only [FindsPending, looksAt, Option.some.injEq]
      by_cases terminal : s.isTerminal control = true
      · rw [if_pos terminal]
        refine ⟨Or.inl, ?_⟩
        rintro (member | ⟨-, rfl, unfinished⟩)
        · exact member
        · rw [terminal] at unfinished
          cases unfinished
      · rw [if_neg terminal]
        have unfinished := Bool.eq_false_iff.2 terminal
        rw [List.mem_append, List.mem_singleton]
        refine or_congr Iff.rfl ⟨?_, ?_⟩
        · rintro rfl
          exact ⟨rfl, rfl, unfinished⟩
        · rintro ⟨-, rfl, -⟩
          rfl
    | panic =>
      simp only [supervisorStep, here] at step
      split at step
      · cases step
      · obtain rfl := Option.some.inj step
        refine ⟨_, rfl, rfl, fun id => ⟨Or.inl, ?_⟩⟩
        rintro (member | ⟨polled, -⟩)
        · exact member
        · cases polled
    | _ =>
      simp only [supervisorStep, here, timeOut, ShutdownPhase.suspended] at step
      cases step
  · have elsewhere : ∀ control snapshot rest,
        supervisor.phase ≠ .filtering ((control, snapshot) :: rest) :=
      fun control snapshot rest here => looks ⟨control, snapshot, rest, here⟩
    obtain ⟨next, there, initial, same⟩ :=
      (SupervisorMoved.of_supervisorStep step).pending elsewhere
    refine ⟨next, there, initial, fun id => ?_⟩
    rw [same]
    refine ⟨Or.inl, ?_⟩
    rintro (member | ⟨-, looksAt, -⟩)
    · exact member
    · rw [Beaver.looksAt, running, Option.map_some] at looksAt
      split at looksAt
      · rename_i phase
        exact (elsewhere _ _ _ (Option.some.inj phase)).elim
      · cases looksAt

theorem SupervisorMoved.shutdowns (moved : SupervisorMoved config s process supervisor t) :
    t.shutdowns = s.shutdowns := by
  obtain ⟨_, _, _, _, _, _, rfl⟩ := moved.within
  rfl

section Phase

variable {next : ShutdownSupervisor} (moved : SupervisorMoved config s process supervisor t)
  (there : t.supervisor = some next)
include moved there

/-- The select with the timer is entered with an action other than `Wait`. -/
theorem SupervisorMoved.racing (racing : next.phase = .racing) :
    supervisor.phase = .racing ∨ process.options.onTimeout ≠ .wait := by
  cases moved with
  | release here step =>
    obtain ⟨legacy, steps, rfl, -⟩ := releaseDam_eq step
    obtain rfl := Option.some.inj there
    cases racing
  | closeLane here step =>
    obtain rfl := Option.some.inj there
    cases mode : process.options.mode <;> simp [mode] at racing
  | arm here armed waits =>
    obtain rfl := Option.some.inj there
    refine Or.inr fun waiting => ?_
    rw [waits waiting] at racing
    cases racing
  | await here completed =>
    obtain rfl := Option.some.inj there
    rcases phase_of_complete completed with same | reporting
    · exact Or.inl (same.symm.trans racing)
    · rw [reporting] at racing
      cases racing
  | filtered here following =>
    obtain rfl := Option.some.inj there
    rcases following with rfl | rfl <;> cases racing
  | _ =>
    obtain rfl := Option.some.inj there
    cases racing

/-- The handler begins when the timer fires. -/
theorem SupervisorMoved.filtering {rest : List (ExecutionId × TaskSnapshot)}
    (filtering : next.phase = .filtering rest) :
    (∃ rest, supervisor.phase = .filtering rest) ∨ supervisor.phase = .racing := by
  cases moved with
  | release here step =>
    obtain ⟨legacy, steps, rfl, -⟩ := releaseDam_eq step
    obtain rfl := Option.some.inj there
    cases filtering
  | closeLane here step =>
    obtain rfl := Option.some.inj there
    cases mode : process.options.mode <;> simp [mode] at filtering
  | arm here armed waits =>
    obtain rfl := Option.some.inj there
    rcases armed with rfl | rfl | rfl <;> cases filtering
  | await here completed =>
    obtain rfl := Option.some.inj there
    rcases phase_of_complete completed with same | reporting
    · exact Or.inl ⟨rest, same.symm.trans filtering⟩
    · rw [reporting] at filtering
      cases filtering
  | fire here due pending => exact Or.inr here
  | filter here => exact Or.inl ⟨_, here⟩
  | filtered here following =>
    obtain rfl := Option.some.inj there
    rcases following with rfl | rfl <;> cases filtering
  | _ =>
    obtain rfl := Option.some.inj there
    cases filtering

end Phase

theorem event_of_filtering {event : SupervisorEvent} {next : ShutdownSupervisor}
    {rest : List (ExecutionId × TaskSnapshot)} (racing : supervisor.phase = .racing)
    (step : s.supervisorStep config process supervisor event = some t)
    (there : t.supervisor = some next) (filtering : next.phase = .filtering rest) :
    ∃ now, event = .fire now ∧ process.graceDeadline ≤ now := by
  cases event with
  | fire now =>
    simp only [supervisorStep, racing, awaitCompletion] at step
    split at step
    · rename_i due
      exact ⟨now, rfl, due.1⟩
    · cases step
  | proceed =>
    simp only [supervisorStep, racing, awaitCompletion] at step
    obtain ⟨after, completed, rfl⟩ := Option.map_eq_some_iff.1 step
    obtain rfl := Option.some.inj there
    rcases phase_of_complete completed with same | reporting
    · rw [same, racing] at filtering
      cases filtering
    · rw [reporting] at filtering
      cases filtering
  | cancel =>
    simp only [supervisorStep, racing, ShutdownPhase.suspended] at step
    obtain rfl := Option.some.inj step
    obtain rfl := Option.some.inj there
    cases filtering
  | panic =>
    simp only [supervisorStep, racing, ShutdownPhase.isFinal] at step
    obtain rfl := Option.some.inj step
    obtain rfl := Option.some.inj there
    cases filtering
  | _ =>
    simp only [supervisorStep, racing, awaitCompletion] at step
    cases step

/-! ## The run and its history -/

/-- What the state records of the history. -/
structure Chronicle (config : BeaverConfig) (actions : List BeaverAction) (s : Beaver) :
    Prop where
  preparing : ∀ caller id rest initial, s.shutdowns caller = some (.preparing id rest initial) →
    (beaver config).Happened (TakesControls (initial.map Prod.fst ++ rest))
      (beaver config).init actions
  initial : ∀ supervisor, s.supervisor = some supervisor →
    (beaver config).Happened (TakesControls (supervisor.initial.map Prod.fst))
      (beaver config).init actions
  pending : ∀ id, (∃ supervisor, s.supervisor = some supervisor ∧ id ∈ supervisor.pending) ↔
    (beaver config).Happened (FindsPending id) (beaver config).init actions
  racing : ∀ process supervisor, s.shutdownProcess = some process →
    s.supervisor = some supervisor → supervisor.phase = .racing →
    process.options.onTimeout ≠ .wait
  filtering : ∀ supervisor rest, s.supervisor = some supervisor →
    supervisor.phase = .filtering rest →
    (beaver config).Happened (Fires fun x => ∀ id, x.isTerminal id = true → s.isTerminal id = true)
      (beaver config).init actions
  fired : ∀ id, (beaver config).Happened (FindsPending id) (beaver config).init actions →
    (beaver config).Happened (Fires fun x => x.isTerminal id = false)
      (beaver config).init actions

theorem chronicle_init : Chronicle config [] (beaver config).init where
  preparing := fun _ _ _ _ absurd => by cases absurd
  initial := fun _ absurd => by cases absurd
  pending := by
    intro id
    refine ⟨?_, fun happened => (System.not_happened_nil happened).elim⟩
    rintro ⟨supervisor, absurd, -⟩
    cases absurd
  racing := fun _ _ absurd => by cases absurd
  filtering := fun _ _ absurd => by cases absurd
  fired := fun _ happened => (System.not_happened_nil happened).elim

section Step

variable (chronicle : Chronicle config actions s)
  (run : (beaver config).exec (beaver config).init actions = some s)
include chronicle run

/-- The firing of the timer stays behind whatever happens. -/
theorem Chronicle.filtering_later {action : BeaverAction} (step : s.step config action = some t)
    {rest : List (ExecutionId × TaskSnapshot)} (running : s.supervisor = some supervisor)
    (here : supervisor.phase = .filtering rest) :
    (beaver config).Happened (Fires fun x => ∀ id, x.isTerminal id = true → t.isTerminal id = true)
      (beaver config).init (actions ++ [action]) := by
  have reached := System.Reaches.of_schedule actions run
  refine ((chronicle.filtering supervisor rest running here).mono ?_).append [action]
  rintro x action ⟨process, now, fires, slot, due, waits, terminal⟩
  exact ⟨process, now, fires, slot, due, waits, fun id ended =>
    isTerminal_of_step reached step (terminal id ended)⟩

/-- A step that is no look of the handler, and leaves the supervisor alone. -/
theorem Chronicle.quiet {action : BeaverAction} (step : s.step config action = some t)
    (quiet : action.isProceed = false) (same : t.supervisor = s.supervisor)
    (slot : s.supervisor = none ∨ t.shutdownProcess = s.shutdownProcess)
    (preparing : ∀ caller id rest initial,
      t.shutdowns caller = some (.preparing id rest initial) →
      (beaver config).Happened (TakesControls (initial.map Prod.fst ++ rest))
        (beaver config).init (actions ++ [action])) :
    Chronicle config (actions ++ [action]) t := by
  have unlooked : ∀ id, (beaver config).Happened (FindsPending id) (beaver config).init
      (actions ++ [action]) ↔
      (beaver config).Happened (FindsPending id) (beaver config).init actions := by
    intro id
    rw [System.happened_snoc run, or_iff_left]
    rintro ⟨polled, -⟩
    rw [quiet] at polled
    cases polled
  refine ⟨preparing, fun supervisor there => ?_, fun id => ?_, fun process supervisor there
    running here => ?_, fun supervisor rest there here => ?_, fun id happened => ?_⟩
  · exact (chronicle.initial supervisor (same.symm.trans there)).append [action]
  · rw [same, unlooked, chronicle.pending]
  · rw [same] at running
    rcases slot with absent | kept
    · rw [absent] at running
      cases running
    · exact chronicle.racing process supervisor (kept.symm.trans there) running here
  · exact chronicle.filtering_later run step (same.symm.trans there) here
  · exact (chronicle.fired id ((unlooked id).1 happened)).append [action]

omit chronicle run in
/-- The snapshot that is written down is the one that was taken. -/
theorem event_of_preparing {caller id : Nat} {controls : List ExecutionId} {event : ShutdownEvent}
    (moved : s.shutdownStep config caller (.accepted process) event = some t)
    (after : t.shutdowns caller = some (.preparing id controls [])) :
    event = .controls controls := by
  cases event with
  | controls taken =>
    simp only [shutdownStep] at moved
    split at moved
    · obtain rfl := Option.some.inj moved
      obtain ⟨-, rfl, -⟩ :=
        ShutdownCall.preparing.inj (Option.some.inj (Pool.set_self.symm.trans after))
      rfl
    · cases moved
  | _ => cases moved

omit run in
/-- The other calls are preparing what they were. -/
theorem Chronicle.set {action : BeaverAction} {caller : Nat} {record : ShutdownCall}
    (same : t.shutdowns = s.shutdowns.set caller record)
    (own : ∀ id rest initial, record = .preparing id rest initial →
      (beaver config).Happened (TakesControls (initial.map Prod.fst ++ rest))
        (beaver config).init (actions ++ [action]))
    (other : Nat) (id : Nat) (rest : List ExecutionId)
    (initial : List (ExecutionId × TaskSnapshot))
    (found : t.shutdowns other = some (.preparing id rest initial)) :
    (beaver config).Happened (TakesControls (initial.map Prod.fst ++ rest))
      (beaver config).init (actions ++ [action]) := by
  rw [same] at found
  rcases Pool.of_set_eq_some found with ⟨-, record⟩ | ⟨-, old⟩
  · exact own id rest initial record
  · exact (chronicle.preparing other id rest initial old).append [action]

/-- A section of a call. -/
theorem Chronicle.called {caller : Nat} {call : ShutdownCall} {event : ShutdownEvent}
    (here : s.shutdowns caller = some call)
    (step : s.step config (.shutdown caller event) = some t) :
    Chronicle config (actions ++ [.shutdown caller event]) t := by
  have stage := stage_of_reaches (System.Reaches.of_schedule actions run)
  obtain ⟨found, there, moved⟩ := Option.bind_eq_some_iff.1 step
  obtain rfl := Option.some.inj (here.symm.trans there)
  cases CallMoved.of_shutdownStep moved with
  | answer =>
    exact chronicle.quiet run step rfl rfl (Or.inr rfl)
      (chronicle.set rfl fun id rest initial absurd => by cases absurd)
  | create =>
    exact chronicle.quiet run step rfl rfl (Or.inr rfl)
      (chronicle.set rfl fun id rest initial absurd => by cases absurd)
  | accept =>
    exact chronicle.quiet run step rfl rfl (Or.inr rfl)
      (chronicle.set rfl fun id rest initial absurd => by cases absurd)
  | refuse =>
    exact chronicle.quiet run step rfl rfl (Or.inr rfl)
      (chronicle.set rfl fun id rest initial absurd => by cases absurd)
  | @write process controls nodup all =>
    obtain ⟨-, held⟩ := stage.of_accepted here
    refine chronicle.quiet run step rfl rfl (Or.inl (stage.supervisor_of_busy here rfl))
      (chronicle.set rfl ?_)
    intro id rest initial taken
    cases taken
    have event := event_of_preparing moved Pool.set_self
    exact .last run ⟨caller, by rw [event]; rfl, held, nodup, all⟩
  | @prepare id control rest initial snapshot =>
    refine chronicle.quiet run step rfl rfl (Or.inr rfl) (chronicle.set rfl ?_)
    intro id rest' initial' taken
    cases taken
    have before := (chronicle.preparing caller _ _ _ here).append [.shutdown caller event]
    rw [List.map_append, List.append_assoc]
    exact before
  | @start id initial phase begins =>
    have absent := stage.supervisor_of_busy here rfl
    have taken := (chronicle.preparing caller _ _ _ here).append [.shutdown caller event]
    rw [List.append_nil] at taken
    have unlooked : ∀ found, ¬ (beaver config).Happened (FindsPending found) (beaver config).init
        (actions ++ [.shutdown caller event]) := by
      intro found happened
      rcases (System.happened_snoc run).1 happened with earlier | ⟨polled, -⟩
      · obtain ⟨supervisor, running, -⟩ := (chronicle.pending found).2 earlier
        rw [absent] at running
        cases running
      · cases polled
    refine ⟨chronicle.set rfl fun id rest initial absurd => (by cases absurd),
      fun supervisor running => ?_, fun found => ?_, fun process supervisor _ running at_ => ?_,
      fun supervisor rest running at_ => ?_, fun found happened => (unlooked found happened).elim⟩
    · obtain rfl := Option.some.inj running
      exact taken
    · refine ⟨?_, fun happened => (unlooked found happened).elim⟩
      rintro ⟨supervisor, running, member⟩
      obtain rfl := Option.some.inj running
      cases member
    · obtain rfl := Option.some.inj running
      rcases begins with rfl | rfl <;> cases at_
    · obtain rfl := Option.some.inj running
      rcases begins with rfl | rfl <;> cases at_

/-- A move of the supervisor. -/
theorem Chronicle.supervised {event : SupervisorEvent} (slot : s.shutdownProcess = some process)
    (running : s.supervisor = some supervisor)
    (step : s.step config (.supervisor event) = some t)
    (moved : s.supervisorStep config process supervisor event = some t) :
    Chronicle config (actions ++ [.supervisor event]) t := by
  have reached := System.Reaches.of_schedule actions run
  obtain ⟨next, there, initial, pending⟩ := pending_of_supervisorStep running moved
  have moves := SupervisorMoved.of_supervisorStep moved
  have mine : ∀ id, (∃ supervisor, s.supervisor = some supervisor ∧ id ∈ supervisor.pending) ↔
      id ∈ supervisor.pending := by
    intro id
    rw [running]
    simp
  refine ⟨fun caller id rest initial found => ?_, fun found present => ?_, fun id => ?_,
    fun after found slot' present at_ => ?_, fun found rest present at_ => ?_,
    fun id happened => ?_⟩
  · rw [moves.shutdowns] at found
    exact (chronicle.preparing caller id rest initial found).append _
  · obtain rfl := Option.some.inj (there.symm.trans present)
    rw [initial]
    exact (chronicle.initial supervisor running).append _
  · rw [there, System.happened_snoc run, ← chronicle.pending, mine]
    simp only [Option.some.injEq, exists_eq_left']
    exact pending id
  · obtain rfl := Option.some.inj (there.symm.trans present)
    obtain ⟨later, slot'', extended⟩ :=
      ((stage_of_reaches reached).step step).2.process process slot
    obtain rfl := Option.some.inj (slot'.symm.trans slot'')
    rw [extended.options]
    rcases moves.racing there at_ with before | waits
    · exact chronicle.racing process supervisor slot running before
    · exact waits
  · obtain rfl := Option.some.inj (there.symm.trans present)
    rcases moves.filtering there at_ with ⟨rest, before⟩ | racing
    · exact chronicle.filtering_later run step running before
    · obtain ⟨now, rfl, due⟩ := event_of_filtering racing moved there at_
      exact .last run ⟨process, now, rfl, slot, due,
        chronicle.racing process supervisor slot running racing,
        fun id ended => isTerminal_of_step reached step ended⟩
  · rcases (System.happened_snoc run).1 happened with earlier | ⟨-, looksAt, unfinished⟩
    · exact (chronicle.fired id earlier).append _
    · obtain ⟨rest, at_⟩ : ∃ rest, supervisor.phase = .filtering rest := by
        rw [Beaver.looksAt, running, Option.map_some] at looksAt
        split at looksAt
        · rename_i phase
          exact ⟨_, Option.some.inj phase⟩
        · cases looksAt
      refine ((chronicle.filtering supervisor rest running at_).mono ?_).append _
      rintro x action ⟨process, now, fires, slot, due, waits, terminal⟩
      refine ⟨process, now, fires, slot, due, waits, ?_⟩
      cases ended : x.isTerminal id with
      | false => exact ended
      | true =>
        rw [terminal id ended] at unfinished
        cases unfinished

end Step

theorem chronicle_of_exec (run : (beaver config).exec (beaver config).init actions = some s) :
    Chronicle config actions s := by
  refine System.exec_invariant (I := fun actions s => Chronicle config actions s)
    chronicle_init ?_ run
  intro actions s t action run chronicle taken
  have step : s.step config action = some t := taken
  cases Moved.of_step step with
  | @outside action _ outside moved =>
    have aside := moved.aside
    refine chronicle.quiet run step ?_ aside.supervisor (Or.inr aside.shutdownProcess) ?_
    · cases action with
      | supervisor event => cases outside
      | _ => rfl
    · rw [aside.shutdowns]
      exact fun caller id rest initial found =>
        (chronicle.preparing caller id rest initial found).append _
  | callShutdown _ answer =>
    refine chronicle.quiet run step rfl rfl (Or.inr rfl)
      (chronicle.set rfl fun id rest initial absurd => ?_)
    rcases answer with rfl | rfl <;> cases absurd
  | shutdown here => exact chronicle.called run here step
  | supervisor slot running moved => exact chronicle.supervised run slot running step moved

/-! ## The result -/

section Lists

variable {α β γ : Type} {R : α → β → Prop} {xs : List α} {ys : List β}

theorem exists_of_forall₂ (all : List.Forall₂ R xs ys) : ∀ y ∈ ys, ∃ x ∈ xs, R x y := by
  induction all with
  | nil =>
    intro y member
    cases member
  | cons own _ ih =>
    intro y member
    rcases List.mem_cons.1 member with rfl | later
    · exact ⟨_, List.mem_cons_self, own⟩
    · obtain ⟨x, there, related⟩ := ih y later
      exact ⟨x, List.mem_cons_of_mem _ there, related⟩

theorem map_eq_of_forall₂ {f : α → γ} {g : β → γ} (all : List.Forall₂ R xs ys)
    (same : ∀ x y, R x y → f x = g y) : xs.map f = ys.map g := by
  induction all with
  | nil => rfl
  | cons own _ ih => rw [List.map_cons, List.map_cons, same _ _ own, ih]

end Lists

/-- The records are sorted, and there are as many as there were controls. -/
theorem sorted_of_records {records : List TaskShutdownRecord} {ids : List ExecutionId}
    (nodup : ids.Nodup) (same : ids = records.map TaskShutdownRecord.executionId) :
    ((records.mergeSort fun one other => decide (one.executionId ≤ other.executionId)).map
      TaskShutdownRecord.executionId).Pairwise (· < ·) := by
  have perm := (List.mergeSort_perm records fun one other =>
    decide (one.executionId ≤ other.executionId)).map TaskShutdownRecord.executionId
  have distinct := perm.nodup_iff.2 (same ▸ nodup)
  have ordered : ((records.mergeSort fun one other =>
      decide (one.executionId ≤ other.executionId)).map
      TaskShutdownRecord.executionId).Pairwise (· ≤ ·) := by
    rw [List.pairwise_map]
    refine (List.pairwise_mergeSort ?_ ?_ records).imp of_decide_eq_true
    · intro a b c first second
      exact decide_eq_true ((of_decide_eq_true first).trans (of_decide_eq_true second))
    · intro a b
      rcases Nat.le_total a.executionId b.executionId with le | le <;> simp [le]
  exact (ordered.and distinct).imp fun both => lt_of_le_of_ne both.1 both.2

/-- The action on timeout is that of the process whose timer fired. -/
theorem options_of_fired {P : Beaver → Prop}
    (run : (beaver config).exec (beaver config).init actions = some s)
    (slot : s.shutdownProcess = some process)
    (fired : (beaver config).Happened (Fires P) (beaver config).init actions) :
    process.options.onTimeout ≠ .wait := by
  obtain ⟨before, action, after, x, rfl, first, earlier, now, -, there, -, waits, -⟩ := fired
  rw [System.exec_append, first] at run
  have stage := stage_of_reaches (System.Reaches.of_schedule before first)
  obtain ⟨last, found, extended⟩ :=
    process_of_reaches stage (System.Reaches.of_schedule (action :: after) run) there
  obtain rfl := Option.some.inj (slot.symm.trans found)
  rw [extended.options]
  exact waits

/-- **Main result.** -/
theorem report_accurate {config : BeaverConfig} {actions : List BeaverAction} {s : Beaver}
    {process : ShutdownProcess} {report : ShutdownReport}
    (run : (beaver config).exec (beaver config).init actions = some s)
    (slot : s.shutdownProcess = some process)
    (final : process.finalReport = some (.ok report)) :
    AccurateReport config actions s process report := by
  have reached := System.Reaches.of_schedule actions run
  have chronicle := chronicle_of_exec run
  obtain ⟨supervisor, running, ⟨exceeded, forced⟩, snapped, records, recorded, tasks⟩ :=
    accurate_of_final reached slot final
  have taken := chronicle.initial supervisor running
  have ids : supervisor.initial.map Prod.fst = records.map TaskShutdownRecord.executionId :=
    map_eq_of_forall₂ recorded fun entry record own => own.1.symm
  have perm : report.tasks.Perm records := by
    rw [tasks]
    exact List.mergeSort_perm _ _
  -- what a record of the report says
  have told : ∀ record ∈ report.tasks, s.Ended record.executionId record.finalExit ∧
      record.graceDeadlineExceeded = decide (record.executionId ∈ supervisor.pending) ∧
      (record.forcedCancellationRequested = true → record.graceDeadlineExceeded = true) := by
    intro record member
    obtain ⟨entry, -, own, -, ended, late, request⟩ :=
      exists_of_forall₂ recorded record (perm.mem_iff.1 member)
    rw [exceeded] at late
    refine ⟨own ▸ ended, ?_, fun requested => ?_⟩
    · rw [late, own]
      simp
    · rw [request] at requested
      have inside := forced (of_decide_eq_true requested)
      rw [late, ← exceeded, decide_eq_true inside]
  have looked : ∀ id, id ∈ supervisor.pending ↔
      (beaver config).Happened (FindsPending id) (beaver config).init actions := by
    intro id
    rw [← chronicle.pending, running]
    simp
  have nodup : (supervisor.initial.map Prod.fst).Nodup := by
    obtain ⟨-, -, -, -, -, -, -, -, -, nodup, -⟩ := taken
    exact nodup
  refine ⟨⟨_, taken, fun id => ?_⟩, ?_, fun record member => (told record member).1,
    fun record member => ?_, fun record member late => ?_,
    fun record member => (told record member).2.2, fun snapshot pending published => ?_⟩
  · rw [ids]
    exact (perm.map _).mem_iff
  · rw [tasks]
    exact sorted_of_records nodup ids
  · rw [(told record member).2.1, decide_eq_true_iff, looked]
  · rw [(told record member).2.1, decide_eq_true_iff, looked] at late
    have fired := chronicle.fired _ late
    exact ⟨options_of_fired run slot fired, fired⟩
  · have flags := map_eq_of_forall₂ (snapped snapshot pending published)
      (f := fun entry => (entry.1, decide (entry.1 ∈ supervisor.exceeded),
        decide (entry.1 ∈ supervisor.forced)))
      (g := fun progress => (progress.executionId, progress.graceDeadlineExceeded,
        progress.forcedCancellationRequested))
      fun entry progress own => by rw [own.1, own.2.1, own.2.2]
    have told := map_eq_of_forall₂ recorded
      (f := fun entry => (entry.1, decide (entry.1 ∈ supervisor.exceeded),
        decide (entry.1 ∈ supervisor.forced)))
      (g := fun record => (record.executionId, record.graceDeadlineExceeded,
        record.forcedCancellationRequested))
      fun entry record own => by rw [own.1, own.2.2.2.1, own.2.2.2.2]
    rw [← flags, told]
    exact (perm.map _).symm

/-- An execution that is spawned, and runs. -/
def spawnedRun (id : ExecutionId) : List BeaverAction :=
  .spawn id .finite false :: List.replicate 4 (.executor (.advanceAdmission id)) ++
    List.replicate 3 (.executor (.run id))

/-- Its body completes. -/
def completedRun (id : ExecutionId) : List BeaverAction :=
  .executor (.finishBody id (.completed ())) :: List.replicate 6 (.executor (.run id))

/-- Two executions are active when the shutdown is accepted, and still when the supervisor
races the completion with the timer. -/
def racingRun : List BeaverAction :=
  spawnedRun 1 ++ spawnedRun 2 ++
    [.callShutdown 0 { mode := .drainFinite } 0, .shutdown 0 (.proceed 0),
      .shutdown 0 (.proceed 0), .shutdown 0 (.controls [2, 1]), .shutdown 0 (.proceed 0),
      .shutdown 0 (.proceed 0), .shutdown 0 (.spawn true), .supervisor .proceed,
      .supervisor (.drain []), .supervisor .proceed, .supervisor .proceed, .supervisor .proceed,
      .supervisor .proceed, .supervisor .proceed, .supervisor (.collect []),
      .supervisor .proceed, .supervisor .proceed, .supervisor .proceed, .supervisor .proceed,
      .supervisor .proceed, .supervisor (.timer true), .legacy (.worker 0 .proceed)]

/-- The timer fires.  The handler looks at execution 2, execution 1 completes, and the handler
looks at execution 1. -/
def overtakenRun : List BeaverAction :=
  [.supervisor (.fire 5_000_000_000), .supervisor .proceed] ++ completedRun 1 ++
    List.replicate 4 (.supervisor .proceed) ++
    [.supervisor (.elapsed 6), .supervisor .proceed] ++ completedRun 2 ++
    List.replicate 6 (.supervisor .proceed) ++
    [.supervisor (.elapsed 7), .supervisor .proceed, .supervisor .proceed, .supervisor .proceed]

/-- The report is published, and execution 2 alone is flagged. -/
theorem published_overtaken :
    ∃ s process supervisor report, (beaver smallBeaver).exec (beaver smallBeaver).init
        (racingRun ++ overtakenRun) = some s ∧ s.shutdownProcess = some process ∧
      process.finalReport = some (.ok report) ∧ s.supervisor = some supervisor ∧
      supervisor.initial.map Prod.fst = [2, 1] ∧ supervisor.exceeded = {2} := by
  have runs : ((beaver smallBeaver).exec (beaver smallBeaver).init
      (racingRun ++ overtakenRun)).map (fun s =>
        ((s.shutdownProcess.bind ShutdownProcess.report).isSome,
          s.supervisor.map fun supervisor =>
            (supervisor.initial.map Prod.fst, supervisor.exceeded))) =
      some (true, some ([2, 1], {2})) := by
    decide +kernel
  obtain ⟨s, run, facts⟩ := Option.map_eq_some_iff.1 runs
  obtain ⟨published, books⟩ := Prod.mk.inj facts
  obtain ⟨report, reported⟩ := Option.isSome_iff_exists.1 published
  obtain ⟨process, slot, final⟩ := Option.bind_eq_some_iff.1 reported
  obtain ⟨supervisor, running, books⟩ := Option.map_eq_some_iff.1 books
  obtain ⟨initial, exceeded⟩ := Prod.mk.inj books
  exact ⟨s, process, supervisor, report, run, slot, ShutdownProcess.report_eq_some.1 final, running,
    initial, exceeded⟩

theorem report_accurate_overtaken :
    ∃ s process report, (beaver smallBeaver).exec (beaver smallBeaver).init
        (racingRun ++ overtakenRun) = some s ∧ s.shutdownProcess = some process ∧
      process.finalReport = some (.ok report) ∧
      AccurateReport smallBeaver (racingRun ++ overtakenRun) s process report := by
  obtain ⟨s, process, supervisor, report, run, slot, final, -⟩ := published_overtaken
  exact ⟨s, process, report, run, slot, final, report_accurate run slot final⟩

/-- Execution 1 is unfinished when the timer fires, and its record does not say so. -/
theorem finished_before_its_turn :
    ∃ actions s process report record,
      (beaver smallBeaver).exec (beaver smallBeaver).init actions = some s ∧
      s.shutdownProcess = some process ∧ process.finalReport = some (.ok report) ∧
      record ∈ report.tasks ∧ record.graceDeadlineExceeded = false ∧
      (beaver smallBeaver).Happened (Fires fun x => x.isTerminal record.executionId = false)
        (beaver smallBeaver).init actions := by
  obtain ⟨s, process, supervisor, report, run, slot, final, running, initial, exceeded⟩ :=
    published_overtaken
  obtain ⟨books, there, -, -, records, recorded, tasks⟩ :=
    accurate_of_final (System.Reaches.of_schedule _ run) slot final
  obtain rfl := Option.some.inj (running.symm.trans there)
  -- the record of execution 1
  have second : 1 ∈ supervisor.initial.map Prod.fst := by
    rw [initial]
    decide
  obtain ⟨entry, inside, own⟩ := List.mem_map.1 second
  obtain ⟨record, member, same, -, -, flag, -⟩ := exists_of_forall₂ recorded.flip entry inside
  rw [own] at same flag
  have racing : ((beaver smallBeaver).exec (beaver smallBeaver).init racingRun).map (fun x =>
      (x.isTerminal 1, x.shutdownProcess.map fun process =>
        (process.graceDeadline, process.options.onTimeout))) =
      some (false, some (5_000_000_000, .reportAndKeepTracked)) := by
    decide +kernel
  obtain ⟨x, before, facts⟩ := Option.map_eq_some_iff.1 racing
  obtain ⟨unfinished, timed⟩ := Prod.mk.inj facts
  obtain ⟨running, there, timed⟩ := Option.map_eq_some_iff.1 timed
  obtain ⟨deadline, waits⟩ := Prod.mk.inj timed
  refine ⟨_, s, process, report, record, run, slot, final, ?_, ?_, racingRun,
    .supervisor (.fire 5_000_000_000), _, x, rfl, before, running, _, rfl, there, deadline.le,
    ?_, ?_⟩
  · rw [tasks]
    exact (List.mergeSort_perm _ _).mem_iff.2 member
  · rw [flag, exceeded]
    decide
  · rw [waits]
    decide
  · rw [same]
    exact unfinished

end Beaver

end BusyBeaver
