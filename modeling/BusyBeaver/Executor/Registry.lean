import BusyBeaver.Executor.View

/-!
# Who is in the registry

`register` makes an execution visible to the dispatcher and to cancellation before
it is in `registry.active`, and `commit` takes it out only if it finds the flag set
and the entry there, and gets that far: on its way it drops the value that lost to a
stop, whose destructor may unwind.  `registry_exact_iff` says when the two agree: a run
that ends with nothing in progress ends with an exact registry if and only if no
execution was inserted after its own commit had passed the removal, and no commit
of an inserted execution unwound before it.
-/

namespace BusyBeaver

open Transition Execution

/-- Nothing is in progress for the execution: its admission has answered and no
commit is due or under way.  It may be queued or running. -/
structure Execution.Settled (x : Execution) : Prop where
  admission : ∃ error, x.admission = .returned error
  runner : x.runner.isCommitted = true → x.runner = .finished ∨ x.runner = .unwound
  due : ∀ exit, x.runner ≠ .exiting exit

namespace Executor

def Quiescent (s : Executor) : Prop := ∀ i x, s.executions i = some x → x.Settled

/-- `active` holds the admitted executions that are not terminal, and the terminal
ones were recorded once. -/
structure RegistryExact (s : Executor) : Prop where
  active : ∀ i, i ∈ s.active ↔
    ∃ x, s.executions i = some x ∧ x.admission = .returned none ∧ x.core.terminal = none
  recorded : ∀ i x, s.executions i = some x → x.admission = .returned none →
    x.core.terminal ≠ none → s.finishes.count i = 1

/-- The removal of the execution's own `commit` is still to come when `register` inserts
it, and a `commit` that unwinds is one of an execution that is not inserted. -/
def RegistersInTime (config : ExecutorConfig) (s : Executor) (action : ExecutorAction) : Prop :=
  (∀ x ∈ action.admits.bind s.executions, x.admission = .swapped → s.refusal config x = none →
    x.runner.isPast = false) ∧
  ∀ x ∈ action.unwinds.bind s.executions, x.admission.isEntered = false

instance (config : ExecutorConfig) (s : Executor) (action : ExecutorAction) :
    Decidable (RegistersInTime config s action) :=
  inferInstanceAs (Decidable (_ ∧ ∀ x ∈ action.unwinds.bind s.executions, _))

end Executor

/-! ## One execution and the registry -/

namespace View

variable {v : View} {label : Label} {effect : Effect} {y : Execution}

/-- Only an inserted execution is active, and only `finish` records. -/
structure Listed (v : View) : Prop where
  unentered : v.execution.admission.isEntered = false → v.active = false
  unrecorded : v.execution.runner.isRecorded = false → v.finishes = 0

/-- An inserted execution is active until its commit removes it, and recorded once; its
commit does not unwind. -/
structure InTime (v : View) : Prop extends v.Listed where
  whole : v.execution.admission.isEntered = true → v.execution.runner ≠ .unwound
  active : v.execution.admission.isEntered = true →
    (v.active = true ↔ v.execution.runner.hasLeft = false)
  recorded : v.execution.admission.isEntered = true → v.execution.runner.isRecorded = true →
    v.finishes = 1

/-- An inserted execution that its commit will not remove stays. -/
structure Late (v : View) : Prop where
  entered : v.execution.admission.isEntered = true
  active : v.active = true
  past : v.execution.runner.isPast = true

theorem Listed.fresh (fresh : v.Fresh) : v.Listed := by
  cases fresh <;> exact ⟨fun _ => rfl, fun _ => rfl⟩

theorem InTime.fresh (fresh : v.Fresh) : v.InTime := by
  refine ⟨.fresh fresh, ?_, ?_, ?_⟩ <;> cases fresh <;>
    simp [Execution.submitted, Execution.direct, Admission.isEntered]

theorem Listed.kept (listed : v.Listed) (sound : v.execution.Sound)
    (moved : v.execution.Moved label effect y) : (v.after y effect).Listed := by
  obtain ⟨unentered, unrecorded⟩ := listed
  have passes := (moved.passes sound).2
  have earlier : y.runner.isRecorded = false → v.execution.runner.isRecorded = false :=
    fun after => Bool.eq_false_iff.2 fun before => by simp [passes before] at after
  constructor <;> rw [after_execution]
  · intro outside
    cases effect with
    | enter =>
      cases moved
      cases outside
    | leave => rfl
    | silent | record | announce _ =>
      exact unentered ((moved.isEntered (by simp)).symm.trans outside)
  · intro before
    cases effect with
    | record =>
      cases moved
      cases before
    | silent | enter | leave | announce _ => exact unrecorded (earlier before)

theorem InTime.active_kept (active : v.execution.admission.isEntered = true →
      (v.active = true ↔ v.execution.runner.hasLeft = false))
    (sound : v.execution.Sound) (moved : v.execution.Moved label effect y)
    (punctual : effect = .enter → v.execution.runner.hasLeft = false) :
    y.admission.isEntered = true →
      ((v.after y effect).active = true ↔ y.runner.hasLeft = false) := by
  intro entered
  cases moved with
  | insert | refuse | swap | reject | clear | abandon | rollBack | missed | dropped =>
    cases entered
  | enter at_ => exact iff_of_true rfl (punctual rfl)
  | announce at_ | accept at_ => exact active (by rw [at_]; rfl)
  | launch at_ lane =>
    have prepared := sound.direct lane (by rw [at_]; rfl)
    have before := active (by rw [at_]; rfl)
    rw [prepared] at before
    exact before
  | commitUnset summary at_ unset =>
    -- an inserted execution has its flag set, so its commit deregisters it
    rw [sound.registered_of_entered entered] at unset
    cases unset
  | lost exit at_ failed => exact (sound.not_lost at_ failed).elim
  | leave summary at_ => exact iff_of_false (by simp [View.after]) (by simp [Runner.hasLeft])
  | _ =>
    have before := active entered
    first
      | exact before
      | (rw [‹v.execution.runner = _›] at before
         exact before)

theorem InTime.recorded_kept (recorded : v.execution.admission.isEntered = true →
      v.execution.runner.isRecorded = true → v.finishes = 1)
    (unrecorded : v.execution.runner.isRecorded = false → v.finishes = 0)
    (sound : v.execution.Sound) (moved : v.execution.Moved label effect y)
    (punctual : effect = .enter → v.execution.runner.hasLeft = false) :
    y.admission.isEntered = true → y.runner.isRecorded = true →
      (v.after y effect).finishes = 1 := by
  intro entered isRecorded
  cases moved with
  | insert | refuse | swap | reject | clear | abandon | rollBack | missed | dropped =>
    cases entered
  | enter at_ =>
    have left := Runner.hasLeft_of_isRecorded isRecorded
    rw [show v.execution.runner.hasLeft = false from punctual rfl] at left
    cases left
  | announce at_ | accept at_ => exact recorded (by rw [at_]; rfl) isRecorded
  | commitUnset summary at_ unset =>
    rw [sound.registered_of_entered entered] at unset
    cases unset
  | lost exit at_ failed => exact (sound.not_lost at_ failed).elim
  | record summary at_ =>
    have unrecorded := unrecorded (by rw [at_]; rfl)
    simp [View.after, unrecorded]
  | close summary at_ => exact recorded entered (by rw [at_]; rfl)
  | _ =>
    first
      | exact recorded entered isRecorded
      | cases isRecorded

theorem InTime.whole_kept
    (whole : v.execution.admission.isEntered = true → v.execution.runner ≠ .unwound)
    (moved : v.execution.Moved label effect y)
    (punctual : effect = .enter → v.execution.runner.isPast = false)
    (unwinds : label = .unwind → v.execution.admission.isEntered = false) :
    y.admission.isEntered = true → y.runner ≠ .unwound := by
  intro entered
  cases moved with
  | enter at_ =>
    intro unwound
    have ahead := punctual rfl
    rw [unwound] at ahead
    cases ahead
  | unwind summary at_ =>
    rw [unwinds rfl] at entered
    cases entered
  | announce at_ | accept at_ => exact whole (by rw [at_]; rfl)
  | insert | refuse | swap | reject | clear | abandon | rollBack | missed | dropped =>
    cases entered
  | _ =>
    first
      | exact whole entered
      | simp

theorem InTime.kept (before : v.InTime) (sound : v.execution.Sound)
    (moved : v.execution.Moved label effect y)
    (punctual : effect = .enter → v.execution.runner.isPast = false)
    (unwinds : label = .unwind → v.execution.admission.isEntered = false) :
    (v.after y effect).InTime := by
  have ahead : effect = .enter → v.execution.runner.hasLeft = false := fun enters =>
    Bool.eq_false_iff.2 fun left => by
      have past := Runner.isPast_iff.2 (Or.inl left)
      rw [punctual enters] at past
      cases past
  refine ⟨.kept before.toListed sound moved, ?_, ?_, ?_⟩
  · rw [after_execution]
    exact whole_kept before.whole moved punctual unwinds
  · rw [after_execution]
    exact active_kept before.active sound moved ahead
  · rw [after_execution]
    exact recorded_kept before.recorded before.unrecorded sound moved ahead

theorem Late.kept (late : v.Late) (sound : v.execution.Sound)
    (moved : v.execution.Moved label effect y) : (v.after y effect).Late := by
  obtain ⟨entered, active, past⟩ := late
  have passed := moved.isPast sound past
  cases effect with
  | enter =>
    cases moved
    exact ⟨rfl, rfl, past⟩
  | leave =>
    cases moved with
    | leave _ at_ =>
      rw [at_] at past
      cases past
  | silent | record | announce _ =>
    exact ⟨(moved.isEntered (by simp)).trans entered, active, passed⟩

end View

/-! ## Runs -/

namespace Executor

variable {config : ExecutorConfig} {s t : Executor} {i : ExecutionId}

/-- The views of a run whose registrations are all in time. -/
theorem inTime_of_reaches
    (run : (executor config).Reaches (RegistersInTime config) (executor config).init s) :
    ∀ i v, s.view i = some v → v.InTime := by
  refine view_invariant run (fun v fresh => .fresh fresh) ?_
  intro s action i v label effect y admitted found of sound moved before
  have here := (view_eq_some.1 found).1
  refine before.kept sound moved (fun enters => ?_) fun unwinds => ?_
  · cases moved with
    | enter at_ =>
      obtain ⟨eq, x, at_i, refused⟩ := of
      cases at_i.symm.trans here
      subst eq
      exact admitted.1 _ here at_ refused.symm
    | _ => cases enters
  · subst unwinds
    obtain rfl := of
    exact admitted.2 _ here

/-- In time, the registry is exact as soon as nothing is in progress. -/
theorem registryExact_of_inTime (coupled : s.Coupled config) (quiescent : s.Quiescent)
    (inTime : ∀ i v, s.view i = some v → v.InTime) : s.RegistryExact := by
  have views : ∀ i x, s.executions i = some x →
      View.InTime ⟨x, decide (i ∈ s.active), s.finishes.count i, s.eventsOf i⟩ :=
    fun i x found => inTime i _ (view_eq_some.2 ⟨found, rfl, rfl, rfl⟩)
  have terminal : ∀ i x, s.executions i = some x → x.admission.isEntered = true →
      (x.core.terminal = none ↔ x.runner.hasLeft = false) := by
    intro i x found entered
    have committed := (coupled.sound i x found).terminal
    have settled := (quiescent i x found).runner
    have whole := (views i x found).whole entered
    rw [← Option.isNone_iff_eq_none, ← Option.not_isSome, committed]
    cases runner : x.runner <;> simp_all [Runner.isCommitted, Runner.hasLeft]
  constructor
  · intro i
    constructor
    · intro member
      cases found : s.executions i with
      | none => exact ((coupled.unborn i found).1 member).elim
      | some x =>
        have view := views i x found
        obtain ⟨error, returned⟩ := (quiescent i x found).admission
        have entered : x.admission.isEntered = true := by
          by_contra outside
          have absent := view.unentered (by simpa using outside)
          simp [member] at absent
        refine ⟨x, rfl, ?_,
          (terminal i x found entered).2 ((view.active entered).1 (by simpa using member))⟩
        rw [returned] at entered ⊢
        cases error with
        | none => rfl
        | some error => cases entered
    · rintro ⟨x, found, returned, running⟩
      have entered : x.admission.isEntered = true := by rw [returned]; rfl
      simpa using ((views i x found).active entered).2 ((terminal i x found entered).1 running)
  · intro i x found returned finished
    have entered : x.admission.isEntered = true := by rw [returned]; rfl
    have settled := (quiescent i x found).runner
    refine (views i x found).recorded entered ?_
    have committed := (coupled.sound i x found).terminal
    rw [Option.isSome_iff_ne_none.2 finished] at committed
    rw [(settled committed.symm).resolve_right ((views i x found).whole entered)]
    rfl

/-- An execution that is inserted and will not be removed is in the registry, terminal, ever
after. -/
theorem not_registryExact_of_late (coupled : s.Coupled config) {v : View}
    (found : s.view i = some v) (late : v.Late) : ¬ s.RegistryExact := by
  intro exact_
  obtain ⟨here, active, _, _⟩ := view_eq_some.1 found
  have member : i ∈ s.active := by
    have listed := late.active
    rw [active] at listed
    simpa using listed
  obtain ⟨x, at_i, _, running⟩ := (exact_.active i).1 member
  cases at_i.symm.trans here
  have committed := (coupled.sound i _ here).terminal
  rw [running] at committed
  have past := late.past
  revert committed past
  cases v.execution.runner <;> simp [Runner.isCommitted, Runner.isPast]

/-- A registration that is not in time, or the unwinding commit of an inserted execution,
leaves the execution where its commit will not remove it. -/
theorem late_of_step {action : ExecutorAction} (inTime : ∀ i v, s.view i = some v → v.InTime)
    (step : s.step config action = some t) (bad : ¬ RegistersInTime config s action) :
    ∃ i v, t.view i = some v ∧ v.Late := by
  unfold RegistersInTime at bad
  rw [not_and_or] at bad
  simp only [not_forall] at bad
  rcases bad with ⟨x, member, at_, accepted, past⟩ | ⟨x, member, entered⟩
  · obtain ⟨i, admits, found⟩ := Option.bind_eq_some_iff.1 member
    obtain rfl : action = .advanceAdmission i := by
      cases action <;> simp_all [ExecutorAction.admits]
    have moved : s.advanceAdmission config i x = some t := by
      simpa [Executor.step, found, Executor.move] using step
    have eq : t = s.put i ({ x with admission := .entered }, .enter) := by
      simpa [Executor.advanceAdmission, at_, Execution.advanceAdmission, accepted,
        Executor.releaseAdmission, eq_comm] using moved
    subst eq
    exact ⟨i, _, put_view_self i x _ _, rfl, rfl, by simpa [View.after] using past⟩
  · obtain ⟨i, unwinds, found⟩ := Option.bind_eq_some_iff.1 member
    obtain rfl : action = .unwind i := by
      cases action <;> simp_all [ExecutorAction.unwinds]
    have moved : (x.unwind.map fun x => s.put i (x, .silent)) = some t := by
      simpa [Executor.step, found, Executor.move] using step
    obtain ⟨y, unwound, rfl⟩ := Option.map_eq_some_iff.1 moved
    have entered : x.admission.isEntered = true := by simpa using entered
    cases Moved.of_unwind unwound with
    | unwind summary at_ =>
      have view : View.InTime ⟨x, decide (i ∈ s.active), s.finishes.count i, s.eventsOf i⟩ :=
        inTime i _ (view_eq_some.2 ⟨found, rfl, rfl, rfl⟩)
      have active := (view.active entered).2 (by rw [at_]; rfl)
      exact ⟨i, _, put_view_self i x _ _, entered, active, rfl⟩

/-- Only the executions a run created can be unsettled. -/
theorem quiescent_of_created {actions : List ExecutorAction}
    (run : (executor config).exec (executor config).init actions = some s)
    (settled : ∀ i ∈ actions.filterMap ExecutorAction.creates, ∀ x, s.executions i = some x →
      x.Settled) : s.Quiescent := by
  intro i x found
  by_cases created : i ∈ actions.filterMap ExecutorAction.creates
  · exact settled i created x found
  · have absent : s.executions i = none := by
      refine absent_of_creates .init run (fun action member creates => created ?_) rfl
      exact List.mem_filterMap.2 ⟨action, member, creates⟩
    rw [absent] at found
    cases found

end Executor

/-- Two lanes' worth of room and four places in the registry. -/
def smallExecutor : ExecutorConfig where
  lanes _ := narrowLane
  maxActiveExecutions := 4

/-- `register` runs before the dispatcher takes the entry. -/
def promptRun : List ExecutorAction :=
  [.submit 1 0 {} none false, .advanceAdmission 1, .advanceAdmission 1, .advanceAdmission 1,
    .advanceAdmission 1, .advanceAdmission 1, .dispatch 0, .start 1, .run 1, .run 1, .run 1,
    .finishBody 1 (.completed ()), .run 1, .run 1, .run 1, .run 1, .run 1, .run 1, .monitor 1]

/-- The dispatcher takes the entry, and its body completes, before `register` sets
the flag: `commit` reads it unset and leaves the registry alone. -/
def leakingRun : List ExecutorAction :=
  [.submit 1 0 {} none false, .advanceAdmission 1, .dispatch 0, .start 1, .run 1, .run 1,
    .finishBody 1 (.completed ()), .run 1, .run 1, .run 1, .monitor 1, .advanceAdmission 1,
    .advanceAdmission 1, .advanceAdmission 1, .advanceAdmission 1]

/-- What the registry, its records and execution 1 look like after a run. -/
def Executor.summary (s : Executor) :
    Finset ExecutionId × List ExecutionId × Option (Admission × Runner × Option TaskExitSummary) :=
  (s.active, s.finishes, (s.executions 1).map fun x => (x.admission, x.runner, x.core.terminal))

/-- A run of execution 1 alone that ends with it admitted and finished is quiescent. -/
theorem quiescent_of_summary {config : ExecutorConfig} {s : Executor}
    {actions : List ExecutorAction} {active : Finset ExecutionId} {finishes : List ExecutionId}
    {terminal : Option TaskExitSummary}
    (run : (executor config).exec (executor config).init actions = some s)
    (alone : actions.filterMap ExecutorAction.creates = [1])
    (ends : s.summary = (active, finishes, some (.returned none, .finished, terminal))) :
    s.Quiescent := by
  refine Executor.quiescent_of_created run ?_
  rw [alone]
  intro i only x found
  rw [List.mem_singleton] at only
  subst only
  simp only [Executor.summary, found, Option.map_some, Prod.mk.injEq, Option.some.injEq] at ends
  obtain ⟨_, _, admission, runner, _⟩ := ends
  exact ⟨⟨none, admission⟩, fun _ => .inl runner, by simp [runner]⟩

end BusyBeaver
