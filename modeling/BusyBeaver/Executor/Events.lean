import BusyBeaver.Executor.Registry

/-!
# The order of an execution's events

`Admitted`, `StateChanged` and `Terminal` are sent after the locks that produced
them are released, by the admission call, by whoever changes the state and by the
commit, which never sends it if a lost value's destructor unwinds first.
`events_ordered` says that they come out in that order for every admitted
execution of every run in which no `emit_state` or `commit` reads the flag before
`Admitted` is sent, no `emit_state` is under way when `Terminal` is, and no commit of
an announced execution unwinds.
-/

namespace BusyBeaver

open Transition Execution

/-- No `emit_state` of the execution is under way. -/
structure Execution.Quiet (x : Execution) : Prop where
  stop : x.stop = .idle ∨ x.stop = .hooking ∨ x.stop = .done
  reports : x.reports = 0
  announcements : x.announcements = 0

instance (x : Execution) : Decidable x.Quiet :=
  decidable_of_iff ((x.stop = .idle ∨ x.stop = .hooking ∨ x.stop = .done) ∧ x.reports = 0 ∧
    x.announcements = 0) ⟨fun all => ⟨all.1, all.2.1, all.2.2⟩,
      fun quiet => ⟨quiet.stop, quiet.reports, quiet.announcements⟩⟩

/-- `Admitted`, then state changes, then `Terminal` once `commit` has returned. -/
def InOrder (x : Execution) (events : List EventKind) : Prop :=
  ∃ changes, events = .admitted :: List.replicate changes .stateChanged ++
    if x.runner = .finished then (x.core.terminal.map EventKind.terminal).toList else []

/-- When `Admitted` is sent, no `emit_state` has read the flag as set and the commit has
neither read it nor unwound; when `Terminal` is sent, no `emit_state` is under way; and
when a commit unwinds, `Admitted` has not been sent. -/
def Executor.EmitsInTurn (s : Executor) (action : ExecutorAction) : Prop :=
  (∀ x ∈ action.admits.bind s.executions, x.admission = .entered →
    x.noticed = false ∧ x.runner ≠ .finished ∧ x.runner ≠ .unwound) ∧
  (∀ x ∈ action.runs.bind s.executions, x.runner.isClosing = true → x.Quiet) ∧
  ∀ x ∈ action.unwinds.bind s.executions, x.admission.isAnnounced = false

instance (s : Executor) (action : ExecutorAction) : Decidable (s.EmitsInTurn action) :=
  inferInstanceAs (Decidable (_ ∧ _))

/-- A state change of an execution that is not finished goes to the end. -/
theorem InOrder.stateChanged {x y : Execution} {events : List EventKind}
    (inOrder : InOrder x events)
    (before : x.runner ≠ .finished) (after : y.runner ≠ .finished) :
    InOrder y (events ++ [.stateChanged]) := by
  obtain ⟨changes, eq⟩ := inOrder
  rw [if_neg before, List.append_nil] at eq
  refine ⟨changes + 1, ?_⟩
  rw [eq, if_neg after, List.append_nil, List.replicate_succ']
  rfl

theorem InOrder.congr {x y : Execution} {events : List EventKind} (inOrder : InOrder x events)
    (runner : y.runner = .finished ↔ x.runner = .finished)
    (terminal : y.core.terminal = x.core.terminal ∨ x.runner ≠ .finished) :
    InOrder y events := by
  obtain ⟨changes, eq⟩ := inOrder
  refine ⟨changes, ?_⟩
  rw [eq]
  by_cases finished : x.runner = .finished
  · have same := terminal.resolve_right fun other => other finished
    rw [if_pos finished, if_pos (runner.2 finished), same]
  · rw [if_neg finished, if_neg fun after => finished (runner.1 after)]

namespace View

variable {v : View} {label : Label} {effect : Effect} {y : Execution}

/-- The events of an execution that has been announced are in order so far. -/
structure Ordered (v : View) : Prop where
  unnoticed : v.Unnoticed
  inOrder : v.execution.admission.isAnnounced = true → InOrder v.execution v.events
  quiet : v.execution.admission.isAnnounced = true → v.execution.runner = .finished →
    v.execution.Quiet
  whole : v.execution.admission.isAnnounced = true → v.execution.runner ≠ .unwound

theorem Ordered.fresh (fresh : v.Fresh) : v.Ordered := by
  refine ⟨.fresh fresh, ?_, ?_, ?_⟩ <;> cases fresh <;>
    simp [Execution.submitted, Execution.direct, Admission.isAnnounced]

/-- An announced execution finishes by sending `Terminal` and in no other way. -/
theorem finished_iff (sound : v.execution.Sound) (moved : v.execution.Moved label effect y)
    (silent : ∀ kind, effect ≠ .announce kind)
    (announced : v.execution.admission.isAnnounced = true) :
    (y.runner = .finished ↔ v.execution.runner = .finished) ∧
      (y.core.terminal = v.execution.core.terminal ∨ v.execution.runner ≠ .finished) := by
  have entered : v.execution.admission.isEntered = true := by
    revert announced
    cases v.execution.admission with
    | returned error => cases error <;> simp [Admission.isAnnounced, Admission.isEntered]
    | _ => simp [Admission.isAnnounced, Admission.isEntered]
  have registered := sound.registered_of_entered entered
  cases moved with
  | commitUnset summary at_ unset =>
    rw [registered] at unset
    cases unset
  | lost exit at_ failed => exact (sound.not_lost at_ failed).elim
  | report next core polled written =>
    exact ⟨Iff.rfl, .inl (terminal_of_setActiveState written)⟩
  | requestStop cause core seen accepted =>
    obtain ⟨before, _, after, _⟩ := terminal_of_requestStop accepted
    exact ⟨Iff.rfl, .inl (after.trans before.symm)⟩
  | announce at_ | announceStart at_ | close _ at_ | sendReport at_ | announceStop _ at_ =>
    exact (silent _ rfl).elim
  | insert at_ | refuse _ at_ | abandon _ at_ | rollBack _ at_ =>
    rw [at_] at entered
    cases entered
  | launch at_ lane =>
    have prepared := sound.direct lane (by rw [at_]; rfl)
    exact ⟨by simp [prepared], .inl rfl⟩
  -- a runner that moves is not finished, and does not finish here
  | _ =>
    first
    | exact ⟨Iff.rfl, .inl rfl⟩
    | (have at_ := ‹v.execution.runner = _›
       exact ⟨by simp [at_], .inr (by simp [at_])⟩)

/-- After the terminal section nothing starts another `emit_state`. -/
theorem quiet_kept (sound : v.execution.Sound) (moved : v.execution.Moved label effect y)
    (finished : v.execution.runner = .finished) (quiet : v.execution.Quiet) : y.Quiet := by
  have terminal := sound.terminal
  have committed : v.execution.core.terminal ≠ none := by
    rw [finished] at terminal
    exact Option.isSome_iff_ne_none.1 terminal
  obtain ⟨stop, reports, announcements⟩ := quiet
  cases moved with
  | report next core polled written =>
    exact (committed (CoreState.setActiveState_eq_some.1 written).1).elim
  | requestStop cause core seen accepted =>
    exact (committed (terminal_of_requestStop accepted).1).elim
  | takeHook at_ | stopSet _ at_ | stopUnset _ at_ | announceStop _ at_ => simp [at_] at stop
  | hook | hookMissed => exact ⟨.inr (.inr rfl), reports, announcements⟩
  | reportSet pending | reportUnset pending => exact absurd reports pending.ne'
  | sendReport pending => exact absurd announcements pending.ne'
  | _ => exact ⟨stop, reports, announcements⟩

/-- What is sent is sent at the end. -/
theorem inOrder_of_announce {kind : EventKind} (ordered : v.Ordered) (sound : v.execution.Sound)
    (moved : v.execution.Moved label (.announce kind) y)
    (admitted : kind = .admitted → v.execution.noticed = false ∧ v.execution.runner ≠ .finished)
    (announced : y.admission.isAnnounced = true) : InOrder y (v.events ++ [kind]) := by
  obtain ⟨unnoticed, inOrder, quiet, -⟩ := ordered
  cases moved with
  | announce at_ =>
    obtain ⟨unseen, unfinished⟩ := admitted rfl
    have silent := (unnoticed unseen).unannounced (by rw [at_]; rfl)
    refine ⟨0, ?_⟩
    rw [silent, if_neg unfinished]
    rfl
  | announceStart at_ => exact (inOrder announced).stateChanged (by simp [at_]) (by simp)
  | sendReport pending =>
    have unfinished : v.execution.runner ≠ .finished := by
      intro finished
      have idle := (quiet announced finished).announcements
      omega
    exact (inOrder announced).stateChanged unfinished unfinished
  | announceStop hook at_ =>
    have unfinished : v.execution.runner ≠ .finished := by
      intro finished
      have idle := (quiet announced finished).stop
      simp [at_] at idle
    exact (inOrder announced).stateChanged unfinished unfinished
  | close summary at_ =>
    obtain ⟨changes, eq⟩ := inOrder announced
    have terminal := sound.summary summary (by rw [at_]; rfl)
    have unfinished : v.execution.runner ≠ .finished := by simp [at_]
    rw [if_neg unfinished, List.append_nil] at eq
    refine ⟨changes, ?_⟩
    rw [eq, if_pos rfl, terminal]
    rfl

/-- The commit of an announced execution goes on to its end. -/
theorem Ordered.whole_kept (ordered : v.Ordered) (moved : v.execution.Moved label effect y)
    (admitted : effect = .announce .admitted → v.execution.runner ≠ .unwound)
    (unwinds : label = .unwind → v.execution.admission.isAnnounced = false)
    (announced : y.admission.isAnnounced = true) : y.runner ≠ .unwound := by
  have whole := ordered.whole
  cases moved with
  | announce => exact admitted rfl
  | unwind =>
    rw [unwinds rfl] at announced
    cases announced
  | accept at_ => exact whole (by rw [at_]; rfl)
  | insert | refuse | swap | enter | reject | clear | abandon | rollBack | missed | dropped =>
    cases announced
  | _ =>
    first
      | exact whole announced
      | simp

theorem Ordered.kept (ordered : v.Ordered) (sound : v.execution.Sound)
    (moved : v.execution.Moved label effect y)
    (admitted : effect = .announce .admitted → v.execution.noticed = false ∧
      v.execution.runner ≠ .finished ∧ v.execution.runner ≠ .unwound)
    (closed : v.execution.runner.isClosing = true → label = .run → v.execution.Quiet)
    (unwinds : label = .unwind → v.execution.admission.isAnnounced = false) :
    (v.after y effect).Ordered := by
  have unnoticed := ordered.unnoticed.kept moved
  have whole := ordered.whole_kept moved (fun first => (admitted first).2.2) unwinds
  by_cases sends : ∃ kind, effect = .announce kind
  · obtain ⟨kind, eq⟩ := sends
    subst eq
    refine ⟨unnoticed, ?_, ?_, whole⟩
    · intro announced
      refine inOrder_of_announce ordered sound moved (fun first => ?_) announced
      obtain ⟨unseen, unfinished, -⟩ := admitted (congrArg Effect.announce first)
      exact ⟨unseen, unfinished⟩
    · intro announced finished
      have before : v.execution.runner = .finished ∨ v.execution.runner.isClosing = true := by
        rw [after_execution] at finished
        cases moved with
        | announceStart => cases finished
        | close summary at_ => exact .inr (by rw [at_]; rfl)
        | _ => exact .inl finished
      rcases before with before | closing
      · have same := moved.isAnnounced fun first => (admitted first).2.1 before
        have earlier := same.symm.trans announced
        exact quiet_kept sound moved before (ordered.quiet earlier before)
      · cases moved with
        | close summary at_ =>
          have quiet := closed closing rfl
          exact ⟨quiet.stop, quiet.reports, quiet.announcements⟩
        | announceStart => cases finished
        | _ =>
          rw [after_execution] at finished
          have before : v.execution.runner = .finished := finished
          rw [before] at closing
          cases closing
  · have silent : ∀ kind, effect ≠ .announce kind := fun kind eq => sends ⟨kind, eq⟩
    have events : (v.after y effect).events = v.events := by
      cases effect with
      | announce kind => exact (silent kind rfl).elim
      | _ => rfl
    refine ⟨unnoticed, ?_, ?_, by rwa [after_execution]⟩
    · rw [after_execution, events]
      intro announced
      have earlier := (moved.isAnnounced (silent _)).symm.trans announced
      obtain ⟨runner, terminal⟩ := finished_iff sound moved silent earlier
      exact (ordered.inOrder earlier).congr runner terminal
    · rw [after_execution]
      intro announced finished
      have earlier := (moved.isAnnounced (silent _)).symm.trans announced
      have before := (finished_iff sound moved silent earlier).1.1 finished
      exact quiet_kept sound moved before (ordered.quiet earlier before)

end View

/-! ## Runs -/

/-- The dispatcher starts the execution between the insertion and `register`: its
runner reads the flag inside `register`'s window. -/
def overtakingRun : List ExecutorAction :=
  [.submit 1 0 {} none false, .advanceAdmission 1, .dispatch 0, .start 1, .run 1,
    .advanceAdmission 1, .run 1, .run 1, .advanceAdmission 1, .advanceAdmission 1,
    .advanceAdmission 1]

end BusyBeaver
