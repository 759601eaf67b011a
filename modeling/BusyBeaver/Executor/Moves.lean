import BusyBeaver.Executor.State

/-!
# What one execution sees of a step

`Execution.Moved` lists every way one execution can change, with the thread that
moves it and what the move does outside; `View` is the execution with its place in
the registry, its records and its events.  A step of the executor leaves a view alone,
creates it, or changes it by one such move (`Executor.Coupled.step`): the results on
admission, registry and events are proved on views.
-/

namespace BusyBeaver

open Transition

/-- The thread that moves an execution. -/
inductive Label : Type
  | admission (refused : Option SpawnError)
  | start
  | run
  | unwind
  | body
  | report
  | loadReport
  | sendReport
  | requestStop
  | stop
  | take
  | drain
  deriving DecidableEq

namespace Execution

inductive Moved (x : Execution) : Label → Effect → Execution → Prop
  -- `insert_prepared`, `register` and the roll-back
  | insert {r : Option SpawnError} :
    x.admission = .inserting → x.lane ≠ none →
    Moved x (.admission r) .silent { x with admission := .registering, runner := .queued }
  | refuse {r : Option SpawnError} (error : SpawnError) :
    x.admission = .inserting → x.lane ≠ none →
    Moved x (.admission r) .silent
      { x with admission := .dropping error, runner := .exiting .runnerCancelled }
  | swap {r : Option SpawnError} :
    x.admission = .registering →
    Moved x (.admission r) .silent { x with admission := .swapped, registered := true }
  | enter :
    x.admission = .swapped → Moved x (.admission none) .enter { x with admission := .entered }
  | reject (error : SpawnError) :
    x.admission = .swapped →
    Moved x (.admission (some error)) .silent { x with admission := .rejected error }
  | announce {r : Option SpawnError} :
    x.admission = .entered →
    Moved x (.admission r) (.announce .admitted) { x with admission := .announced }
  | accept {r : Option SpawnError} :
    x.admission = .announced → x.lane ≠ none →
    Moved x (.admission r) .silent { x with admission := .returned none }
  | launch {r : Option SpawnError} :
    x.admission = .announced → x.lane = none →
    Moved x (.admission r) .silent { x with admission := .returned none, runner := .spawned }
  | clear {r : Option SpawnError} (error : SpawnError) :
    x.admission = .rejected error →
    Moved x (.admission r) .silent { x with admission := .rollback error, registered := false }
  | abandon {r : Option SpawnError} (error : SpawnError) :
    x.admission = .rollback error → x.lane = none →
    Moved x (.admission r) .silent
      { x with admission := .dropping error, runner := .exiting .runnerCancelled }
  | rollBack {r : Option SpawnError} (error : SpawnError) :
    x.admission = .rollback error → x.lane ≠ none → x.runner = .queued →
    Moved x (.admission r) .silent
      { x with admission := .dropping error, runner := .exiting .runnerCancelled }
  | missed {r : Option SpawnError} (error : SpawnError) :
    x.admission = .rollback error → x.lane ≠ none → x.runner ≠ .queued →
    Moved x (.admission r) .silent { x with admission := .returned (some error) }
  | dropped {r : Option SpawnError} (error : SpawnError) :
    x.admission = .dropping error → x.runner = .finished →
    Moved x (.admission r) .silent { x with admission := .returned (some error) }
  -- the lane
  | take : x.runner = .queued →
      Moved x .take .silent { x with runner := .taken, dispatched := true }
  | drain : x.runner = .queued →
    Moved x .drain .silent { x with runner := .exiting .runnerCancelled }
  | start : x.runner = .taken →
    Moved x .start .silent { x with runner := .spawned, queuedCancelHook := false }
  -- the runner
  | claim (core : CoreState) : x.runner = .spawned → x.core.claimStart = some core →
    Moved x .run .silent { x with core := core, runner := .claimed }
  | unclaimed : x.runner = .spawned →
    Moved x .run .silent { x with runner := .exiting .runnerCancelled }
  | loadSet : x.runner = .claimed → x.registered = true →
    Moved x .run .silent { x with runner := .announcing, noticed := true }
  | loadUnset : x.runner = .claimed → x.registered = false →
    Moved x .run .silent { x with runner := .working, polled := true }
  | announceStart : x.runner = .announcing →
    Moved x .run (.announce .stateChanged) { x with runner := .working, polled := true }
  | finishBody (exit : Exit) : x.runner = .working →
    Moved x .body .silent { x with runner := .exiting exit }
  | loseSpawned : x.runner = .spawned →
    Moved x .body .silent { x with runner := .exiting .runnerCancelled }
  | loseWorking : x.runner = .working →
    Moved x .body .silent { x with runner := .exiting .runnerCancelled }
  -- `commit`
  | commit (exit : Exit) (committed : Committed Unit Unit) : x.runner = .exiting exit →
    x.core.commit none exit = some committed → committed.dropsUserValue = false →
    Moved x .run .silent { x with core := committed.core, runner := .selected committed.summary }
  | commitOver (exit : Exit) (committed : Committed Unit Unit) : x.runner = .exiting exit →
    x.core.commit none exit = some committed → committed.dropsUserValue = true →
    Moved x .run .silent
      { x with core := committed.core, runner := .discarding committed.summary }
  | discard (summary : TaskExitSummary) : x.runner = .discarding summary →
    Moved x .run .silent { x with runner := .selected summary }
  | unwind (summary : TaskExitSummary) : x.runner = .discarding summary →
    Moved x .unwind .silent { x with runner := .unwound }
  | lost (exit : Exit) : x.runner = .exiting exit → x.core.commit none exit = none →
    Moved x .run .silent { x with runner := .finished }
  | publish (summary : TaskExitSummary) : x.runner = .selected summary →
    Moved x .run .silent { x with runner := .published summary }
  | commitSet (summary : TaskExitSummary) : x.runner = .published summary → x.registered = true →
    Moved x .run .silent { x with runner := .leaving summary, noticed := true }
  | commitUnset (summary : TaskExitSummary) : x.runner = .published summary →
    x.registered = false → Moved x .run .silent { x with runner := .finished }
  | leave (summary : TaskExitSummary) : x.runner = .leaving summary →
    Moved x .run .leave { x with runner := .recording summary }
  | record (summary : TaskExitSummary) : x.runner = .recording summary →
    Moved x .run .record { x with runner := .closing summary }
  | close (summary : TaskExitSummary) : x.runner = .closing summary →
    Moved x .run (.announce (.terminal summary)) { x with runner := .finished }
  -- reports of user code
  | report (next : ActiveState) (core : CoreState) : x.polled = true →
    x.core.setActiveState next = some core →
    Moved x .report .silent { x with core := core, reports := x.reports + 1 }
  | reportSet : 0 < x.reports → x.registered = true →
    Moved x .loadReport .silent
      { x with reports := x.reports - 1, announcements := x.announcements + 1, noticed := true }
  | reportUnset : 0 < x.reports → x.registered = false →
    Moved x .loadReport .silent { x with reports := x.reports - 1 }
  | sendReport : 0 < x.announcements →
    Moved x .sendReport (.announce .stateChanged) { x with announcements := x.announcements - 1 }
  -- the accepted stop
  | requestStop (cause : StopCauseSummary) (core : CoreState) : x.visible = true →
    x.core.requestStop cause = (.requested, core) →
    Moved x .requestStop .silent { x with core := core, stop := .accepted }
  | takeHook : x.stop = .accepted →
    Moved x .stop .silent { x with stop := .loading x.queuedCancelHook, queuedCancelHook := false }
  | stopSet (hook : Bool) : x.stop = .loading hook → x.registered = true →
    Moved x .stop .silent { x with stop := .announcing hook, noticed := true }
  | stopUnset (hook : Bool) : x.stop = .loading hook → x.registered = false →
    Moved x .stop .silent { x with stop := .emitted hook }
  | announceStop (hook : Bool) : x.stop = .announcing hook →
    Moved x .stop (.announce .stateChanged) { x with stop := .emitted hook }
  | hook : x.stop = .hooking → x.runner = .queued →
    Moved x .stop .silent { x with stop := .done, runner := .exiting .runnerCancelled }
  | hookMissed : x.stop = .hooking → x.runner ≠ .queued →
    Moved x .stop .silent { x with stop := .done }

/-! ## The moves are the functions of the source -/

section Inversion

variable {x y : Execution} {effect : Effect}

theorem Moved.of_advanceAdmission {refused : Option SpawnError}
    (moved : x.advanceAdmission refused = some (y, effect)) :
    Moved x (.admission refused) effect y := by
  unfold advanceAdmission at moved
  split at moved
  case h_1 at_ =>
    cases moved
    exact .swap at_
  case h_2 at_ =>
    split at moved
    · cases moved
      exact .enter at_
    · cases moved
      exact .reject _ at_
  case h_3 at_ =>
    cases moved
    exact .announce at_
  case h_4 at_ =>
    split at moved
    · next lane =>
      cases moved
      exact .accept at_ (by simp [lane])
    · next lane =>
      cases moved
      exact .launch at_ lane
  case h_5 at_ =>
    cases moved
    exact .clear _ at_
  case h_6 at_ =>
    split at moved
    · cases moved
    · next lane =>
      cases moved
      exact .abandon _ at_ lane
  case h_7 at_ =>
    split at moved
    · next finished =>
      cases moved
      exact .dropped _ at_ finished
    · cases moved
  case h_8 | h_9 => cases moved

theorem Moved.of_run (moved : x.run = some (y, effect)) : Moved x .run effect y := by
  unfold run at moved
  split at moved
  case h_1 at_ =>
    split at moved
    · next claimed =>
      cases moved
      exact .claim _ at_ claimed
    · cases moved
      exact .unclaimed at_
  case h_2 at_ =>
    split at moved
    · next set =>
      cases moved
      exact .loadSet at_ set
    · next unset =>
      cases moved
      exact .loadUnset at_ (by simpa using unset)
  case h_3 at_ =>
    cases moved
    exact .announceStart at_
  case h_4 at_ =>
    split at moved
    · next committed =>
      split at moved
      · next lost =>
        cases moved
        exact .commitOver _ _ at_ committed lost
      · next kept =>
        cases moved
        exact .commit _ _ at_ committed (by simpa using kept)
    · next lost =>
      cases moved
      exact .lost _ at_ lost
  case h_5 at_ =>
    cases moved
    exact .discard _ at_
  case h_6 at_ =>
    cases moved
    exact .publish _ at_
  case h_7 at_ =>
    split at moved
    · next set =>
      cases moved
      exact .commitSet _ at_ set
    · next unset =>
      cases moved
      exact .commitUnset _ at_ (by simpa using unset)
  case h_8 at_ =>
    cases moved
    exact .leave _ at_
  case h_9 at_ =>
    cases moved
    exact .record _ at_
  case h_10 at_ =>
    cases moved
    exact .close _ at_
  all_goals cases moved

theorem Moved.of_unwind (moved : x.unwind = some y) : Moved x .unwind .silent y := by
  unfold Execution.unwind at moved
  split at moved
  case h_1 at_ =>
    cases moved
    exact .unwind _ at_
  case h_2 => cases moved

theorem Moved.of_body (moved : (∃ exit, x.finishBody exit = some y) ∨ x.loseRunner = some y) :
    Moved x .body .silent y := by
  rcases moved with ⟨exit, moved⟩ | moved
  · unfold Execution.finishBody at moved
    split at moved
    · next working =>
      cases moved
      exact .finishBody exit working
    · cases moved
  · unfold loseRunner at moved
    split at moved
    · next suspended =>
      cases moved
      exact suspended.elim .loseSpawned .loseWorking
    · cases moved

theorem Moved.of_start (moved : x.start = some y) : Moved x .start .silent y := by
  unfold Execution.start at moved
  split at moved
  · next taken =>
    cases moved
    exact .start taken
  · cases moved

theorem Moved.of_report {next : ActiveState} (moved : x.report next = some y) :
    Moved x .report .silent y := by
  unfold Execution.report at moved
  split at moved
  · next polled =>
    obtain ⟨core, written, eq⟩ := Option.map_eq_some_iff.1 moved
    subst eq
    exact .report next core polled written
  · cases moved

theorem Moved.of_loadReport (moved : x.loadReport = some y) : Moved x .loadReport .silent y := by
  unfold loadReport at moved
  split at moved
  · next pending =>
    split at moved
    · next set =>
      cases moved
      exact .reportSet pending set
    · next unset =>
      cases moved
      exact .reportUnset pending (by simpa using unset)
  · cases moved

theorem Moved.of_sendReport (moved : x.sendReport = some (y, effect)) :
    Moved x .sendReport effect y := by
  unfold Execution.sendReport at moved
  split at moved
  · next pending =>
    cases moved
    exact .sendReport pending
  · cases moved

theorem Moved.of_requestStop {cause : StopCauseSummary} (moved : x.requestStop cause = some y) :
    Moved x .requestStop .silent y := by
  unfold Execution.requestStop at moved
  split at moved
  · next seen =>
    split at moved
    · next accepted =>
      cases moved
      exact .requestStop cause _ seen accepted
    · cases moved
  · cases moved

theorem Moved.of_advanceStop (moved : x.advanceStop = some (y, effect)) :
    Moved x .stop effect y := by
  unfold advanceStop at moved
  split at moved
  case h_1 at_ =>
    cases moved
    exact .takeHook at_
  case h_2 at_ =>
    split at moved
    · next set =>
      cases moved
      exact .stopSet _ at_ set
    · next unset =>
      cases moved
      exact .stopUnset _ at_ (by simpa using unset)
  case h_3 at_ =>
    cases moved
    exact .announceStop _ at_
  all_goals cases moved

end Inversion

/-! ## What holds of an execution by itself -/

/-- The couplings between the fields of one execution. -/
structure Sound (x : Execution) : Prop where
  /-- The flag is written by the admission call alone. -/
  flag : x.registered = x.admission.flag
  inserting : x.admission = .inserting → x.lane ≠ none ∧ x.runner = .prepared
  direct : x.lane = none → x.admission.holdsStart = true → x.runner = .prepared
  unqueued : x.lane = none → x.runner ≠ .queued ∧ x.runner ≠ .taken
  terminal : x.core.terminal.isSome = x.runner.isCommitted
  summary : ∀ summary, x.runner.summary = some summary → x.core.terminal = some summary
  dispatched : x.lane ≠ none → x.dispatched = false → x.runner.isRunning = false ∧ x.polled = false

theorem Sound.submitted (lane : LaneId) (options : SpawnOptions) (ticket : Option Nat)
    (tagTooLong : Bool) : Sound (submitted lane options ticket tagTooLong) where
  flag := rfl
  inserting _ := ⟨by simp [Execution.submitted], rfl⟩
  direct absurd := by simp [Execution.submitted] at absurd
  unqueued absurd := by simp [Execution.submitted] at absurd
  terminal := rfl
  summary _ absurd := by cases absurd
  dispatched _ _ := ⟨rfl, rfl⟩

theorem Sound.ofDirect (tagTooLong : Bool) : Sound (Execution.direct tagTooLong) where
  flag := rfl
  inserting absurd := by cases absurd
  direct _ _ := rfl
  unqueued _ := ⟨by simp [Execution.direct], by simp [Execution.direct]⟩
  terminal := rfl
  summary _ absurd := by cases absurd
  dispatched absurd := (absurd rfl).elim

section Sound

variable {x y : Execution} {label : Label} {effect : Effect}

theorem Moved.lane (moved : Moved x label effect y) : y.lane = x.lane := by
  cases moved <;> rfl

/-- A lane submission that has passed `insert_prepared`'s section stays past it. -/
theorem Moved.inserted (moved : Moved x label effect y) (past : x.admission ≠ .inserting) :
    y.admission ≠ .inserting := by
  cases moved <;> first | exact past | simp

theorem Moved.dispatched (moved : Moved x label effect y) (before : x.dispatched = true) :
    y.dispatched = true := by
  cases moved <;> first | exact before | rfl

/-- Only the admission call announces an execution. -/
theorem Moved.isAnnounced (moved : Moved x label effect y) (other : effect ≠ .announce .admitted) :
    y.admission.isAnnounced = x.admission.isAnnounced := by
  cases moved with
  | announce => exact absurd rfl other
  | _ =>
    first
    | rfl
    | (rw [‹x.admission = _›]; rfl)

/-- Only `register` inserts an execution. -/
theorem Moved.isEntered (moved : Moved x label effect y) (other : effect ≠ .enter) :
    y.admission.isEntered = x.admission.isEntered := by
  cases moved with
  | enter => exact absurd rfl other
  | _ =>
    first
    | rfl
    | (rw [‹x.admission = _›]; rfl)

theorem Moved.flag (moved : Moved x label effect y) (flag : x.registered = x.admission.flag) :
    y.registered = y.admission.flag := by
  cases moved <;> simp_all [Admission.flag]

/-- A section that writes the core without committing keeps the terminal. -/
theorem terminal_of_claimStart {core after : CoreState} (claimed : core.claimStart = some after) :
    core.terminal = none ∧ after.terminal = none := by
  obtain ⟨running, _, eq⟩ := CoreState.claimStart_eq_some.1 claimed
  subst eq
  exact ⟨running, running⟩

theorem terminal_of_setActiveState {core after : CoreState} {next : ActiveState}
    (written : core.setActiveState next = some after) : after.terminal = core.terminal := by
  obtain ⟨_, _, eq⟩ := CoreState.setActiveState_eq_some.1 written
  subst eq
  rfl

theorem terminal_of_requestStop {core after : CoreState} {cause : StopCauseSummary}
    (accepted : core.requestStop cause = (.requested, after)) :
    core.terminal = none ∧ core.stopCause = none ∧ after.terminal = none ∧
      after.stopCause = some cause := by
  rcases core with ⟨publicState, - | first, - | summary⟩ <;>
    simp [CoreState.requestStop] at accepted
  subst accepted
  exact ⟨rfl, rfl, rfl, rfl⟩

theorem terminal_of_commit {core : CoreState} {exit : Exit} {committed : Committed Unit Unit}
    (written : core.commit none exit = some committed) :
    core.terminal = none ∧ committed.core.terminal = some committed.summary := by
  unfold CoreState.commit at written
  split at written
  · cases written
  · next running =>
    cases written
    exact ⟨by simpa using running, rfl⟩

theorem terminal_of_commit_none {core : CoreState} {exit : Exit}
    (lost : core.commit none exit = none) : core.terminal.isSome = true := by
  unfold CoreState.commit at lost
  split at lost
  · next finished => exact finished
  · cases lost

theorem Moved.terminal (moved : Moved x label effect y) (sound : x.Sound) :
    y.core.terminal.isSome = y.runner.isCommitted := by
  have terminal := sound.terminal
  cases moved with
  | insert at_ | refuse _ at_ =>
    rw [terminal, (sound.inserting at_).2]
    rfl
  | abandon error at_ lane =>
    rw [terminal, sound.direct lane (by rw [at_]; rfl)]
    rfl
  | launch at_ lane =>
    have prepared := sound.direct lane (by rw [at_]; rfl)
    rw [prepared] at terminal
    exact terminal
  | claim core at_ claimed =>
    obtain ⟨_, after⟩ := terminal_of_claimStart claimed
    simp [after, Runner.isCommitted]
  | report next core polled written =>
    rw [← terminal, ← terminal_of_setActiveState written]
  | requestStop cause core seen accepted =>
    obtain ⟨before, _, after, _⟩ := terminal_of_requestStop accepted
    rw [← terminal, before, ← after]
  | commit exit committed at_ written | commitOver exit committed at_ written =>
    rw [(terminal_of_commit written).2]
    rfl
  | lost exit at_ failed =>
    exact terminal_of_commit_none failed
  -- the others leave the core alone, and move the runner on one side of the commit
  | _ =>
    first
    | exact terminal
    | (have at_ := ‹x.runner = _›
       rw [at_] at terminal
       exact terminal)

theorem Moved.summary (moved : Moved x label effect y) (sound : x.Sound) :
    ∀ summary, y.runner.summary = some summary → y.core.terminal = some summary := by
  have summary := sound.summary
  cases moved with
  | report next core polled written =>
    rw [terminal_of_setActiveState written]
    exact summary
  | requestStop cause core seen accepted =>
    obtain ⟨before, _, after, _⟩ := terminal_of_requestStop accepted
    rw [after, ← before]
    exact summary
  | commit exit committed at_ written | commitOver exit committed at_ written =>
    intro other same
    rw [(terminal_of_commit written).2]
    exact same
  -- the others leave the core alone, and the runner keeps its summary or has none
  | _ =>
    first
    | exact summary
    | (intro other same
       cases same
       done)
    | (intro other same
       have at_ := ‹x.runner = _›
       exact summary other (by rw [at_]; exact same))

theorem Moved.sound (moved : Moved x label effect y) (sound : x.Sound) : y.Sound := by
  have flag := sound.flag
  have inserting := sound.inserting
  have direct := sound.direct
  have unqueued := sound.unqueued
  have dispatched := sound.dispatched
  constructor
  case flag => exact moved.flag flag
  case terminal => exact moved.terminal sound
  case summary => exact moved.summary sound
  -- most moves leave the fields of a coupling alone
  case inserting =>
    cases moved <;> first
      | exact inserting
      | (intro absurd; cases absurd)
      | exact fun here => absurd ((inserting here).2.symm.trans ‹x.runner = _›) (by simp)
  case direct =>
    cases moved <;> first
      | exact direct
      | (intro _ absurd; cases absurd; done)
      | exact fun lane => absurd lane ‹x.lane ≠ none›
      | exact fun lane _ => direct lane (by rw [‹x.admission = _›]; rfl)
      | exact fun lane here => absurd ((direct lane here).symm.trans ‹x.runner = _›) (by simp)
  case unqueued =>
    cases moved <;> first
      | exact unqueued
      | (intro _; constructor <;> (intro absurd; cases absurd; done))
      | exact fun lane => absurd lane ‹x.lane ≠ none›
      | exact fun lane => absurd ‹x.runner = .queued› (unqueued lane).1
  case dispatched =>
    cases moved <;> first
      | exact dispatched
      | (intro _ absurd; cases absurd)
      | simp_all [Runner.isRunning]

/-- The guard's commit is the first one, so it is never refused. -/
theorem Sound.not_lost (sound : x.Sound) {exit : Exit} (at_ : x.runner = .exiting exit) :
    x.core.commit none exit ≠ none := by
  intro lost
  have finished := terminal_of_commit_none lost
  rw [sound.terminal, at_] at finished
  cases finished

/-- A commit does not go back. -/
theorem Moved.passes (moved : Moved x label effect y) (sound : x.Sound) :
    (x.runner.hasLeft = true → y.runner.hasLeft = true) ∧
      (x.runner.isRecorded = true → y.runner.isRecorded = true) := by
  cases moved with
  | insert at_ | refuse _ at_ =>
    rw [(sound.inserting at_).2]
    constructor <;> (intro absurd; cases absurd)
  | launch at_ lane | abandon _ at_ lane =>
    rw [sound.direct lane (by rw [at_]; rfl)]
    constructor <;> (intro absurd; cases absurd)
  | record | close => exact ⟨fun _ => rfl, fun _ => rfl⟩
  | _ =>
    first
    | exact ⟨id, id⟩
    | (have at_ := ‹x.runner = _›
       rw [at_]
       constructor <;> (intro absurd; cases absurd))

/-- Nor does it remove the execution later, if it does not any more. -/
theorem Moved.isPast (moved : Moved x label effect y) (sound : x.Sound)
    (past : x.runner.isPast = true) : y.runner.isPast = true := by
  cases moved with
  | insert at_ | refuse _ at_ =>
    rw [(sound.inserting at_).2] at past
    cases past
  | launch at_ lane | abandon _ at_ lane =>
    rw [sound.direct lane (by rw [at_]; rfl)] at past
    cases past
  | record | close | unwind => rfl
  | _ =>
    first
    | exact past
    | (rw [‹x.runner = _›] at past
       cases past)

/-- The flag of an inserted execution is set. -/
theorem Sound.registered_of_entered (sound : x.Sound) (entered : x.admission.isEntered = true) :
    x.registered = true := by
  rw [sound.flag]
  revert entered
  cases x.admission with
  | returned error => cases error <;> simp [Admission.isEntered, Admission.flag]
  | _ => simp [Admission.isEntered, Admission.flag]

/-- Only the lane's sections move an execution in or out of the queue. -/
theorem Moved.queued (moved : Moved x label effect y) (sound : x.Sound)
    (taken : label ≠ .take ∧ label ≠ .drain)
    (admitting : ∀ r, label = .admission r → x.lane = none ∨
      x.admission ≠ .inserting ∧ ∀ error, x.admission ≠ .rollback error)
    (stopping : label = .stop → x.stop ≠ .hooking) :
    y.runner = .queued ↔ x.runner = .queued := by
  cases moved with
  | insert at_ lane | refuse _ at_ lane =>
    rcases admitting _ rfl with direct | ⟨past, -⟩
    · exact absurd direct lane
    · exact absurd at_ past
  | rollBack error at_ lane =>
    rcases admitting _ rfl with direct | ⟨-, kept⟩
    · exact absurd direct lane
    · exact absurd at_ (kept error)
  | launch _ lane | abandon _ _ lane =>
    have unqueued := (sound.unqueued lane).1
    simp [unqueued]
  | take => exact absurd rfl taken.1
  | drain => exact absurd rfl taken.2
  | hook at_ => exact absurd at_ (stopping rfl)
  | start at_ | claim _ at_ | unclaimed at_ | loadSet at_ | loadUnset at_ | announceStart at_
  | finishBody _ at_ | loseSpawned at_ | loseWorking at_ | commit _ _ at_ | commitOver _ _ at_
  | discard _ at_ | unwind _ at_ | lost _ at_ | publish _ at_ | commitSet _ at_
  | commitUnset _ at_ | leave _ at_ | record _ at_ | close _ at_ => simp [at_]
  | _ => exact Iff.rfl

end Sound

end Execution

end BusyBeaver
