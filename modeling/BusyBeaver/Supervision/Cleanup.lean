import BusyBeaver.Service.Hook
import BusyBeaver.Shutdown.Process
import BusyBeaver.Supervision.Attempts

/-!
# The cleanup of an execution

`ExecutionCore::cleanup` says what is left to do before an execution is terminal, and what
became of it.  It is written by the closers of children, in the body and in the runner, and
by `run_service` around its shutdown hook; a report of a shutdown shows it.  In the end the
cell shows what the hook and the closers did, unless the body was dropped in the middle of
one (`cleanup_reported`).  Of a service that was stopped it shows what they did since the stop:
`run_service` overwrites what earlier generations left.
-/

namespace BusyBeaver

open Transition

/-! ## The cell -/

namespace CleanupProgress

/-- `Finished(Failed(_))` or `Finished(ForcedCancelled { .. })`. -/
def isFailure : CleanupProgress → Bool
  | .finished (.failed _) | .finished (.forcedCancelled _) => true
  | _ => false

/-- `set_cleanup_pending`. -/
def setPending (progress : CleanupProgress) (phase : CleanupPhase) : CleanupProgress :=
  if progress.isFailure then progress else .pending phase

/-- `finish_cleanup`. -/
def finish (progress : CleanupProgress) (outcome : CleanupOutcome) : CleanupProgress :=
  if progress.isFailure && (outcome == .completed || outcome == .notRequired) then progress
  else .finished outcome

end CleanupProgress

/-- `hook_cleanup_outcome`. -/
def hookCleanupOutcome : HookOutcome → CleanupOutcome
  | .notRequired => .notRequired
  | .completed => .completed
  | .failed message => .failed message
  | .panicked => .failed "shutdown hook panicked"
  | .timedOut => .failed "shutdown hook timed out"

/-- What a step writes to the cell. -/
inductive CleanupWrite : Type
  /-- A closer has taken these controls. -/
  | close (controls : List Nat)
  /-- A closer has waited for all of them. -/
  | closed
  /-- The select of `run_service` finds the service cancelled. -/
  | stop
  /-- `run_shutdown_hook` returns. -/
  | hook (outcome : HookOutcome)
  deriving DecidableEq, Repr

variable {T E : Type}

/-- What `run_shutdown_hook` leads to up to its await. -/
def Kind.hookWrite : Kind → Choice T E → Option CleanupWrite
  | .service true, .proceed => none
  | .service true, _ => some (.hook .panicked)
  | _, _ => some (.hook .notRequired)

/-- What a step of the tasks writes, other than the end of the await on a hook. -/
def Supervised.cleanupWrite (state : Supervised T E) : SupervisedAction T E → Option CleanupWrite
  | .body choice =>
    match state.body with
    | .running (.leaving turn) =>
      some (.close (state.children.closeAttemptChildren turn.contextAttempt).2)
    | .running (.closing _ []) => some .closed
    | .running (.driving (.generation _ _) _) =>
      match choice with
      | .expire => some .stop
      | _ => none
    | .running (.stopping _ _) => state.kind.hookWrite choice
    | _ => none
  | .runner _ =>
    match state.runner with
    | .exiting _ => some (.close state.children.closeChildren.2)
    | .closing _ [] => some .closed
    | _ => none
  | _ => none

/-! ## The system -/

/-- An execution with its cell.  `hadControls` belongs to the closer under way, `hook` to
`run_service`; `waited` says that children were waited for, since the stop if there is one. -/
structure CleanupRun (T E : Type) : Type where
  execution : Supervised T E
  cleanup : CleanupProgress
  hadControls : Bool
  hook : Option HookOutcome
  waited : Bool

inductive CleanupAction (T E : Type) : Type
  | execution (action : SupervisedAction T E)
  /-- The hook is joined, or timed out. -/
  | awaitHook (result : Option (JobResult Unit String))

namespace CleanupRun

def new (kind : Kind) (abortPolicy : AbortPolicy) (maximumChildren : Nat) : CleanupRun T E where
  execution := .new kind abortPolicy maximumChildren
  cleanup := .notRequired
  hadControls := false
  hook := none
  waited := false

def write (run : CleanupRun T E) : CleanupWrite → CleanupRun T E
  | .close controls =>
    { run with
      hadControls := !controls.isEmpty
      cleanup :=
        if controls.isEmpty then run.cleanup else run.cleanup.setPending .trackedChildren }
  | .closed =>
    if run.hadControls then { run with cleanup := run.cleanup.finish .completed, waited := true }
    else run
  | .stop => { run with cleanup := run.cleanup.setPending .shutdownHook, waited := false }
  | .hook outcome =>
    { run with
      cleanup := run.cleanup.finish (hookCleanupOutcome outcome)
      hook := some outcome }

/-- The body awaits its hook. -/
def awaitsHook (run : CleanupRun T E) : Bool :=
  match run.execution.body with
  | .running (.hooking _ _ _) => true
  | _ => false

def step (run : CleanupRun T E) : CleanupAction T E → Option (CleanupRun T E)
  | .execution action =>
    match run.awaitsHook, action with
    | true, .body _ => none
    | _, _ =>
      (run.execution.step action).map fun execution =>
        { ((run.execution.cleanupWrite action).elim run run.write) with execution := execution }
  | .awaitHook result =>
    if run.awaitsHook then
      (run.execution.step (.body (if result.isSome then .proceed else .expire))).map
        fun execution =>
          { run.write (.hook (ServiceRun.hookOutcome result)) with execution := execution }
    else none

end CleanupRun

/-- All runs of one execution, with its cleanup. -/
def cleanups (T E : Type) (kind : Kind) (abortPolicy : AbortPolicy) (maximumChildren : Nat) :
    System (CleanupRun T E) (CleanupAction T E) :=
  ⟨.new kind abortPolicy maximumChildren, CleanupRun.step⟩

/-! ## Where the body writes -/

namespace Phase

/-- `run_shutdown_hook` is called next, or runs. -/
def inHook : Phase → Bool
  | .stopping _ _ | .hooking _ _ _ => true
  | _ => false

/-- A closer of the body waits for its children. -/
def inClose : Phase → Bool
  | .closing _ _ => true
  | _ => false

/-- No write of the body is under way. -/
def calm (phase : Phase) : Bool := !phase.inHook && !phase.inClose

/-- `run_shutdown_hook` has returned. -/
def afterHook : Phase → Bool
  | .joining turn _ | .leaving turn | .closing turn _ | .decided turn => turn.isStopping
  | _ => false

theorem inHook_of_afterHook {phase : Phase} (late : phase.afterHook = true) :
    phase.inHook = false := by
  cases phase <;> first | rfl | cases late

end Phase

/-- What a step of the body writes, and where it stands then. -/
inductive BodyWrote (state : Supervised T E) : Option CleanupWrite → Phase → BodyTask T E → Prop
  | calm {phase phase' : Phase} : phase.calm = true → phase'.calm = true →
    (phase.afterHook = true → phase'.afterHook = true) →
    BodyWrote state none phase (.running phase')
  | returned {phase : Phase} (exit : Returned T E) : phase.calm = true →
    BodyWrote state none phase (.ended (.returned exit))
  | close (turn : Iteration) (controls : List Nat) :
    BodyWrote state (some (.close controls)) (.leaving turn) (.running (.closing turn controls))
  | await (turn : Iteration) (child : Nat) (pending : List Nat) :
    BodyWrote state none (.closing turn (child :: pending)) (.running (.closing turn pending))
  | closed (turn : Iteration) :
    BodyWrote state (some .closed) (.closing turn []) (.running (.decided turn))
  | stop (turn : Iteration) (number job : Nat) :
    BodyWrote state (some .stop) (.driving turn job)
      (.running (.stopping (.generation number true) job))
  | call (turn : Iteration) (job hook : Nat) :
    BodyWrote state none (.stopping turn job) (.running (.hooking turn job hook))
  | skip (turn : Iteration) (job : Nat) (outcome : HookOutcome) :
    BodyWrote state (some (.hook outcome)) (.stopping turn job) (.running (.joining turn job))

namespace BodyWrote

variable {state between after : Supervised T E} {turn : Iteration} {choice : Choice T E}
  {phase : Phase} {job : Nat}

theorem finish (calm : phase.calm = true) (before : phase.afterHook = true → turn.isStopping = true)
    (exit : Returned T E) : BodyWrote state none phase (between.finish turn exit).body := by
  unfold Supervised.finish
  split
  · next number tick =>
    refine .calm calm rfl fun late => ?_
    cases before late
  · exact .returned exit calm

theorem of_enter (step : state.enter turn choice = some after) :
    BodyWrote state none (.entering turn) after.body := by
  cases choice with
  | proceed =>
    cases turn with
    | attempt number outer =>
      obtain ⟨-, same⟩ := Option.ite_none_right_eq_some.1 step
      obtain rfl := Option.some.inj same
      exact .calm rfl rfl id
    | tick number | generation number stopping =>
      obtain rfl := Option.some.inj step
      exact .calm rfl rfl id
  | exit exit =>
    cases turn with
    | attempt number outer =>
      obtain ⟨-, same⟩ := Option.ite_none_right_eq_some.1 step
      obtain rfl := Option.some.inj same
      exact finish rfl (fun late => (by cases late)) exit
    | tick number =>
      obtain rfl := Option.some.inj step
      exact finish rfl (fun late => (by cases late)) exit
    | generation number stopping => cases step
  | _ => cases step

theorem of_launch (step : state.launch turn choice = some after) :
    BodyWrote state none (.begun turn) after.body := by
  cases turn with
  | attempt number outer =>
    cases choice with
    | deadline lastError | exit exit =>
      obtain rfl := Option.some.inj step
      exact finish rfl (fun late => (by cases late)) _
    | panic message | proceed | detach =>
      obtain rfl := Option.some.inj step
      exact .calm rfl rfl (fun late => (by cases late))
    | _ => cases step
  | tick number =>
    simp only [Supervised.launch] at step
    split at step
    · exact Option.some.inj step ▸ .calm rfl rfl (fun late => (by cases late))
    · exact Option.some.inj step ▸ .calm rfl rfl (fun late => (by cases late))
    · exact Option.some.inj step ▸ .calm rfl rfl (fun late => (by cases late))
    · exact Option.some.inj step ▸ .calm rfl rfl (fun late => (by cases late))
    · cases step
  | generation number stopping =>
    cases choice with
    | exit exit =>
      obtain rfl := Option.some.inj step
      exact finish rfl (fun late => (by cases late)) exit
    | sleep | proceed =>
      obtain rfl := Option.some.inj step
      exact .calm rfl rfl (fun late => (by cases late))
    | _ => cases step

/-- The select: only a cancelled service writes. -/
theorem of_drive (step : state.drive turn job choice = some after) :
    (BodyWrote state none (.driving turn job) after.body ∧
      ∀ number stopping, turn = .generation number stopping → choice = .proceed) ∨
    (∃ number stopping, turn = .generation number stopping ∧ choice = .expire ∧
      BodyWrote state (some .stop) (.driving turn job) after.body) := by
  cases choice with
  | proceed =>
    refine Or.inl ⟨?_, fun _ _ _ => rfl⟩
    obtain ⟨-, same⟩ := Option.ite_none_left_eq_some.1 step
    obtain rfl := Option.some.inj same
    exact .calm rfl rfl (fun late => (by cases late))
  | deadline lastError =>
    cases turn with
    | attempt number outer =>
      obtain rfl := Option.some.inj step
      exact Or.inl ⟨.calm rfl rfl (fun late => (by cases late)),
        fun _ _ absurd => (by cases absurd)⟩
    | _ => cases step
  | expire =>
    cases turn with
    | attempt number outer =>
      obtain rfl := Option.some.inj step
      exact Or.inl ⟨.calm rfl rfl (fun late => (by cases late)),
        fun _ _ absurd => (by cases absurd)⟩
    | tick number => cases step
    | generation number stopping =>
      obtain ⟨-, same⟩ := Option.ite_none_right_eq_some.1 step
      obtain rfl := Option.some.inj same
      exact Or.inr ⟨number, stopping, rfl, rfl, .stop _ number job⟩
  | _ => cases step

theorem of_callHook (step : state.callHook turn job choice = some after) :
    BodyWrote state (state.kind.hookWrite choice) (.stopping turn job) after.body := by
  cases choice with
  | proceed =>
    simp only [Supervised.callHook] at step
    split at step
    · next service =>
      obtain rfl := Option.some.inj step
      rw [service]
      exact .call turn job _
    · next other =>
      obtain rfl := Option.some.inj step
      unfold Kind.hookWrite
      split
      · next service _ => exact absurd service other
      · next service _ => exact absurd service other
      · exact .skip turn job _
  | panic message =>
    simp only [Supervised.callHook] at step
    split at step
    · next service =>
      obtain rfl := Option.some.inj step
      rw [service]
      exact .skip turn job _
    · cases step
  | _ => cases step

theorem of_decide (step : state.decide turn choice = some after) :
    BodyWrote state none (.decided turn) after.body := by
  cases choice with
  | exit exit =>
    obtain rfl := Option.some.inj step
    exact finish rfl id exit
  | deadline lastError =>
    cases turn with
    | attempt number outer =>
      obtain rfl := Option.some.inj step
      exact finish rfl id _
    | _ => cases step
  | sleep =>
    simp only [Supervised.decide] at step
    split at step
    · cases step
    · next other =>
      obtain rfl := Option.some.inj step
      refine .calm rfl rfl fun late => ?_
      cases turn with
      | generation number stopping =>
        obtain rfl : stopping = true := late
        exact absurd rfl (other number)
      | _ => cases late
  | _ => cases step

theorem of_wake (step : state.wake turn choice = some after) :
    BodyWrote state none (.sleeping turn) after.body := by
  cases choice with
  | exit exit =>
    obtain rfl := Option.some.inj step
    exact finish rfl (fun late => (by cases late)) exit
  | proceed =>
    obtain ⟨following, -, rfl⟩ := Option.map_eq_some_iff.1 step
    exact .calm rfl rfl id
  | sleep | restart =>
    cases turn with
    | tick number =>
      obtain rfl := Option.some.inj step
      exact .calm rfl rfl id
    | _ => cases step
  | _ => cases step

/-- **Step lemma** of the body, away from the await on a hook. -/
theorem of_bodyStep (step : state.bodyStep choice = some after) (here : state.body = .running phase)
    (awake : ∀ turn job hook, phase ≠ .hooking turn job hook) :
    BodyWrote state (state.cleanupWrite (.body choice)) phase after.body := by
  simp only [Supervised.bodyStep, here] at step
  simp only [Supervised.cleanupWrite, here]
  cases phase with
  | spawned =>
    obtain rfl := Option.some.inj step
    unfold Supervised.start
    cases state.kind <;> exact .calm rfl rfl (fun late => (by cases late))
  | user =>
    cases choice with
    | exit exit =>
      obtain rfl := Option.some.inj step
      exact .returned exit rfl
    | _ => cases step
  | delaying =>
    cases choice with
    | proceed =>
      obtain rfl := Option.some.inj step
      exact .calm rfl rfl (fun late => (by cases late))
    | exit exit =>
      obtain rfl := Option.some.inj step
      exact .returned exit rfl
    | _ => cases step
  | entering turn => exact of_enter step
  | begun turn => exact of_launch step
  | driving turn job =>
    rcases of_drive step with ⟨wrote, proceeds⟩ | ⟨number, stopping, rfl, rfl, wrote⟩
    · cases turn with
      | generation number stopping =>
        obtain rfl := proceeds number stopping rfl
        exact wrote
      | _ => exact wrote
    · exact wrote
  | reaping turn job =>
    cases choice with
    | proceed =>
      obtain ⟨-, same⟩ := Option.ite_none_left_eq_some.1 step
      obtain rfl := Option.some.inj same
      exact .calm rfl rfl (fun late => (by cases late))
    | _ => cases step
  | stopping turn job => exact of_callHook step
  | hooking turn job hook => exact absurd rfl (awake turn job hook)
  | joining turn job =>
    cases choice with
    | proceed =>
      obtain ⟨-, same⟩ := Option.ite_none_left_eq_some.1 step
      obtain rfl := Option.some.inj same
      exact .calm rfl rfl id
    | _ => cases step
  | leaving turn =>
    obtain rfl := Option.some.inj step
    exact .close turn _
  | closing turn pending =>
    cases choice with
    | proceed =>
      cases pending with
      | nil =>
        obtain rfl := Option.some.inj step
        exact .closed turn
      | cons child pending =>
        obtain ⟨-, same⟩ := Option.ite_none_left_eq_some.1 step
        obtain rfl := Option.some.inj same
        exact .await turn child pending
    | _ => cases pending <;> cases step
  | decided turn => exact of_decide step
  | sleeping turn => exact of_wake step

/-- The await on a hook leads to the await on the body of the service. -/
theorem of_awaitHook {hook : Nat} (step : state.bodyStep choice = some after)
    (here : state.body = .running (.hooking turn job hook)) :
    after.body = .running (.joining turn job) := by
  simp only [Supervised.bodyStep, here, Supervised.awaitHook] at step
  split at step
  · obtain ⟨-, same⟩ := Option.ite_none_left_eq_some.1 step
    obtain rfl := Option.some.inj same
    rfl
  · obtain rfl := Option.some.inj step
    rfl
  · cases step

end BodyWrote

/-! ## What is in the cell -/

/-- The cell of an execution when nothing is under way. -/
def cleanupOf (hook : Option HookOutcome) (waited : Bool) : CleanupProgress :=
  match hook.map hookCleanupOutcome with
  | none => if waited then .finished .completed else .notRequired
  | some .notRequired => .finished (if waited then .completed else .notRequired)
  | some outcome => .finished outcome

/-- What is reported of such an execution in the end. -/
def cleanupOutcomeOf (hook : Option HookOutcome) (waited : Bool) : CleanupOutcome :=
  match hook.map hookCleanupOutcome with
  | none | some .notRequired => if waited then .completed else .notRequired
  | some outcome => outcome

section Cell

variable {hook : Option HookOutcome} {waited : Bool} {progress : CleanupProgress}

theorem finalOutcome_cleanupOf :
    (cleanupOf hook waited).finalOutcome = cleanupOutcomeOf hook waited := by
  unfold cleanupOf cleanupOutcomeOf
  split
  · cases waited <;> rfl
  · rfl
  · next outcome other eq => cases outcome <;> first | exact absurd rfl other | rfl

/-- The end of a hook. -/
theorem finish_hook (outcome : HookOutcome) :
    (CleanupProgress.pending .shutdownHook).finish (hookCleanupOutcome outcome) =
      cleanupOf (some outcome) false := by
  cases outcome <;> rfl

/-- The end of a closer. -/
theorem finish_closer :
    ((cleanupOf hook waited).setPending .trackedChildren).finish .completed =
      cleanupOf hook true := by
  rcases hook with - | (- | - | message | - | -) <;> cases waited <;> rfl

theorem setPending_none (phase : CleanupPhase) :
    (cleanupOf none waited).setPending phase = .pending phase := by
  cases waited <;> rfl

/-- A failure that is reported stays; anything else gives way to the closer. -/
theorem setPending_cleanupOf :
    ((∃ message, cleanupOutcomeOf hook waited = .failed message) ∧
      (cleanupOf hook waited).setPending .trackedChildren = cleanupOf hook waited) ∨
    ((∀ message, cleanupOutcomeOf hook waited ≠ .failed message) ∧
      (cleanupOf hook waited).setPending .trackedChildren = .pending .trackedChildren) := by
  rcases hook with - | (- | - | message | - | -) <;> cases waited <;>
    simp [cleanupOf, cleanupOutcomeOf, hookCleanupOutcome, CleanupProgress.setPending,
      CleanupProgress.isFailure]

theorem cleanupOutcomeOf_none (message : String) :
    cleanupOutcomeOf none waited ≠ .failed message := by
  cases waited <;> simp [cleanupOutcomeOf]

theorem cleanupOutcomeOf_ne (invoked : Bool) :
    cleanupOutcomeOf hook waited ≠ .forcedCancelled invoked := by
  rcases hook with - | (- | - | message | - | -) <;> cases waited <;>
    simp [cleanupOutcomeOf, hookCleanupOutcome]

end Cell

/-! ## The invariant -/

/-- The body was aborted, or unwound. -/
def BodyTask.isDropped : BodyTask T E → Bool
  | .ended .cancelled | .ended (.panicked _) => true
  | _ => false

/-- The generation that calls the hook is the one that was stopped. -/
def Phase.stops : Phase → Bool
  | .stopping turn _ | .hooking turn _ _ => turn.isStopping
  | _ => true

namespace CleanupRun

variable {run after : CleanupRun T E} {phase : Phase} {before : Prop}

/-- Nothing is under way. -/
def Clean (run : CleanupRun T E) : Prop := run.cleanup = cleanupOf run.hook run.waited

/-- The body was dropped, and the cell still shows what it was at. -/
structure Left (run : CleanupRun T E) : Prop where
  dropped : run.execution.body.isDropped = true
  pending : (run.cleanup = .pending .shutdownHook ∧ run.hook = none) ∨
    run.cleanup = .pending .trackedChildren
  unfailed : ∀ message, cleanupOutcomeOf run.hook run.waited ≠ .failed message

def Settled (run : CleanupRun T E) : Prop := run.Clean ∨ run.Left

/-- A closer is at work. -/
structure Closing (run : CleanupRun T E) (before : Prop) : Prop where
  found : run.hadControls = true →
    run.cleanup = (cleanupOf run.hook run.waited).setPending .trackedChildren
  empty : run.hadControls = false → before

/-- What holds while the body stands at `phase`. -/
structure During (run : CleanupRun T E) (phase : Phase) : Prop where
  hook : run.hook ≠ none → phase.afterHook = true
  stops : phase.stops = true
  inHook : phase.inHook = true → run.cleanup = .pending .shutdownHook ∧ run.waited = false
  inClose : phase.inClose = true → run.Closing run.Clean
  calm : phase.calm = true → run.Clean

/-- What holds while the body does not run. -/
def Resting (run : CleanupRun T E) : Prop :=
  match run.execution.runner with
  | .closing _ _ => run.Closing run.Settled
  | _ => run.Settled

structure Inv (run : CleanupRun T E) : Prop where
  awaited : run.execution.body.isRunning = true → run.execution.Awaits
  unbegun : run.execution.runner = .waiting ∨ run.execution.runner = .claimed →
    run.execution.body = .absent ∧ run.hook = none
  running : ∀ phase, run.execution.body = .running phase → run.During phase
  resting : run.execution.body.isRunning = false → run.Resting

theorem Inv.new (kind : Kind) (abortPolicy : AbortPolicy) (maximumChildren : Nat) :
    (CleanupRun.new kind abortPolicy maximumChildren : CleanupRun T E).Inv where
  awaited := fun absurd => by cases absurd
  unbegun := fun _ => ⟨rfl, rfl⟩
  running := fun phase absurd => by cases absurd
  resting := fun _ => Or.inl rfl

/-! ### Writes -/

/-- A closer begins. -/
theorem Clean.close (clean : run.Clean) (controls : List Nat) :
    (run.write (.close controls)).Closing (run.write (.close controls)).Clean := by
  cases controls with
  | nil => exact ⟨fun absurd => (by cases absurd), fun _ => clean⟩
  | cons child controls =>
    refine ⟨fun _ => ?_, fun absurd => (by cases absurd)⟩
    have same : run.cleanup = cleanupOf run.hook run.waited := clean
    simp only [write, List.isEmpty_cons, Bool.false_eq_true, ↓reduceIte]
    rw [same]

theorem Settled.close (settled : run.Settled) (controls : List Nat) :
    (run.write (.close controls)).Closing (run.write (.close controls)).Settled := by
  rcases settled with clean | left
  · exact ⟨(clean.close controls).found, fun empty => Or.inl ((clean.close controls).empty empty)⟩
  · cases controls with
    | nil =>
      refine ⟨fun absurd => (by cases absurd), fun _ => Or.inr ?_⟩
      exact ⟨left.dropped, left.pending, left.unfailed⟩
    | cons child controls =>
      refine ⟨fun _ => ?_, fun absurd => (by cases absurd)⟩
      simp only [write, List.isEmpty_cons, Bool.false_eq_true, ↓reduceIte]
      rcases @setPending_cleanupOf run.hook run.waited with ⟨⟨message, failed⟩, -⟩ | ⟨-, gives⟩
      · exact absurd failed (left.unfailed message)
      · rw [gives]
        rcases left.pending with ⟨same, -⟩ | same <;> rw [same] <;> rfl

/-- A closer ends. -/
theorem Closing.closed (closing : run.Closing before) :
    (run.write .closed).Clean ∨ (before ∧ run.write .closed = run) := by
  cases had : run.hadControls with
  | false =>
    refine Or.inr ⟨closing.empty had, ?_⟩
    simp [write, had]
  | true =>
    refine Or.inl ?_
    have written : run.write .closed =
        { run with cleanup := run.cleanup.finish .completed, waited := true } := by
      simp [write, had]
    rw [written]
    change run.cleanup.finish .completed = cleanupOf run.hook true
    rw [closing.found had]
    exact finish_closer

/-- The body is dropped at a phase. -/
theorem During.dropped (during : run.During phase) {execution : Supervised T E}
    (dropped : execution.body.isDropped = true) :
    ({ run with execution := execution } : CleanupRun T E).Settled := by
  have none_ : phase.inHook = true → run.hook = none := by
    intro inHook
    by_contra some_
    rw [Phase.inHook_of_afterHook (during.hook some_)] at inHook
    cases inHook
  by_cases inHook : phase.inHook = true
  · have hook : run.hook = none := none_ inHook
    refine Or.inr ⟨dropped, Or.inl ⟨(during.inHook inHook).1, hook⟩, fun message => ?_⟩
    dsimp only
    rw [hook]
    exact cleanupOutcomeOf_none message
  · by_cases inClose : phase.inClose = true
    · have closing := during.inClose inClose
      cases had : run.hadControls with
      | false => exact Or.inl (closing.empty had)
      | true =>
        have found := closing.found had
        rcases @setPending_cleanupOf run.hook run.waited with ⟨-, stays⟩ | ⟨unfailed, gives⟩
        · exact Or.inl (found.trans stays)
        · exact Or.inr ⟨dropped, Or.inr (found.trans gives), unfailed⟩
    · refine Or.inl (during.calm ?_)
      simp [Phase.calm, inHook, inClose]

/-! ### Steps -/

/-- The body has moved to `phase'`. -/
theorem During.of_body {phase' : Phase} (during : run.During phase')
    (here : run.execution.body = .running phase') :
    (∀ phase, run.execution.body = .running phase → run.During phase) ∧
      (run.execution.body.isRunning = false → run.Clean) := by
  constructor
  · intro phase there
    obtain rfl := BodyTask.running.inj (here.symm.trans there)
    exact during
  · intro absurd
    rw [here] at absurd
    cases absurd

/-- `run_shutdown_hook` returns, and the body of the service is awaited. -/
theorem During.hooked (during : run.During phase) (inHook : phase.inHook = true)
    {turn : Iteration} {job : Nat} (stops : turn.isStopping = true) {outcome : HookOutcome}
    {execution : Supervised T E} (stands : execution.body = .running (.joining turn job))
    (moved : after = { run.write (.hook outcome) with execution := execution }) :
    (∀ phase', after.execution.body = .running phase' → after.During phase') ∧
      (after.execution.body.isRunning = false → after.Clean) := by
  obtain ⟨pending, waited⟩ := during.inHook inHook
  subst moved
  refine During.of_body ?_ stands
  refine ⟨fun _ => stops, rfl, fun absurd => (by cases absurd), fun absurd => (by cases absurd),
    fun _ => ?_⟩
  change run.cleanup.finish (hookCleanupOutcome outcome) = cleanupOf (some outcome) run.waited
  rw [pending, waited]
  exact finish_hook outcome

/-- A step of the body, with what it writes. -/
theorem During.wrote {write : Option CleanupWrite} {body : BodyTask T E}
    {execution : Supervised T E} (during : run.During phase)
    (wrote : BodyWrote run.execution write phase body) (stands : execution.body = body)
    (moved : after = { (write.elim run run.write) with execution := execution }) :
    (∀ phase', after.execution.body = .running phase' → after.During phase') ∧
      (after.execution.body.isRunning = false → after.Clean) := by
  cases wrote with
  | @calm _ phase' calm calm' late =>
    subst moved
    refine During.of_body ?_ stands
    have outside : phase'.inHook = false ∧ phase'.inClose = false := by
      simpa [Phase.calm] using calm'
    refine ⟨fun some_ => late (during.hook some_), ?_, ?_, ?_, fun _ => during.calm calm⟩
    · cases phase' <;> first | rfl | cases calm'
    · intro inHook
      rw [outside.1] at inHook
      cases inHook
    · intro inClose
      rw [outside.2] at inClose
      cases inClose
  | returned exit calm =>
    subst moved
    refine ⟨fun phase' absurd => ?_, fun _ => during.calm calm⟩
    dsimp only at absurd
    rw [stands] at absurd
    cases absurd
  | close turn controls =>
    subst moved
    refine During.of_body ?_ stands
    refine ⟨during.hook, rfl, fun absurd => (by cases absurd), fun _ => ?_,
      fun absurd => (by cases absurd)⟩
    have closing := (during.calm rfl).close controls
    exact ⟨closing.found, closing.empty⟩
  | await turn child pending =>
    subst moved
    refine During.of_body ?_ stands
    refine ⟨during.hook, rfl, fun absurd => (by cases absurd), fun _ => ?_,
      fun absurd => (by cases absurd)⟩
    have closing := during.inClose rfl
    exact ⟨closing.found, closing.empty⟩
  | closed turn =>
    have clean : (run.write .closed).Clean ∧ (run.write .closed).hook = run.hook := by
      constructor
      · rcases (during.inClose rfl).closed with clean | ⟨clean, same⟩
        · exact clean
        · rw [same]
          exact clean
      · simp only [CleanupRun.write]
        split <;> rfl
    subst moved
    refine During.of_body ?_ stands
    refine ⟨fun some_ => ?_, rfl, fun absurd => (by cases absurd), fun absurd => (by cases absurd),
      fun _ => clean.1⟩
    exact during.hook (clean.2 ▸ some_)
  | stop turn number job =>
    have none_ : run.hook = none := by
      by_contra some_
      cases during.hook some_
    have clean : run.cleanup = cleanupOf run.hook run.waited := during.calm rfl
    subst moved
    refine During.of_body ?_ stands
    refine ⟨fun some_ => absurd none_ some_, rfl, fun _ => ⟨?_, rfl⟩,
      fun absurd => (by cases absurd), fun absurd => (by cases absurd)⟩
    change run.cleanup.setPending .shutdownHook = _
    rw [clean, none_]
    exact setPending_none .shutdownHook
  | call turn job hook =>
    subst moved
    refine During.of_body ?_ stands
    exact ⟨fun some_ => (by cases during.hook some_), during.stops, fun _ => during.inHook rfl,
      fun absurd => (by cases absurd), fun absurd => (by cases absurd)⟩
  | skip turn job outcome =>
    exact during.hooked rfl during.stops stands moved

/-- The body has taken a step, and the runner awaits it. -/
theorem Inv.of_body (awaits : after.execution.Awaits)
    (stands : (∀ phase, after.execution.body = .running phase → after.During phase) ∧
      (after.execution.body.isRunning = false → after.Clean)) : after.Inv where
  awaited := fun _ => awaits
  unbegun := by
    rintro (here | here) <;> rcases awaits with there | there | there <;>
      cases here.symm.trans there
  running := stands.1
  resting := by
    intro ended
    unfold Resting
    split
    · next here => rcases awaits with there | there | there <;> cases here.symm.trans there
    · exact Or.inl (stands.2 ended)

theorem During.beside (during : run.During phase) (execution : Supervised T E) :
    ({ run with execution := execution } : CleanupRun T E).During phase :=
  ⟨during.hook, during.stops, during.inHook,
    fun inClose => ⟨(during.inClose inClose).found, (during.inClose inClose).empty⟩, during.calm⟩

theorem Settled.of_body (settled : run.Settled) {execution : Supervised T E}
    (body : execution.body = run.execution.body) :
    ({ run with execution := execution } : CleanupRun T E).Settled :=
  settled.imp_right fun left => ⟨body ▸ left.dropped, left.pending, left.unfailed⟩

/-- Steps that leave the tasks where they are. -/
theorem Inv.frame (inv : run.Inv) {execution : Supervised T E}
    (body : execution.body = run.execution.body)
    (runner : execution.runner = run.execution.runner) :
    ({ run with execution := execution } : CleanupRun T E).Inv where
  awaited := by
    unfold Supervised.Awaits
    rw [body, runner]
    exact inv.awaited
  unbegun := by
    dsimp only
    rw [body, runner]
    exact inv.unbegun
  running := by
    intro phase here
    exact (inv.running phase (body.symm.trans here)).beside execution
  resting := by
    intro ended
    have resting := inv.resting (body ▸ ended)
    unfold Resting at resting ⊢
    rw [runner]
    split
    · next here =>
      rw [here] at resting
      exact ⟨resting.found, fun empty => (resting.empty empty).of_body body⟩
    · next other =>
      split at resting
      · next there => exact absurd there (other _ _)
      · exact Settled.of_body resting body

/-- A move of the runner past a body that does not run. -/
theorem Inv.past (ended : after.execution.body.isRunning = false)
    (begun : after.execution.runner ≠ .waiting ∧ after.execution.runner ≠ .claimed)
    (resting : after.Resting) : after.Inv where
  awaited := fun running => by
    rw [ended] at running
    cases running
  unbegun := by
    rintro (here | here)
    · exact absurd here begun.1
    · exact absurd here begun.2
  running := by
    intro phase here
    rw [here] at ended
    cases ended
  resting := fun _ => resting

/-- What holds at rest is kept by a move of the runner between places where it closes
nothing. -/
theorem Inv.settled (inv : run.Inv) (ended : run.execution.body.isRunning = false)
    (open_ : ∀ exit pending, run.execution.runner ≠ .closing exit pending) : run.Settled := by
  have resting := inv.resting ended
  unfold Resting at resting
  split at resting
  · next here => exact absurd here (open_ _ _)
  · exact resting

/-- A move of the runner while it awaits the body. -/
theorem Inv.waits (inv : run.Inv) {execution : Supervised T E}
    (awaits : run.execution.Awaits) (body : execution.body = run.execution.body)
    (awaits' : execution.Awaits) : ({ run with execution := execution } : CleanupRun T E).Inv := by
  refine ⟨fun _ => awaits', ?_, ?_, ?_⟩
  · rintro (here | here) <;> rcases awaits' with there | there | there <;>
      cases here.symm.trans there
  · intro phase here
    exact (inv.running phase (body.symm.trans here)).beside execution
  · intro ended
    have settled := inv.settled (body ▸ ended) fun exit pending here => by
      rcases awaits with there | there | there <;> cases here.symm.trans there
    unfold Resting
    split
    · next here => rcases awaits' with there | there | there <;> cases here.symm.trans there
    · exact settled.of_body body

theorem Inv.runner (inv : run.Inv) {choice : Choice T E} {execution : Supervised T E}
    (moved : Supervised.RunnerMoved run.execution execution) :
    ({ ((run.execution.cleanupWrite (.runner choice)).elim run run.write) with
      execution := execution } : CleanupRun T E).Inv := by
  have idle : ¬ run.execution.Awaits → run.execution.body.isRunning = false := fun away =>
    Bool.eq_false_iff.2 fun running => away (inv.awaited running)
  unfold Supervised.cleanupWrite
  cases moved with
  | claim here claimed =>
    rw [here]
    obtain ⟨absent, none_⟩ := inv.unbegun (Or.inl here)
    have settled := inv.settled (by rw [absent]; rfl) (by simp [here])
    refine ⟨fun running => ?_, fun _ => ⟨absent, none_⟩, fun phase there => ?_,
      fun _ => settled.of_body rfl⟩
    · dsimp only at running
      rw [absent] at running
      cases running
    · cases absent.symm.trans there
  | spawn here =>
    rw [here]
    obtain ⟨absent, none_⟩ := inv.unbegun (Or.inr here)
    have clean : run.Clean := by
      rcases inv.settled (by rw [absent]; rfl) (by simp [here]) with clean | left
      · exact clean
      · have dropped := left.dropped
        rw [absent] at dropped
        cases dropped
    refine Inv.of_body (Or.inl rfl) (During.of_body (?_ : During _ .spawned) rfl)
    exact ⟨fun some_ => absurd none_ some_, rfl, fun absurd => (by cases absurd),
      fun absurd => (by cases absurd), fun _ => clean⟩
  | install here =>
    rw [here]
    exact inv.waits (Or.inl here) rfl (Or.inr (Or.inl rfl))
  | drop here =>
    rw [here]
    exact inv.waits (Or.inr (Or.inl here)) rfl (Or.inr (Or.inr rfl))
  | hear here ended | dropped here ended =>
    rw [here]
    have over_ : run.execution.body.isRunning = false := by rw [ended]; rfl
    exact .past over_ (by simp) ((inv.settled over_ (by simp [here])).of_body rfl)
  | retire here =>
    obtain ⟨core, commit⟩ := run.execution.commit_eq (.executorStopped .runnerCancelled)
    rw [commit]
    have over_ := idle (by rcases here with here | here <;> simp [Supervised.Awaits, here])
    have settled := inv.settled over_ (by rcases here with here | here <;> simp [here])
    rcases here with here | here <;> rw [here] <;>
      exact .past over_ (by simp) (settled.of_body rfl)
  | refuse here | unwound message here | clear here | propose here =>
    rw [here]
    have over_ := idle (by simp [Supervised.Awaits, here])
    exact .past over_ (by simp) ((inv.settled over_ (by simp [here])).of_body rfl)
  | close here =>
    rw [here]
    have over_ := idle (by simp [Supervised.Awaits, here])
    have settled := inv.settled over_ (by simp [here])
    have closing := settled.close run.execution.children.closeChildren.2
    exact .past over_ (by simp) ⟨closing.found, fun empty => (closing.empty empty).of_body rfl⟩
  | await here terminal =>
    rw [here]
    have over_ := idle (by simp [Supervised.Awaits, here])
    have closing := inv.resting over_
    unfold Resting at closing
    rw [here] at closing
    exact .past over_ (by simp) ⟨closing.found, fun empty => (closing.empty empty).of_body rfl⟩
  | finish here =>
    obtain ⟨core, commit⟩ := run.execution.commit_eq _
    rw [commit, here]
    have over_ := idle (by simp [Supervised.Awaits, here])
    have closing := inv.resting over_
    unfold Resting at closing
    rw [here] at closing
    refine .past over_ (by simp) ?_
    rcases closing.closed with clean | ⟨settled, same⟩
    · exact Or.inl clean
    · simp only [Option.elim_some, same]
      exact settled.of_body rfl

/-- The body is dropped, and the runner hears of it later. -/
theorem Inv.drop (inv : run.Inv) (here : run.execution.body = .running phase)
    {joined : Joined T E} (dropped : (BodyTask.ended joined).isDropped = true) :
    ({ run with execution := run.execution.dropBody phase joined } : CleanupRun T E).Inv := by
  have awaits := inv.awaited (by rw [here]; rfl)
  refine ⟨fun absurd => (by cases absurd), ?_, fun _ absurd => (by cases absurd), fun _ => ?_⟩
  · rintro (there | there) <;> rcases awaits with at_ | at_ | at_ <;> cases at_.symm.trans there
  · unfold Resting
    split
    · next there => rcases awaits with at_ | at_ | at_ <;> cases at_.symm.trans there
    · exact (inv.running phase here).dropped dropped

/-- A step that neither task takes. -/
def besides : SupervisedAction T E → Bool
  | .dropStart | .runner _ | .body _ | .unwind _ | .abortBody => false
  | _ => true

theorem of_besides {action : SupervisedAction T E} {state after : Supervised T E}
    (beside : besides action = true) (step : state.step action = some after) :
    after.body = state.body ∧ after.runner = state.runner ∧ state.cleanupWrite action = none := by
  cases action with
  | dropStart | runner choice | body choice | unwind message | abortBody => cases beside
  | requestStop cause =>
    obtain rfl := Option.some.inj step
    exact ⟨rfl, rfl, rfl⟩
  | jobEnds job | jobDropped job | report next | callAbort | childEnds child =>
    obtain ⟨-, same⟩ := Option.ite_none_right_eq_some.1 step
    obtain rfl := Option.some.inj same
    exact ⟨rfl, rfl, rfl⟩
  | checkForced =>
    simp only [Supervised.step] at step
    split at step <;> obtain rfl := Option.some.inj step <;> exact ⟨rfl, rfl, rfl⟩
  | swapForced =>
    obtain ⟨-, same⟩ := Option.ite_none_right_eq_some.1 step
    obtain rfl := Option.some.inj same
    unfold Supervised.swapForced
    split <;> exact ⟨rfl, rfl, rfl⟩
  | spawnChild attempt available =>
    obtain ⟨-, same⟩ := Option.ite_none_right_eq_some.1 step
    split at same
    · next spawned =>
      obtain rfl := Option.some.inj same
      unfold Supervised.spawnChild at spawned
      split at spawned
      · obtain rfl := Except.ok.inj spawned
        exact ⟨rfl, rfl, rfl⟩
      · cases spawned
    · obtain rfl := Option.some.inj same
      exact ⟨rfl, rfl, rfl⟩

/-- The body takes a step. -/
theorem Inv.body (inv : run.Inv) {choice : Choice T E} {execution : Supervised T E}
    (awake : run.awaitsHook = false) (step : run.execution.bodyStep choice = some execution) :
    ({ ((run.execution.cleanupWrite (.body choice)).elim run run.write) with
      execution := execution } : CleanupRun T E).Inv := by
  have moved := Supervised.BodyMoved.of_bodyStep step
  have awaits := inv.awaited moved.running
  cases here : run.execution.body with
  | running phase =>
    have wrote := BodyWrote.of_bodyStep step here fun turn job hook same => by
      rw [awaitsHook, here, same] at awake
      cases awake
    refine Inv.of_body ?_ ((inv.running phase here).wrote wrote rfl rfl)
    unfold Supervised.Awaits
    dsimp only
    rw [moved.runner]
    exact awaits
  | absent | ended joined =>
    have running := moved.running
    rw [here] at running
    cases running

/-- A step of the tasks or of their callers. -/
theorem Inv.act (inv : run.Inv) {action : SupervisedAction T E} {execution : Supervised T E}
    (awake : ∀ choice, action = .body choice → run.awaitsHook = false)
    (step : run.execution.step action = some execution) :
    ({ ((run.execution.cleanupWrite action).elim run run.write) with
      execution := execution } : CleanupRun T E).Inv := by
  by_cases beside : besides action = true
  · obtain ⟨body, runner, silent⟩ := of_besides beside step
    rw [silent]
    exact inv.frame body runner
  · cases action with
    | body choice => exact inv.body (awake choice rfl) step
    | runner choice => exact inv.runner (.of_runnerStep step)
    | dropStart =>
      simp only [Supervised.step] at step
      split at step
      · next here =>
        obtain rfl := Option.some.inj step
        obtain ⟨core, commit⟩ := run.execution.commit_eq (.executorStopped .runnerCancelled)
        rw [commit]
        obtain ⟨absent, -⟩ := inv.unbegun (Or.inl here)
        have over_ : run.execution.body.isRunning = false := by rw [absent]; rfl
        exact .past over_ (by simp) ((inv.settled over_ (by simp [here])).of_body rfl)
      · cases step
    | unwind message =>
      simp only [Supervised.step] at step
      split at step
      · next phase here =>
        obtain ⟨-, same⟩ := Option.ite_none_right_eq_some.1 step
        obtain rfl := Option.some.inj same
        exact inv.drop here rfl
      · cases step
    | abortBody =>
      simp only [Supervised.step] at step
      split at step
      · next phase here =>
        obtain ⟨-, same⟩ := Option.ite_none_right_eq_some.1 step
        obtain rfl := Option.some.inj same
        exact inv.drop here rfl
      · cases step
    | _ => exact absurd rfl beside

/-- **Step lemma.** -/
theorem Inv.step (inv : run.Inv) {action : CleanupAction T E}
    (step : run.step action = some after) : after.Inv := by
  cases action with
  | awaitHook result =>
    obtain ⟨awaits, step⟩ := Option.ite_none_right_eq_some.1 step
    obtain ⟨execution, moved, rfl⟩ := Option.map_eq_some_iff.1 step
    unfold awaitsHook at awaits
    split at awaits
    · next turn job hook here =>
      have during := inv.running _ here
      have kept := Supervised.BodyMoved.of_bodyStep moved
      refine Inv.of_body ?_
        (during.hooked rfl during.stops (BodyWrote.of_awaitHook moved here) rfl)
      unfold Supervised.Awaits
      dsimp only
      rw [kept.runner]
      exact inv.awaited kept.running
    · cases awaits
  | execution action =>
    simp only [CleanupRun.step] at step
    split at step
    · cases step
    · next asleep =>
      obtain ⟨execution, moved, rfl⟩ := Option.map_eq_some_iff.1 step
      refine inv.act (fun choice same => ?_) moved
      cases awaits : run.awaitsHook with
      | false => rfl
      | true => exact (asleep choice awaits same).elim

/-- A terminal execution has a runner that is through. -/
def Concluded (state : Supervised T E) : Prop :=
  state.core.terminal ≠ none → state.runner = .committed ∨ state.runner = .retired

theorem Concluded.step {action : SupervisedAction T E} {state later : Supervised T E}
    (concluded : Concluded state) (step : state.step action = some later) : Concluded later := by
  have same : later.core.terminal = state.core.terminal → later.runner = state.runner →
      Concluded later := by
    intro terminal runner
    unfold Concluded
    rw [terminal, runner]
    exact concluded
  have open_ : state.runner ≠ .committed → state.runner ≠ .retired →
      later.core.terminal = state.core.terminal → Concluded later := by
    intro working waiting terminal terminated
    rw [terminal] at terminated
    rcases concluded terminated with here | here
    · exact absurd here working
    · exact absurd here waiting
  cases Supervised.Stepped.of_step step with
  | runner moved =>
    cases moved with
    | claim here claimed =>
      intro terminated
      exact absurd (CoreState.terminal_claimStart claimed).2 terminated
    | retire here => exact fun _ => Or.inr rfl
    | finish here => exact fun _ => Or.inl rfl
    | refuse here | unwound message here | spawn here | install here | hear here ended | drop here
    | dropped here ended | clear here | propose here | close here | await here gone =>
      exact open_ (by simp [here]) (by simp [here]) rfl
  | body moved => exact same moved.terminal moved.runner
  | still still => exact same still.terminal still.runner
  | unwound message here free | aborted here | childSpawned open_ admits room | childEnded =>
    exact same rfl rfl

theorem execution_of_step {action : CleanupAction T E} (step : run.step action = some after) :
    ∃ action, run.execution.step action = some after.execution := by
  cases action with
  | awaitHook result =>
    obtain ⟨-, step⟩ := Option.ite_none_right_eq_some.1 step
    obtain ⟨execution, moved, rfl⟩ := Option.map_eq_some_iff.1 step
    exact ⟨_, moved⟩
  | execution action =>
    simp only [CleanupRun.step] at step
    split at step
    · cases step
    · obtain ⟨execution, moved, rfl⟩ := Option.map_eq_some_iff.1 step
      exact ⟨_, moved⟩

/-- **Run lemma.** -/
theorem inv_of_reaches {kind : Kind} {abortPolicy : AbortPolicy} {maximumChildren : Nat}
    (reached : (cleanups T E kind abortPolicy maximumChildren).Reachable run) :
    run.Inv ∧ Concluded run.execution := by
  refine reached.invariant (I := fun run => run.Inv ∧ Concluded run.execution)
    ⟨.new kind abortPolicy maximumChildren, fun absurd => (absurd rfl).elim⟩ ?_
  intro before after action ⟨inv, concluded⟩ _ step
  obtain ⟨taken, moved⟩ := execution_of_step step
  exact ⟨inv.step step, concluded.step moved⟩

end CleanupRun

/-! ## Results -/

section Results

variable {kind : Kind} {abortPolicy : AbortPolicy} {maximumChildren : Nat} {run : CleanupRun T E}

/-- **The cleanup is reported.**  Of a terminal execution a shutdown reports the
failure of the hook, if it failed, whatever became of the body; else what the hook and the
closers did, of a stopped service since its stop; or else the body was dropped at its hook
or at a closer, nobody had anything to wait for since, and the report names the one it was
dropped at.  It never reports a forced cancellation. -/
theorem cleanup_reported
    (reached : (cleanups T E kind abortPolicy maximumChildren).Reachable run)
    (terminal : run.execution.core.terminal ≠ none) :
    (∀ message, cleanupOutcomeOf run.hook run.waited = .failed message →
      run.cleanup.finalOutcome = .failed message) ∧
    (run.execution.body.isDropped = false →
      run.cleanup.finalOutcome = cleanupOutcomeOf run.hook run.waited) ∧
    (run.cleanup.finalOutcome ≠ cleanupOutcomeOf run.hook run.waited →
      (run.hook = none ∧ run.cleanup.finalOutcome =
        .failed "cleanup remained pending in phase ShutdownHook") ∨
      run.cleanup.finalOutcome = .failed "cleanup remained pending in phase TrackedChildren") ∧
    ∀ invoked, run.cleanup.finalOutcome ≠ .forcedCancelled invoked := by
  obtain ⟨inv, concluded⟩ := CleanupRun.inv_of_reaches reached
  have through := concluded terminal
  have ended : run.execution.body.isRunning = false := by
    refine Bool.eq_false_iff.2 fun running => ?_
    rcases inv.awaited running with here | here | here <;> simp [here] at through
  have settled := inv.settled ended fun exit pending here => by simp [here] at through
  have clean : run.Clean → run.cleanup.finalOutcome = cleanupOutcomeOf run.hook run.waited := by
    intro same
    rw [show run.cleanup = _ from same]
    exact finalOutcome_cleanupOf
  refine ⟨fun message failed => ?_, fun kept => ?_, fun differs => ?_, fun invoked => ?_⟩
  · rcases settled with same | left
    · rw [clean same, failed]
    · exact absurd failed (left.unfailed message)
  · rcases settled with same | left
    · exact clean same
    · have dropped := left.dropped
      rw [kept] at dropped
      cases dropped
  · rcases settled with same | left
    · exact absurd (clean same) differs
    · rcases left.pending with ⟨pending, none_⟩ | pending
      · refine Or.inl ⟨none_, ?_⟩
        rw [pending]
        simp [CleanupProgress.finalOutcome, CleanupPhase.text]
      · refine Or.inr ?_
        rw [pending]
        simp [CleanupProgress.finalOutcome, CleanupPhase.text]
  · rcases settled with same | left
    · rw [clean same]
      exact cleanupOutcomeOf_ne invoked
    · rcases left.pending with ⟨pending, -⟩ | pending
      · rw [pending]
        simp [CleanupProgress.finalOutcome]
      · rw [pending]
        simp [CleanupProgress.finalOutcome]

/-- A service is stopped, and its hook fails. -/
def failedHookRun : List (CleanupAction Unit String) :=
  List.flatten [List.replicate 3 (.execution (.runner .proceed)),
    List.replicate 3 (.execution (.body .proceed)),
    [.execution (.requestStop (.cancel .userRequested)), .execution (.body .expire),
      .execution (.body .proceed), .execution (.jobEnds 1), .awaitHook (some (.failed "flush")),
      .execution (.jobEnds 0)],
    List.replicate 3 (.execution (.body .proceed)),
    [.execution (.body (.exit ⟨.cancelled .userRequested, rfl⟩))],
    List.replicate 5 (.execution (.runner .proceed))]

theorem cleanup_reported_failed :
    ∃ run, (cleanups Unit String (.service true) .allowed 4).exec
        (.new (.service true) .allowed 4) failedHookRun = some run ∧
      run.execution.core.terminal = some (.cancelled .userRequested) ∧
      run.hook = some (.failed "flush") ∧ run.cleanup.finalOutcome = .failed "flush" := by
  have ends : ((cleanups Unit String (.service true) .allowed 4).exec
      (.new (.service true) .allowed 4) failedHookRun).map
        (fun run => (run.execution.core.terminal, run.hook)) =
      some (some (.cancelled .userRequested), some (.failed "flush")) := by decide +kernel
  obtain ⟨run, ran, found⟩ := Option.map_eq_some_iff.1 ends
  obtain ⟨terminal, hook⟩ := Prod.mk.inj found
  have failed : cleanupOutcomeOf run.hook run.waited = .failed "flush" := by
    rw [hook]
    rfl
  have terminated : run.execution.core.terminal ≠ none := by simp [terminal]
  exact ⟨run, ran, terminal, hook,
    (cleanup_reported (.of_schedule _ ran) terminated).1 "flush" failed⟩

/-- A service without a hook waits for a child of its first generation, and is stopped in its
second, which has none. -/
def overwrittenRun : List (CleanupAction Unit String) :=
  List.flatten [List.replicate 3 (.execution (.runner .proceed)),
    List.replicate 3 (.execution (.body .proceed)),
    [.execution (.spawnChild 1 true), .execution (.jobEnds 0)],
    List.replicate 2 (.execution (.body .proceed)), [.execution (.childEnds 0)],
    List.replicate 2 (.execution (.body .proceed)), [.execution (.body .sleep)],
    List.replicate 3 (.execution (.body .proceed)),
    [.execution (.requestStop (.cancel .userRequested)), .execution (.body .expire),
      .execution (.body .proceed), .execution (.jobEnds 1)],
    List.replicate 3 (.execution (.body .proceed)),
    [.execution (.body (.exit ⟨.cancelled .userRequested, rfl⟩))],
    List.replicate 5 (.execution (.runner .proceed))]

/-- Its `Completed` is overwritten. -/
example : ((cleanups Unit String (.service false) .allowed 4).exec
    (.new (.service false) .allowed 4) overwrittenRun).map
      (fun run => (run.hook, run.cleanup.finalOutcome)) =
        some (some .notRequired, .notRequired) := by decide +kernel

end Results

end BusyBeaver
