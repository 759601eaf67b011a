import BusyBeaver.Service.Moves
import BusyBeaver.Supervision.Forced

/-!
# A finished service is stopped

Most of the ways out of `run_service` publish `Stopped` first.  These do not: a service that
is cancelled before it starts, a future that is dropped or unwinds, a restart that is refused
after a panic of the factory, a generation that overflows, and a body that is lost.  And a
report that was checked before may be published after.  In a run without them a terminal
service is stopped (`finished_service_stopped`).
-/

namespace BusyBeaver

open Transition

variable {T E : Type}

/-- The choices that end a body. -/
def Choice.ends : Choice T E → Bool
  | .exit _ | .deadline _ => true
  | _ => false

/-- What the choice makes the body return. -/
def Choice.returned : Choice T E → Option (Returned T E)
  | .exit returned => some returned
  | .deadline lastError => some (deadlineExit lastError)
  | _ => none

/-- The runner has heard how its body ended. -/
def RunnerTask.late : RunnerTask T E → Bool
  | .joined _ | .cleared _ | .exiting _ | .closing _ _ | .committed => true
  | _ => false

/-- The runner gives its body up, or never had one. -/
def RunnerTask.gaveUp : RunnerTask T E → Bool
  | .refused | .dropping | .retired => true
  | _ => false

/-- The runner has not been polled. -/
def RunnerTask.isWaiting : RunnerTask T E → Bool
  | .waiting => true
  | _ => false

def BodyTask.hasEnded : BodyTask T E → Bool
  | .ended _ => true
  | _ => false

/-- The iteration whose back-off the body sleeps out. -/
def BodyTask.turn : BodyTask T E → Option Iteration
  | .running (.sleeping turn) => some turn
  | _ => none

namespace Supervised

variable {state after : Supervised T E} {choice : Choice T E}

/-! ## Where the body lands -/

/-- The body goes on, or has returned what the choice says. -/
def Lands (choice : Choice T E) (body : BodyTask T E) : Prop :=
  body.hasEnded = false ∨
    ∃ returned, choice.returned = some returned ∧ body = .ended (.returned returned)

theorem lands_finish {turn : Iteration} {exit : Returned T E}
    (returns : choice.returned = some exit) : Lands choice (state.finish turn exit).body := by
  cases turn with
  | attempt number outer =>
    cases outer with
    | none => exact Or.inr ⟨exit, returns, rfl⟩
    | some tick => exact Or.inl rfl
  | _ => exact Or.inr ⟨exit, returns, rfl⟩

theorem lands_of_enter {turn : Iteration} (step : state.enter turn choice = some after) :
    Lands choice after.body := by
  cases choice with
  | proceed =>
    cases turn with
    | attempt number outer =>
      simp only [enter] at step
      split at step
      · exact Option.some.inj step ▸ Or.inl rfl
      · cases step
    | _ => exact Option.some.inj step ▸ Or.inl rfl
  | exit exit =>
    cases turn with
    | attempt number outer =>
      simp only [enter] at step
      split at step
      · exact Option.some.inj step ▸ lands_finish rfl
      · cases step
    | tick number => exact Option.some.inj step ▸ lands_finish rfl
    | generation number stopping => cases step
  | _ => cases step

theorem lands_of_launch {turn : Iteration} (step : state.launch turn choice = some after) :
    Lands choice after.body := by
  cases turn with
  | attempt number outer =>
    cases choice with
    | deadline lastError => exact Option.some.inj step ▸ lands_finish rfl
    | exit exit => exact Option.some.inj step ▸ lands_finish rfl
    | expire => cases step
    | sleep => cases step
    | restart => cases step
    | _ => exact Option.some.inj step ▸ Or.inl rfl
  | tick number =>
    simp only [launch] at step
    split at step
    · exact Option.some.inj step ▸ Or.inl rfl
    · exact Option.some.inj step ▸ Or.inl rfl
    · exact Option.some.inj step ▸ Or.inl rfl
    · exact Option.some.inj step ▸ Or.inl rfl
    · cases step
  | generation number stopping =>
    cases choice with
    | exit exit => exact Option.some.inj step ▸ lands_finish rfl
    | sleep => exact Option.some.inj step ▸ Or.inl rfl
    | proceed => exact Option.some.inj step ▸ Or.inl rfl
    | _ => cases step

theorem lands_of_drive {turn : Iteration} {job : Nat}
    (step : state.drive turn job choice = some after) : Lands choice after.body := by
  cases choice with
  | proceed =>
    simp only [drive] at step
    split at step
    · cases step
    · exact Option.some.inj step ▸ Or.inl rfl
  | deadline lastError =>
    cases turn with
    | attempt number outer => exact Option.some.inj step ▸ Or.inl rfl
    | _ => cases step
  | expire =>
    cases turn with
    | attempt number outer => exact Option.some.inj step ▸ Or.inl rfl
    | tick number => cases step
    | generation number stopping =>
      simp only [drive] at step
      split at step
      · exact Option.some.inj step ▸ Or.inl rfl
      · cases step
  | _ => cases step

theorem lands_of_reap {turn : Iteration} {job : Nat}
    (step : state.reap turn job choice = some after) : Lands choice after.body := by
  cases choice with
  | proceed =>
    simp only [reap] at step
    split at step
    · cases step
    · exact Option.some.inj step ▸ Or.inl rfl
  | _ => cases step

theorem lands_of_callHook {turn : Iteration} {job : Nat}
    (step : state.callHook turn job choice = some after) : Lands choice after.body := by
  cases choice with
  | proceed =>
    simp only [callHook] at step
    split at step
    · exact Option.some.inj step ▸ Or.inl rfl
    · exact Option.some.inj step ▸ Or.inl rfl
  | panic message =>
    simp only [callHook] at step
    split at step
    · exact Option.some.inj step ▸ Or.inl rfl
    · cases step
  | _ => cases step

theorem lands_of_awaitHook {turn : Iteration} {job hook : Nat}
    (step : state.awaitHook turn job hook choice = some after) : Lands choice after.body := by
  cases choice with
  | proceed =>
    simp only [awaitHook] at step
    split at step
    · cases step
    · exact Option.some.inj step ▸ Or.inl rfl
  | expire => exact Option.some.inj step ▸ Or.inl rfl
  | _ => cases step

theorem lands_of_join {turn : Iteration} {job : Nat}
    (step : state.join turn job choice = some after) : Lands choice after.body := by
  cases choice with
  | proceed =>
    simp only [join] at step
    split at step
    · cases step
    · exact Option.some.inj step ▸ Or.inl rfl
  | _ => cases step

theorem lands_of_awaitChildren {turn : Iteration} {pending : List Nat}
    (step : state.awaitChildren turn pending choice = some after) : Lands choice after.body := by
  cases choice with
  | proceed =>
    cases pending with
    | nil => exact Option.some.inj step ▸ Or.inl rfl
    | cons first rest =>
      simp only [awaitChildren] at step
      split at step
      · cases step
      · exact Option.some.inj step ▸ Or.inl rfl
  | _ => cases pending <;> cases step

theorem lands_of_decide {turn : Iteration} (step : state.decide turn choice = some after) :
    Lands choice after.body := by
  cases choice with
  | exit exit => exact Option.some.inj step ▸ lands_finish rfl
  | deadline lastError =>
    cases turn with
    | attempt number outer => exact Option.some.inj step ▸ lands_finish rfl
    | _ => cases step
  | sleep =>
    simp only [Supervised.decide] at step
    split at step
    · cases step
    · exact Option.some.inj step ▸ Or.inl rfl
  | _ => cases step

theorem lands_of_wake {turn : Iteration} (step : state.wake turn choice = some after) :
    Lands choice after.body := by
  cases choice with
  | exit exit => exact Option.some.inj step ▸ lands_finish rfl
  | proceed =>
    obtain ⟨following, -, rfl⟩ := Option.map_eq_some_iff.1 step
    exact Or.inl rfl
  | sleep =>
    cases turn with
    | tick number => exact Option.some.inj step ▸ Or.inl rfl
    | _ => cases step
  | restart =>
    cases turn with
    | tick number => exact Option.some.inj step ▸ Or.inl rfl
    | _ => cases step
  | _ => cases step

/-- A body goes on, or returns what the choice says. -/
theorem lands_of_bodyStep (step : state.bodyStep choice = some after) :
    Lands choice after.body := by
  unfold bodyStep at step
  split at step
  · rename_i phase here
    cases phase with
    | spawned => exact Option.some.inj step ▸ Or.inl rfl
    | user =>
      cases choice with
      | exit exit => exact Option.some.inj step ▸ Or.inr ⟨exit, rfl, rfl⟩
      | _ => cases step
    | delaying =>
      cases choice with
      | proceed => exact Option.some.inj step ▸ Or.inl rfl
      | exit exit => exact Option.some.inj step ▸ Or.inr ⟨exit, rfl, rfl⟩
      | _ => cases step
    | entering turn => exact lands_of_enter step
    | begun turn => exact lands_of_launch step
    | driving turn job => exact lands_of_drive step
    | reaping turn job => exact lands_of_reap step
    | stopping turn job => exact lands_of_callHook step
    | hooking turn job hook => exact lands_of_awaitHook step
    | joining turn job => exact lands_of_join step
    | leaving turn => exact Option.some.inj step ▸ Or.inl rfl
    | closing turn pending => exact lands_of_awaitChildren step
    | decided turn => exact lands_of_decide step
    | sleeping turn => exact lands_of_wake step
  · cases step

/-- A choice that does not end the body leaves it running. -/
theorem goes_of_bodyStep (stays : choice.ends = false)
    (step : state.bodyStep choice = some after) : after.body.hasEnded = false := by
  rcases lands_of_bodyStep step with goes | ⟨returned, returns, -⟩
  · exact goes
  · cases choice with
    | exit exit => cases stays
    | deadline lastError => cases stays
    | _ => cases returns

/-! ## The other steps of the execution -/

/-- Neither task moves, and nothing is committed. -/
structure Quiet (state after : Supervised T E) : Prop where
  runner : after.runner = state.runner
  body : after.body = state.body
  terminal : after.core.terminal = state.core.terminal

theorem Quiet.refl (state : Supervised T E) : Quiet state state := ⟨rfl, rfl, rfl⟩

/-- What the jobs, the callers and the children do. -/
theorem Quiet.of_step {action : SupervisedAction T E} (step : state.step action = some after)
    (start : action ≠ .dropStart) (runner : ∀ choice, action ≠ .runner choice)
    (body : ∀ choice, action ≠ .body choice) (unwind : ∀ message, action ≠ .unwind message)
    (abort : action ≠ .abortBody) : Quiet state after := by
  cases action with
  | dropStart => exact (start rfl).elim
  | runner choice => exact (runner choice rfl).elim
  | body choice => exact (body choice rfl).elim
  | unwind message => exact (unwind message rfl).elim
  | abortBody => exact (abort rfl).elim
  | jobEnds job =>
    simp only [Supervised.step] at step
    split at step
    · exact Option.some.inj step ▸ ⟨rfl, rfl, rfl⟩
    · cases step
  | jobDropped job =>
    simp only [Supervised.step] at step
    split at step
    · exact Option.some.inj step ▸ ⟨rfl, rfl, rfl⟩
    · cases step
  | requestStop cause =>
    exact Option.some.inj step ▸ ⟨rfl, rfl, CoreState.terminal_requestStop cause⟩
  | report next =>
    simp only [Supervised.step] at step
    split at step
    · exact Option.some.inj step ▸ ⟨rfl, rfl, CoreState.terminal_setActiveState next⟩
    · cases step
  | checkForced =>
    simp only [Supervised.step] at step
    split at step
    · exact Option.some.inj step ▸ ⟨rfl, rfl, rfl⟩
    · exact Option.some.inj step ▸ .refl state
  | swapForced =>
    simp only [Supervised.step, Supervised.swapForced] at step
    split at step
    · split at step
      · exact Option.some.inj step ▸ ⟨rfl, rfl, rfl⟩
      · exact Option.some.inj step ▸ ⟨rfl, rfl, rfl⟩
    · cases step
  | callAbort =>
    simp only [Supervised.step] at step
    split at step
    · exact Option.some.inj step ▸ ⟨rfl, rfl, rfl⟩
    · cases step
  | spawnChild attempt available =>
    simp only [Supervised.step, Supervised.spawnChild] at step
    split at step
    · split at step
      · rename_i spawned
        split at spawned
        · obtain rfl := Except.ok.inj spawned
          exact Option.some.inj step ▸ ⟨rfl, rfl, rfl⟩
        · cases spawned
      · exact Option.some.inj step ▸ .refl state
    · cases step
  | childEnds child =>
    simp only [Supervised.step] at step
    split at step
    · exact Option.some.inj step ▸ ⟨rfl, rfl, rfl⟩
    · cases step

end Supervised

namespace ServiceRun

variable {spec : ServiceSpec} {run after : ServiceRun T E} {choice : Choice T E}
  {action : ServiceAction T E}

/-! ## What `run_service` does -/

/-- A step of `run_service`: it goes on, or it ends in the status `Stopped`. -/
structure Settles (run after : ServiceRun T E) : Prop where
  runner : after.execution.runner = run.execution.runner
  terminal : after.execution.core.terminal = run.execution.core.terminal
  running : run.execution.body.isRunning = true
  outcome : after.execution.body.hasEnded = false ∨ after.status.isStopped = true

/-- Only the execution matters for where a step starts. -/
theorem Settles.congr {same : ServiceRun T E} (settles : same.Settles after)
    (execution : same.execution = run.execution) : run.Settles after where
  runner := execution ▸ settles.runner
  terminal := execution ▸ settles.terminal
  running := execution ▸ settles.running
  outcome := settles.outcome

theorem Settles.of_proceed (fine : choice.ends = false ∨ run.status.isStopped = true)
    (step : run.proceed choice = some after) : Settles run after := by
  obtain ⟨execution, moves, rfl⟩ := Option.map_eq_some_iff.1 step
  have moved := Supervised.BodyMoved.of_bodyStep moves
  refine ⟨moved.runner, moved.terminal, moved.running, ?_⟩
  rcases fine with stays | stopped
  · exact Or.inl (Supervised.goes_of_bodyStep stays moves)
  · exact Or.inr stopped

/-- `run_service` returns, and has published `Stopped`. -/
theorem Settles.of_finish {generation : Nat} {hook : HookOutcome} {exit : Returned T E}
    (step : run.finish (some (.stopped generation hook)) exit = some after) :
    Settles run after :=
  (Settles.of_proceed (Or.inr rfl) step).congr rfl

/-- The restart is admitted, or its refusal is published. -/
def Admission.published (cause : RestartCause E) : Admission → Bool
  | .backoff _ _ => true
  | _ => (refusedStatus 0 cause).isSome

theorem refusedStatus_eq {cause : RestartCause E} (generation : Nat)
    (published : (refusedStatus 0 cause).isSome = true) :
    refusedStatus generation cause = some (.stopped generation .notRequired) := by
  cases cause with
  | factory => cases published
  | _ => rfl

theorem Settles.of_restart {generation : Nat} {cause : RestartCause E} {now : Instant}
    (published : (run.admitRestart spec now).published cause = true)
    (step : run.restart spec generation cause now = some after) : Settles run after := by
  unfold restart at step
  split at step
  · rename_i rejected
    rw [rejected] at published
    rw [refusedStatus_eq generation published] at step
    exact .of_finish step
  · rename_i overflow
    rw [overflow] at published
    rw [refusedStatus_eq generation published] at step
    exact .of_finish step
  · exact (Settles.of_proceed (Or.inl rfl) step).congr rfl

theorem Settles.of_panicked {generation : Nat} {source : PanicSource} {cause : RestartCause E}
    {message : String} {now : Instant}
    (published : isTimerUnavailableMessage message = true ∨ spec.restartTrigger.panic = false ∨
      (run.admitRestart spec now).published cause = true)
    (step : run.panicked spec generation source cause message now = some after) :
    Settles run after := by
  unfold panicked at step
  split at step
  · exact .of_finish step
  · rename_i restarts
    refine .of_restart ?_ step
    rcases published with unavailable | silent | published
    · exact (restarts (Or.inl unavailable)).elim
    · exact (restarts (Or.inr silent)).elim
    · exact published

theorem Settles.of_afterBody {generation : Nat} {now : Instant} {result : JobResult T E}
    (found : result = .lost → run.isCancelled = true)
    (step : run.afterBody spec generation now result = some after) : Settles run after := by
  have published : ∀ cause : RestartCause E, (refusedStatus 0 cause).isSome = true →
      (run.admitRestart spec now).published cause = true := by
    intro cause refusal
    cases run.admitRestart spec now with
    | backoff restartTimes restartCount => rfl
    | _ => exact refusal
  unfold afterBody at step
  split at step
  · exact .of_finish step
  · rename_i goesOn
    cases result with
    | returned value => exact .of_finish step
    | failed error =>
      simp only at step
      split at step
      · exact .of_restart (published (.failure error) rfl) step
      · exact .of_finish step
    | panicked message => exact .of_panicked (Or.inr (Or.inr (published .panic rfl))) step
    | lost => exact (goesOn (found rfl)).elim

/-! ## The condition and the invariant -/

/-- None of the ways out that leave the status as it was. -/
def Orderly (spec : ServiceSpec) (run : ServiceRun T E) : ServiceAction T E → Prop
  | .factory (some message) now =>
    isTimerUnavailableMessage message = true ∨ spec.restartTrigger.panic = false ∨
      (run.admitRestart spec now).published (E := E) .factory = true
  | .decide _ => run.joined = some .lost → run.isCancelled = true
  | .wake true => run.cause ≠ some .factory
  | .wake false => run.execution.body.turn.all fun turn => turn.next.isSome
  | .report _ => run.status.isStopped = false
  | .execution (.runner _) =>
    run.execution.runner.isWaiting = true → run.isCancelled = false
  | .execution .dropStart | .execution .abortBody | .execution (.unwind _) => False
  | _ => True

instance [DecidableEq T] [DecidableEq E] (spec : ServiceSpec) (run : ServiceRun T E)
    (action : ServiceAction T E) : Decidable (run.Orderly spec action) := by
  unfold Orderly
  split <;> infer_instance

/-- The runner waits for a body that ends only in the status `Stopped`. -/
structure Sound (run : ServiceRun T E) : Prop where
  present : run.execution.runner.gaveUp = false
  unborn : run.execution.runner.early = true → run.execution.body = .absent
  heard : run.execution.runner.late = true → run.execution.body.hasEnded = true
  published : run.execution.body.hasEnded = true → run.status.isStopped = true
  committed : run.execution.core.terminal ≠ none → run.execution.runner = .committed

namespace Sound

theorem new (spec : ServiceSpec) (maximumChildren : Nat) :
    (ServiceRun.new spec maximumChildren : ServiceRun T E).Sound where
  present := rfl
  unborn := fun _ => rfl
  heard := by intro late; cases late
  published := by intro ended; cases ended
  committed := fun terminal => (terminal rfl).elim

/-- Neither task moves, and a `Stopped` is not overwritten. -/
theorem quiet (inv : run.Sound) (quiet : run.execution.Quiet after.execution)
    (status : run.status.isStopped = true → after.status.isStopped = true) : after.Sound where
  present := by
    rw [quiet.runner]
    exact inv.present
  unborn := by
    rw [quiet.runner, quiet.body]
    exact inv.unborn
  heard := by
    rw [quiet.runner, quiet.body]
    exact inv.heard
  published := by
    rw [quiet.body]
    exact fun ended => status (inv.published ended)
  committed := by
    rw [quiet.runner, quiet.terminal]
    exact inv.committed

theorem settles (inv : run.Sound) (settles : run.Settles after) : after.Sound := by
  have running := settles.running
  have unheard : run.execution.runner.late = false := by
    refine Bool.eq_false_iff.2 fun late => ?_
    have ended := inv.heard late
    cases body : run.execution.body with
    | running phase => simp [body, BodyTask.hasEnded] at ended
    | _ => simp [body, BodyTask.isRunning] at running
  constructor
  · rw [settles.runner]
    exact inv.present
  · intro early
    rw [inv.unborn (settles.runner ▸ early)] at running
    cases running
  · intro late
    rw [settles.runner, unheard] at late
    cases late
  · intro ended
    rcases settles.outcome with goes | stopped
    · rw [goes] at ended
      cases ended
    · exact stopped
  · rw [settles.terminal, settles.runner]
    exact inv.committed

/-- The runner moves on, short of the commit, with the body as it was. -/
theorem runnerMoves (inv : run.Sound) {execution : Supervised T E}
    (body : execution.body = run.execution.body) (open_ : execution.core.terminal = none)
    (present : execution.runner.gaveUp = false)
    (early : execution.runner.early = true → run.execution.runner.early = true)
    (late : execution.runner.late = true → run.execution.body.hasEnded = true) :
    ({ run with execution := execution } : ServiceRun T E).Sound where
  present := present
  unborn := body ▸ fun isEarly => inv.unborn (early isEarly)
  heard := body ▸ late
  published := body ▸ inv.published
  committed := fun terminal => (terminal open_).elim

theorem runner (inv : run.Sound) {execution : Supervised T E}
    (started : run.execution.runner.isWaiting = true → run.isCancelled = false)
    (step : run.execution.runnerStep .proceed = some execution) :
    ({ run with execution := execution } : ServiceRun T E).Sound := by
  have present := inv.present
  have heard := inv.heard
  have open_ : run.execution.runner ≠ .committed → run.execution.core.terminal = none := by
    intro moving
    by_contra terminal
    exact moving (inv.committed terminal)
  unfold Supervised.runnerStep at step
  split at step
  · rename_i here
    simp only [here, ne_eq, reduceCtorEq, not_false_eq_true, forall_const] at open_
    split at step
    · rename_i core claimed
      obtain rfl := Option.some.inj step
      exact inv.runnerMoves rfl (CoreState.terminal_claimStart claimed).2 rfl
        (fun _ => here ▸ rfl) (by simp [RunnerTask.late])
    · rename_i refused
      have unstopped : run.execution.core.stopCause = none := by
        simpa [isCancelled] using started (here ▸ rfl)
      rw [CoreState.claimStart_eq_some.2 ⟨open_, unstopped, rfl⟩] at refused
      cases refused
  · rename_i here
    rw [here] at present
    cases present
  · rename_i here
    simp only at step
    obtain rfl := Option.some.inj step
    refine ⟨rfl, by simp [RunnerTask.early], by simp [RunnerTask.late],
      by simp [BodyTask.hasEnded], fun terminal => ?_⟩
    exact (terminal (open_ (by simp [here]))).elim
  · rename_i here
    obtain rfl := Option.some.inj step
    exact inv.runnerMoves rfl (open_ (by simp [here])) rfl (by simp [RunnerTask.early])
      (by simp [RunnerTask.late])
  · rename_i here
    split at step
    · rename_i ended
      obtain rfl := Option.some.inj step
      exact inv.runnerMoves rfl (open_ (by simp [here])) rfl (by simp [RunnerTask.early])
        (fun _ => ended ▸ rfl)
    · rename_i impossible
      cases impossible
    · cases step
  · rename_i here
    rw [here] at present
    cases present
  · rename_i here
    obtain rfl := Option.some.inj step
    exact inv.runnerMoves rfl (open_ (by simp [here])) rfl (by simp [RunnerTask.early])
      (fun _ => heard (here ▸ rfl))
  · rename_i here
    obtain rfl := Option.some.inj step
    exact inv.runnerMoves rfl (open_ (by simp [here])) rfl (by simp [RunnerTask.early])
      (fun _ => heard (here ▸ rfl))
  · rename_i here
    obtain rfl := Option.some.inj step
    exact inv.runnerMoves rfl (open_ (by simp [here])) rfl (by simp [RunnerTask.early])
      (fun _ => heard (here ▸ rfl))
  · rename_i exit here
    obtain rfl := Option.some.inj step
    obtain ⟨core, commits⟩ := run.execution.commit_eq exit
    have body : (run.execution.commit exit).body = run.execution.body := by rw [commits]
    refine ⟨rfl, by simp [RunnerTask.early], fun _ => ?_, fun ended => ?_, fun _ => rfl⟩
    · exact body ▸ heard (here ▸ rfl)
    · exact inv.published (body ▸ ended)
  · rename_i here
    split at step
    · cases step
    · obtain rfl := Option.some.inj step
      exact inv.runnerMoves rfl (open_ (by simp [here])) rfl (by simp [RunnerTask.early])
        (fun _ => heard (here ▸ rfl))
  · cases step
  · cases step

end Sound

/-- One move of `run_service`. -/
theorem Settles.of_moved {phase : Phase} (orderly : run.Orderly spec action)
    (here : run.execution.body = .running phase)
    (moved : BodyMoved spec run after phase action) : run.Settles after := by
  cases moved with
  | enter goes | bodyJoined goes | cancelled goes | callHook _ goes | hookPanics goes
  | join goes => exact (Settles.of_proceed (Or.inl rfl) goes.proceeds).congr rfl
  | launch goes | wake _ _ goes => exact .of_proceed (Or.inl rfl) goes.proceeds
  | @awaitHook _ _ _ result goes =>
    refine (Settles.of_proceed (Or.inl ?_) goes.proceeds).congr rfl
    cases result <;> rfl
  | unwind unwinds => exact .of_panicked orderly unwinds
  | stopped _ returns => exact .of_finish returns
  | decide joined decides => exact .of_afterBody (fun lost => orderly (lost ▸ joined)) decides
  | @interrupted generation _ cause known returns =>
    have published : (refusedStatus 0 cause).isSome = true := by
      cases cause with
      | factory => exact (orderly known).elim
      | _ => rfl
    rw [refusedStatus_eq generation published] at returns
    exact .of_finish returns
  | overflow _ last _ =>
    rw [Orderly, here, BodyTask.turn, Option.all_some, last] at orderly
    cases orderly

/-- What the execution does by itself. -/
theorem Sound.execution (inv : run.Sound) {action : SupervisedAction T E}
    {execution : Supervised T E} (orderly : run.Orderly spec (.execution action))
    (foreign : run.isForeign action = true) (step : run.execution.step action = some execution) :
    ({ run with execution := execution } : ServiceRun T E).Sound := by
  have quietly (start runner body unwind abort) :
      ({ run with execution := execution } : ServiceRun T E).Sound :=
    inv.quiet (.of_step step start runner body unwind abort) id
  cases action with
  | dropStart => exact orderly.elim
  | abortBody => exact orderly.elim
  | unwind message => exact orderly.elim
  | runner choice =>
    cases choice with
    | proceed => exact inv.runner orderly step
    | _ => cases foreign
  | body choice =>
    cases choice with
    | proceed => exact inv.settles (.of_proceed (Or.inl rfl) (by rw [proceed, step]; rfl))
    | _ => cases foreign
  | _ => exact quietly (by simp) (by simp) (by simp) (by simp) (by simp)

/-- **Step lemma.** -/
theorem Sound.step (inv : run.Sound) (orderly : run.Orderly spec action)
    (step : run.step spec action = some after) : after.Sound := by
  cases Moved.of_step step with
  | check => exact inv.quiet (.refl run.execution) id
  | report =>
    refine inv.quiet (.refl run.execution) fun stopped => ?_
    rw [orderly] at stopped
    cases stopped
  | execution foreign moves => exact inv.execution orderly foreign moves
  | body here moved => exact inv.settles (.of_moved orderly here moved)

/-! ## A service that nobody will stop -/

/-- The runner never started `run_service`. -/
structure Abandoned (run : ServiceRun T E) : Prop where
  runner : run.execution.runner = .retired
  body : run.execution.body = .absent
  contexts : run.contexts = 0
  reports : run.reports = []
  status : run.status = .starting 1

theorem Abandoned.step (abandoned : run.Abandoned) (step : run.step spec action = some after) :
    after.Abandoned := by
  cases Moved.of_step step with
  | check checked =>
    simp [checks, abandoned.contexts] at checked
    omega
  | report member =>
    rw [abandoned.reports] at member
    cases member
  | @execution move execution _ moves =>
    have idle : run.execution.Quiet execution := by
      refine .of_step moves ?_ ?_ ?_ ?_ ?_
      · rintro rfl
        simp [Supervised.step, abandoned.runner] at moves
      · rintro choice rfl
        simp [Supervised.step, Supervised.runnerStep, abandoned.runner] at moves
      · rintro choice rfl
        simp [Supervised.step, Supervised.bodyStep, abandoned.body] at moves
      · rintro message rfl
        simp [Supervised.step, abandoned.body] at moves
      · rintro rfl
        simp [Supervised.step, abandoned.body] at moves
    exact ⟨idle.runner.trans abandoned.runner, idle.body.trans abandoned.body,
      abandoned.contexts, abandoned.reports, abandoned.status⟩
  | body here =>
    rw [abandoned.body] at here
    cases here

end ServiceRun

/-! ## The result -/

/-- **Main result.**  In a run of a service that takes none of the ways out which publish
nothing, and in which no report overwrites `Stopped`, a terminal service is stopped, and
nobody waits for its readiness. -/
theorem finished_service_stopped {spec : ServiceSpec} {maximumChildren : Nat}
    {run : ServiceRun T E}
    (reached : (service T E spec maximumChildren).Reaches (ServiceRun.Orderly spec)
      (service T E spec maximumChildren).init run)
    (terminal : run.execution.core.terminal ≠ none) :
    run.status.isStopped = true ∧ run.status.waitReady = some (.error .stoppedBeforeReady) := by
  have sound : run.Sound := reached.invariant (.new spec maximumChildren)
    fun inv orderly step => inv.step orderly step
  have late : run.execution.runner.late = true := sound.committed terminal ▸ rfl
  have stopped := sound.published (sound.heard late)
  refine ⟨stopped, ?_⟩
  cases status : run.status with
  | stopped generation hook => rfl
  | _ => simp [status, ServiceStatus.isStopped] at stopped

/-- A service that is restarted once after a failure. -/
def restartedOnce : ServiceSpec :=
  { ServiceBuilder.new with
    restartTrigger := .onFailure
    restartPolicy := some (.new 1)
    required := by simp
    budget := by simp [RestartPolicy.new]
    window := by simp [RestartPolicy.new]
    timeout := by simp [ServiceBuilder.new] }

/-- The body fails, and returns once it is restarted. -/
def restartedRun : List (ServiceAction Unit Unit) :=
  [.execution (.runner .proceed), .execution (.runner .proceed), .execution (.runner .proceed),
    .execution (.body .proceed), .enter, .factory none 0, .check 1 .healthy,
    .report (.ready 1 .healthy), .execution (.jobEnds 0), .bodyJoined (.failed ()),
    .execution (.body .proceed), .execution (.body .proceed), .decide 5, .wake false, .enter,
    .factory none 6, .execution (.jobEnds 1), .bodyJoined (.returned ()),
    .execution (.body .proceed), .execution (.body .proceed), .decide 7,
    .execution (.runner .proceed), .execution (.runner .proceed), .execution (.runner .proceed),
    .execution (.runner .proceed), .execution (.runner .proceed)]

theorem finished_service_stopped_restarted :
    ∃ run, (service Unit Unit restartedOnce 0).Reaches (ServiceRun.Orderly restartedOnce)
        (service Unit Unit restartedOnce 0).init run ∧
      run.execution.core.terminal = some .completed ∧ run.status.isStopped = true := by
  have runs : ((service Unit Unit restartedOnce 0).exec (service Unit Unit restartedOnce 0).init
      restartedRun).map (fun run => run.execution.core.terminal) =
        some (some .completed) := by
    decide +kernel
  have orderly : (service Unit Unit restartedOnce 0).Meets (ServiceRun.Orderly restartedOnce)
      (service Unit Unit restartedOnce 0).init restartedRun := by
    decide +kernel
  obtain ⟨run, exec, completed⟩ := Option.map_eq_some_iff.1 runs
  have reached := System.Reaches.of_exec exec orderly
  exact ⟨run, reached, completed, (finished_service_stopped reached (by simp [completed])).1⟩

/-- A service that is cancelled before its runner is polled: the runner commits the
cancellation, and the status stays `Starting` whatever happens. -/
theorem cancelled_service_starting :
    ∃ run, (service Unit Unit restartedOnce 0).Reachable run ∧
      run.execution.core.terminal = some (.cancelled .userRequested) ∧
      ∀ later, (service Unit Unit restartedOnce 0).Reaches (fun _ _ => True) run later →
        later.status = .starting 1 ∧ later.status.waitReady = none := by
  obtain ⟨run, runs⟩ : ∃ run, (service Unit Unit restartedOnce 0).exec
      (service Unit Unit restartedOnce 0).init
      [.execution (.requestStop (.cancel .userRequested)), .execution (.runner .proceed),
        .execution (.runner .proceed)] = some run := ⟨_, rfl⟩
  have abandoned : run.Abandoned := by
    obtain rfl := Option.some.inj runs
    exact ⟨rfl, rfl, rfl, rfl, rfl⟩
  refine ⟨run, .of_schedule _ runs, by obtain rfl := Option.some.inj runs; rfl, ?_⟩
  intro later continued
  have waiting : later.Abandoned := continued.invariant abandoned fun inv _ step => inv.step step
  exact ⟨waiting.status, by rw [waiting.status]; rfl⟩

end BusyBeaver
