import BusyBeaver.Lib.History
import BusyBeaver.Service.Moves
import BusyBeaver.Supervision.Structured

/-!
# The shutdown hook

The hook is called from one arm of the select on the body, and a service that is stopped
elsewhere ends without it: after its body was joined, in a back-off, or in a factory that
unwinds.  `hook_called_once_iff` says that these are all.
-/

namespace BusyBeaver

open Transition

variable {T E : Type}

/-! ## The statement -/

/-- `run_shutdown_hook` calls the hook. -/
def ServiceAction.callsHook : ServiceAction T E → Bool
  | .callHook _ => true
  | _ => false

/-- How often the hook has been called. -/
def hookCalls (actions : List (ServiceAction T E)) : Nat :=
  actions.countP ServiceAction.callsHook

/-- The iteration whose outcome the body decides, or whose back-off it sleeps out. -/
def BodyTask.settling : BodyTask T E → Option Iteration
  | .running (.decided turn) | .running (.sleeping turn) => some turn
  | _ => none

def Iteration.isStopping : Iteration → Bool
  | .generation _ stopping => stopping
  | _ => false

namespace ServiceRun

/-- A stop request is accepted while `run_service` runs. -/
def Asked (run : ServiceRun T E) : ServiceAction T E → Prop
  | .execution (.requestStop _) =>
    run.execution.core.stopCause = none ∧ run.execution.body.isRunning = true
  | _ => False

/-- A stop that was accepted is met where the hook is not looked at: by a factory that
unwinds, by the outcome of a body that was not stopped, or by the end of a back-off. -/
def Missed (run : ServiceRun T E) : ServiceAction T E → Prop
  | .factory (some _) _ => run.isCancelled = true
  | .decide _ =>
    run.isCancelled = true ∧ run.execution.body.settling.any fun turn => !turn.isStopping
  | .wake interrupted =>
    run.isCancelled = true ∧
      (interrupted = true ∨ run.execution.body.settling.any fun turn => turn.next.isNone)
  | _ => False

end ServiceRun

/-! ## The phases of `run_service` -/

namespace Phase

/-- The turn is a generation that did, or did not, see the cancellation. -/
def ofService : Phase → Bool
  | .spawned => true
  | .entering (.generation _ stops) | .begun (.generation _ stops)
  | .driving (.generation _ stops) _ | .sleeping (.generation _ stops) => !stops
  | .stopping (.generation _ stops) _ | .hooking (.generation _ stops) _ _
  | .joining (.generation _ stops) _ => stops
  | .leaving (.generation _ _) | .closing (.generation _ _) _ | .decided (.generation _ _) => true
  | _ => false

/-- How often the hook has been called when the body is here. -/
def hookCalls : Phase → Nat
  | .hooking _ _ _ | .joining _ _ => 1
  | .leaving turn | .closing turn _ | .decided turn => if turn.isStopping then 1 else 0
  | _ => 0

end Phase

namespace ServiceRun

variable {spec : ServiceSpec} {run after : ServiceRun T E} {phase : Phase}
  {generation job hook : Nat} {choice : Choice T E} {cause : RestartCause E} {now : Instant}

/-! ## A step of the execution -/

/-- The body makes a step. -/
def Proceeds (run after : ServiceRun T E) : Prop :=
  ∃ choice, run.execution.step (.body choice) = some after.execution

/-- What `run_service` writes with the step does not concern its execution. -/
theorem proceeds_of_proceed {written : ServiceRun T E}
    (step : written.proceed choice = some after) (same : written.execution = run.execution) :
    run.Proceeds after := by
  obtain ⟨execution, moves, rfl⟩ := Option.map_eq_some_iff.1 step
  exact ⟨choice, same ▸ moves⟩

theorem proceeds_of_finish {status : Option ServiceStatus} {exit : Returned T E}
    (step : run.finish status exit = some after) : run.Proceeds after :=
  proceeds_of_proceed step rfl

theorem proceeds_of_restart (step : run.restart spec generation cause now = some after) :
    run.Proceeds after := by
  unfold restart at step
  split at step
  · exact proceeds_of_finish step
  · exact proceeds_of_finish step
  · exact proceeds_of_proceed step rfl

theorem proceeds_of_panicked {source : PanicSource} {message : String}
    (step : run.panicked spec generation source cause message now = some after) :
    run.Proceeds after := by
  unfold panicked at step
  split at step
  · exact proceeds_of_finish step
  · exact proceeds_of_restart step

theorem proceeds_of_afterBody {result : JobResult T E}
    (step : run.afterBody spec generation now result = some after) : run.Proceeds after := by
  unfold afterBody at step
  split at step
  · exact proceeds_of_finish step
  · cases result with
    | returned value => exact proceeds_of_finish step
    | failed error =>
      simp only at step
      split at step
      · exact proceeds_of_restart step
      · exact proceeds_of_finish step
    | panicked message => exact proceeds_of_panicked step
    | lost => exact proceeds_of_finish step

theorem BodyMoved.proceeds {action : ServiceAction T E}
    (moved : BodyMoved spec run after phase action) : run.Proceeds after := by
  cases moved with
  | enter goes | launch goes | bodyJoined goes | cancelled goes | callHook _ goes
  | hookPanics goes | awaitHook goes | join goes | wake _ _ goes =>
    exact proceeds_of_proceed goes.proceeds rfl
  | unwind step => exact proceeds_of_panicked step
  | stopped _ step | interrupted _ step | overflow _ _ step => exact proceeds_of_finish step
  | decide _ step => exact proceeds_of_afterBody step

theorem BodyMoved.not_asked {action : ServiceAction T E}
    (moved : BodyMoved spec run after phase action) : ¬ run.Asked action := by
  cases moved <;> exact id

/-! ## The course of `run_service` -/

/-- The body goes on to a phase with the right number of calls, or ends: after its call, or
without one, and then a stop it was asked for is missed. -/
def Course (run : ServiceRun T E) (phase : Phase) (action : ServiceAction T E)
    (after : ServiceRun T E) : Prop :=
  after.execution.kind = run.execution.kind ∧
    after.execution.core.stopCause = run.execution.core.stopCause ∧
    ((∃ phase', after.execution.body = .running phase' ∧ phase'.ofService = true ∧
        phase'.hookCalls = phase.hookCalls + hookCalls [action] ∧ ¬ run.Missed action) ∨
      (∃ joined, after.execution.body = .ended joined) ∧ hookCalls [action] = 0 ∧
        (phase.hookCalls = 1 ∧ ¬ run.Missed action ∨
          phase.hookCalls = 0 ∧ (run.isCancelled = true → run.Missed action)))

/-- The body goes on. -/
theorem Course.goes {action : ServiceAction T E} {phase' : Phase}
    (kind : after.execution.kind = run.execution.kind)
    (stop : after.execution.core.stopCause = run.execution.core.stopCause)
    (body : after.execution.body = .running phase') (allowed : phase'.ofService = true)
    (calls : phase'.hookCalls = phase.hookCalls + hookCalls [action])
    (met : ¬ run.Missed action) : run.Course phase action after :=
  ⟨kind, stop, Or.inl ⟨phase', body, allowed, calls, met⟩⟩

/-- A return, where the supervisor decides. -/
theorem finish_eq {status : Option ServiceStatus} {exit : Returned T E} {stops : Bool}
    (step : run.finish status exit = some after) (here : run.execution.body = .running phase)
    (decides : phase = .begun (.generation generation stops) ∨
      phase = .decided (.generation generation stops) ∨
        phase = .sleeping (.generation generation stops)) :
    after = { run with
      status := status.getD run.status
      execution := { run.execution with body := .ended (.returned exit) } } := by
  obtain ⟨execution, moves, rfl⟩ := Option.map_eq_some_iff.1 step
  have ended : execution = { run.execution with body := .ended (.returned exit) } := by
    simp only [Supervised.step, Supervised.bodyStep, here] at moves
    rcases decides with rfl | rfl | rfl <;> exact (Option.some.inj moves).symm
  rw [ended]

/-- A restart that is admitted sleeps. -/
theorem sleep_eq {stops : Bool} (step : run.proceed .sleep = some after)
    (here : run.execution.body = .running phase)
    (decides : phase = .begun (.generation generation stops) ∨
      phase = .decided (.generation generation stops)) :
    after = { run with
      execution :=
        { run.execution with body := .running (.sleeping (.generation generation stops)) } } := by
  obtain ⟨execution, moves, rfl⟩ := Option.map_eq_some_iff.1 step
  have sleeps : execution =
      { run.execution with body := .running (.sleeping (.generation generation stops)) } := by
    simp only [Supervised.step, Supervised.bodyStep, here] at moves
    rcases decides with rfl | rfl
    · exact (Option.some.inj moves).symm
    · cases stops with
      | false => exact (Option.some.inj moves).symm
      | true => cases moves
  rw [sleeps]

theorem Course.of_finish {action : ServiceAction T E} {status : Option ServiceStatus}
    {exit : Returned T E} {written : ServiceRun T E} {stops : Bool}
    (step : written.finish status exit = some after)
    (same : written.execution = run.execution)
    (here : run.execution.body = .running phase)
    (decides : phase = .begun (.generation generation stops) ∨
      phase = .decided (.generation generation stops) ∨
        phase = .sleeping (.generation generation stops))
    (silent : hookCalls [action] = 0)
    (due : phase.hookCalls = 1 ∧ ¬ run.Missed action ∨
      phase.hookCalls = 0 ∧ (run.isCancelled = true → run.Missed action)) :
    run.Course phase action after := by
  rw [finish_eq step (by rw [same]; exact here) decides, same]
  exact ⟨rfl, rfl, Or.inr ⟨⟨_, rfl⟩, silent, due⟩⟩

theorem admitRestart_of_cancelled (cancelled : run.isCancelled = true) :
    run.admitRestart spec now = .rejected := by
  unfold admitRestart
  split
  · rfl
  · exact if_pos (Or.inr cancelled)

/-- A restart is refused to a service that is cancelled. -/
theorem Course.of_restart {action : ServiceAction T E} {stops : Bool}
    (step : run.restart spec generation cause now = some after)
    (here : run.execution.body = .running phase)
    (decides : phase = .begun (.generation generation stops) ∨
      phase = .decided (.generation generation stops))
    (fresh : stops = false) (silent : hookCalls [action] = 0)
    (missed : run.Missed action ↔ run.isCancelled = true) : run.Course phase action after := by
  subst fresh
  have uncalled : phase.hookCalls = 0 := by rcases decides with rfl | rfl <;> rfl
  have finishes :=
    decides.imp_right (Or.inl (b := phase = .sleeping (.generation generation false)))
  unfold restart at step
  split at step
  · exact .of_finish step rfl here finishes silent (Or.inr ⟨uncalled, missed.2⟩)
  · exact .of_finish step rfl here finishes silent (Or.inr ⟨uncalled, missed.2⟩)
  · rename_i admitted
    have met : ¬ run.Missed action := by
      intro absurd
      rw [admitRestart_of_cancelled (missed.1 absurd)] at admitted
      cases admitted
    rw [sleep_eq step here decides]
    exact .goes rfl rfl rfl rfl (by rw [uncalled, silent]; rfl) met

theorem Course.of_panicked {action : ServiceAction T E} {source : PanicSource} {message : String}
    (step : run.panicked spec generation source cause message now = some after)
    (here : run.execution.body = .running phase)
    (decides : phase = .begun (.generation generation false) ∨
      phase = .decided (.generation generation false))
    (silent : hookCalls [action] = 0) (missed : run.Missed action ↔ run.isCancelled = true) :
    run.Course phase action after := by
  have uncalled : phase.hookCalls = 0 := by rcases decides with rfl | rfl <;> rfl
  unfold panicked at step
  split at step
  · exact .of_finish step rfl here (decides.imp_right Or.inl) silent
      (Or.inr ⟨uncalled, missed.2⟩)
  · exact .of_restart step here decides rfl silent missed

theorem Course.of_afterBody {action : ServiceAction T E} {result : JobResult T E}
    (step : run.afterBody spec generation now result = some after)
    (here : run.execution.body = .running (.decided (.generation generation false)))
    (silent : hookCalls [action] = 0) (missed : run.Missed action ↔ run.isCancelled = true) :
    run.Course (.decided (.generation generation false)) action after := by
  have finishes {status : Option ServiceStatus} {exit : Returned T E}
      (step : run.finish status exit = some after) :
      run.Course (.decided (.generation generation false)) action after :=
    .of_finish step rfl here (Or.inr (Or.inl rfl)) silent (Or.inr ⟨rfl, missed.2⟩)
  unfold afterBody at step
  split at step
  · exact finishes step
  · cases result with
    | returned value => exact finishes step
    | failed error =>
      simp only at step
      split at step
      · exact .of_restart step here (Or.inr rfl) rfl silent missed
      · exact finishes step
    | panicked message => exact .of_panicked step here (Or.inr rfl) silent missed
    | lost => exact finishes step

/-- A move of a generation that has, or has not, been cancelled. -/
theorem Course.of_goes {action : ServiceAction T E} {written : ServiceRun T E} {next : Phase}
    (goes : Goes written choice next after) (same : written.execution = run.execution)
    (allowed : next.ofService = true)
    (calls : next.hookCalls = phase.hookCalls + hookCalls [action])
    (met : ¬ run.Missed action) : run.Course phase action after :=
  .goes (same ▸ goes.kind) (same ▸ goes.stop) goes.body allowed calls met

/-- Whatever `run_service` does next. -/
theorem Course.of_moved {action : ServiceAction T E}
    (kind : run.execution.kind = .service true) (here : run.execution.body = .running phase)
    (allowed : phase.ofService = true) (moved : BodyMoved spec run after phase action) :
    run.Course phase action after := by
  cases moved with
  | enter goes | launch goes => exact .of_goes goes rfl allowed rfl id
  | cancelled goes => exact .of_goes goes rfl rfl rfl id
  | @unwind generation stops message now unwinds =>
    obtain rfl : stops = false := by simpa [Phase.ofService] using allowed
    exact .of_panicked unwinds here (Or.inl rfl) rfl Iff.rfl
  | @bodyJoined turn job result goes =>
    cases turn with
    | generation generation stops =>
      obtain rfl : stops = false := by simpa [Phase.ofService] using allowed
      exact .of_goes goes rfl rfl rfl id
    | _ => cases allowed
  | @callHook turn job next hooks goes =>
    obtain rfl := hooks.resolve_right fun unhooked => unhooked.2 kind
    cases turn with
    | generation generation stops => exact .of_goes goes rfl allowed rfl id
    | _ => cases allowed
  | @hookPanics turn | @awaitHook turn =>
    rename_i goes
    cases turn with
    | generation generation stops => exact .of_goes goes rfl allowed rfl id
    | _ => cases allowed
  | @join turn job result goes =>
    cases turn with
    | generation generation stops =>
      obtain rfl : stops = true := allowed
      exact .of_goes goes rfl rfl rfl id
    | _ => cases allowed
  | stopped _ returns =>
    refine .of_finish returns rfl here (Or.inr (Or.inl rfl)) rfl (Or.inl ⟨rfl, ?_⟩)
    rintro ⟨-, unstopped⟩
    rw [here] at unstopped
    cases unstopped
  | decide _ decides =>
    refine .of_afterBody decides here rfl ⟨And.left, fun cancelled => ⟨cancelled, ?_⟩⟩
    rw [here]
    rfl
  | interrupted _ returns =>
    refine .of_finish returns rfl here (Or.inr (Or.inr rfl)) rfl (Or.inr ⟨rfl, ?_⟩)
    exact fun cancelled => ⟨cancelled, Or.inl rfl⟩
  | @wake generation stops cause turn _ following goes =>
    obtain rfl : stops = false := by simpa [Phase.ofService] using allowed
    obtain ⟨number, -, rfl⟩ := Option.map_eq_some_iff.1 following
    refine .of_goes goes rfl rfl rfl ?_
    rintro ⟨-, cut | overflow⟩
    · cases cut
    · rw [here, BodyTask.settling, Option.any_some, following] at overflow
      cases overflow
  | overflow _ last returns =>
    refine .of_finish returns rfl here (Or.inr (Or.inr rfl)) rfl (Or.inr ⟨rfl, ?_⟩)
    refine fun cancelled => ⟨cancelled, Or.inr ?_⟩
    rw [here, BodyTask.settling, Option.any_some, last]
    rfl

/-- What the body of a service does by itself. -/
theorem Course.of_foreign (kind : run.execution.kind = .service true)
    (here : run.execution.body = .running phase) (allowed : phase.ofService = true)
    (foreign : run.isForeign (.body .proceed) = true) {execution : Supervised T E}
    (step : run.execution.step (.body .proceed) = some execution) :
    run.Course phase (.execution (.body .proceed)) { run with execution := execution } := by
  obtain ⟨next, moved, body, sameKind, sameStop⟩ := foreign_of_step kind here foreign step
  cases moved with
  | start => exact .goes sameKind sameStop body rfl rfl id
  | @leave turn | @closed turn | @await turn =>
    cases turn with
    | generation generation stops => exact .goes sameKind sameStop body rfl rfl id
    | _ => cases allowed

end ServiceRun

/-! ## The stop cause -/

namespace Supervised

variable {state after : Supervised T E}

theorem stopCause_commit (state : Supervised T E) (exit : TaskExit T E) :
    (state.commit exit).core.stopCause = state.core.stopCause := by
  unfold commit CoreState.commit
  split_ifs <;> rfl

/-- The runner leaves the stop cause, and the kind. -/
theorem RunnerMoved.kept (moved : RunnerMoved state after) :
    after.core.stopCause = state.core.stopCause ∧ after.kind = state.kind := by
  cases moved with
  | claim here claimed =>
    obtain ⟨-, -, rfl⟩ := CoreState.claimStart_eq_some.1 claimed
    exact ⟨rfl, rfl⟩
  | retire here =>
    obtain ⟨core, commit⟩ := state.commit_eq (.executorStopped .runnerCancelled)
    have kept := state.stopCause_commit (.executorStopped .runnerCancelled)
    rw [commit] at kept ⊢
    exact ⟨kept, rfl⟩
  | @finish exit here =>
    obtain ⟨core, commit⟩ := state.commit_eq exit
    have kept := state.stopCause_commit exit
    rw [commit] at kept ⊢
    exact ⟨kept, rfl⟩
  | _ => exact ⟨rfl, rfl⟩

/-- The runner leaves the body alone, except that it spawns it. -/
theorem RunnerMoved.body (moved : RunnerMoved state after) :
    after.body = state.body ∨ state.runner = .claimed ∧ after.body = .running .spawned := by
  cases moved with
  | spawn here => exact Or.inr ⟨here, rfl⟩
  | retire here =>
    obtain ⟨core, commit⟩ := state.commit_eq (.executorStopped .runnerCancelled)
    rw [commit]
    exact Or.inl rfl
  | @finish exit here =>
    obtain ⟨core, commit⟩ := state.commit_eq exit
    rw [commit]
    exact Or.inl rfl
  | _ => exact Or.inl rfl

/-- What happens beside the two tasks leaves the body, and a stop that was accepted. -/
structure Beside (state after : Supervised T E) : Prop where
  kind : after.kind = state.kind
  body : after.body = state.body
  stop : state.core.stopCause.isSome = true → after.core.stopCause.isSome = true

theorem Beside.refl (state : Supervised T E) : Beside state state := ⟨rfl, rfl, id⟩

theorem Beside.of_step {action : SupervisedAction T E} (step : state.step action = some after)
    (runner : ∀ choice, action ≠ .runner choice) (body : ∀ choice, action ≠ .body choice)
    (unwind : ∀ message, action ≠ .unwind message) (abort : action ≠ .abortBody) :
    Beside state after := by
  cases action with
  | runner choice => exact (runner choice rfl).elim
  | body choice => exact (body choice rfl).elim
  | unwind message => exact (unwind message rfl).elim
  | abortBody => exact (abort rfl).elim
  | dropStart =>
    simp only [Supervised.step] at step
    split at step
    · rename_i here
      obtain rfl := Option.some.inj step
      obtain ⟨core, commit⟩ := state.commit_eq (.executorStopped .runnerCancelled)
      have kept := state.stopCause_commit (.executorStopped .runnerCancelled)
      rw [commit] at kept ⊢
      exact ⟨rfl, rfl, fun stopped => kept ▸ stopped⟩
    · cases step
  | jobEnds job =>
    obtain ⟨-, same⟩ := Option.ite_none_right_eq_some.1 step
    exact Option.some.inj same ▸ ⟨rfl, rfl, id⟩
  | jobDropped job =>
    obtain ⟨-, same⟩ := Option.ite_none_right_eq_some.1 step
    exact Option.some.inj same ▸ ⟨rfl, rfl, id⟩
  | requestStop cause =>
    obtain rfl := Option.some.inj step
    refine ⟨rfl, rfl, fun stopped => ?_⟩
    simp only [CoreState.requestStop]
    split_ifs <;> simp_all
  | report next =>
    obtain ⟨-, same⟩ := Option.ite_none_right_eq_some.1 step
    obtain rfl := Option.some.inj same
    refine ⟨rfl, rfl, fun stopped => ?_⟩
    cases reported : state.core.setActiveState next with
    | none => exact stopped
    | some core =>
      obtain ⟨-, -, rfl⟩ := CoreState.setActiveState_eq_some.1 reported
      exact stopped
  | checkForced =>
    simp only [Supervised.step] at step
    split at step
    · exact Option.some.inj step ▸ ⟨rfl, rfl, id⟩
    · exact Option.some.inj step ▸ .refl state
  | swapForced =>
    obtain ⟨-, same⟩ := Option.ite_none_right_eq_some.1 step
    obtain rfl := Option.some.inj same
    unfold Supervised.swapForced
    split <;> exact ⟨rfl, rfl, id⟩
  | callAbort =>
    obtain ⟨-, same⟩ := Option.ite_none_right_eq_some.1 step
    exact Option.some.inj same ▸ ⟨rfl, rfl, id⟩
  | spawnChild attempt available =>
    obtain ⟨-, step⟩ := Option.ite_none_right_eq_some.1 step
    cases spawned : state.spawnChild attempt available with
    | error error =>
      rw [spawned] at step
      exact Option.some.inj step ▸ .refl state
    | ok grown =>
      rw [spawned] at step
      obtain rfl := Option.some.inj step
      unfold Supervised.spawnChild at spawned
      split at spawned
      · exact Except.ok.inj spawned ▸ ⟨rfl, rfl, id⟩
      · cases spawned
  | childEnds child =>
    obtain ⟨-, same⟩ := Option.ite_none_right_eq_some.1 step
    exact Option.some.inj same ▸ ⟨rfl, rfl, id⟩

/-- A stop request finds the execution stopped, or stops it. -/
theorem stopped_of_requestStop {cause : StopCauseSummary} (open_ : state.core.terminal = none) :
    (state.core.requestStop cause).2.stopCause.isSome = true := by
  unfold CoreState.requestStop
  rw [if_neg (by simp [open_])]
  split_ifs with stopped
  · exact stopped
  · rfl

end Supervised

namespace ServiceRun

variable {spec : ServiceSpec} {run after : ServiceRun T E} {phase : Phase} {calls : Nat}
  {missed asked : Prop} {action : ServiceAction T E}

/-! ## The invariant -/

/-- While the body runs the hook was called as often as its phase says and no stop was missed;
when it has ended, a stop that was accepted was met once or missed. -/
structure HookInv (calls : Nat) (missed asked : Prop) (run : ServiceRun T E) : Prop where
  structured : run.execution.StructuredInv
  forced : run.execution.ForcedInv
  kind : run.execution.kind = .service true
  absent : run.execution.body = .absent → calls = 0 ∧ ¬ missed ∧ ¬ asked
  running : ∀ phase, run.execution.body = .running phase → phase.ofService = true ∧
    calls = phase.hookCalls ∧ ¬ missed ∧ (asked → run.isCancelled = true)
  ended : ∀ joined, run.execution.body = .ended joined → asked →
    calls = 1 ∧ ¬ missed ∨ calls = 0 ∧ missed

/-- A running body belongs to an execution that is not terminal. -/
theorem HookInv.unfinished (inv : run.HookInv calls missed asked)
    (here : run.execution.body = .running phase) : run.execution.core.terminal = none := by
  have running : run.execution.body.isRunning = true := by rw [here]; rfl
  have stage := inv.structured.stage
  cases runner : run.execution.runner with
  | installing | joining | dropping =>
    rw [runner] at stage
    exact stage
  | waiting | refused =>
    rw [runner] at stage
    exact stage.2
  | claimed | joined | cleared | exiting | closing =>
    rw [runner] at stage
    exact stage.2
  | committed =>
    rw [runner] at stage
    exact absurd running (Bool.eq_false_iff.1 stage.1.body)
  | retired =>
    rw [runner] at stage
    exact absurd running (Bool.eq_false_iff.1 stage.body)

namespace HookInv

theorem new (hook : spec.shutdownHook = true) (maximumChildren : Nat) :
    (ServiceRun.new spec maximumChildren : ServiceRun T E).HookInv 0 False False where
  structured := .new _ _ _
  forced := .new _ _ _
  kind := by simp [ServiceRun.new, Supervised.new, hook]
  absent := fun _ => ⟨rfl, id, id⟩
  running := fun _ absurd => by cases absurd
  ended := fun _ absurd => by cases absurd

/-- A step beside the body; a stop is accepted only while the body runs. -/
theorem beside {asked' : Prop} (inv : run.HookInv calls missed asked)
    (structured : after.execution.StructuredInv) (forced : after.execution.ForcedInv)
    (beside : Supervised.Beside run.execution after.execution)
    (asks : asked' → asked ∨
      run.execution.body.isRunning = true ∧ after.isCancelled = true) :
    after.HookInv calls missed asked' where
  structured := structured
  forced := forced
  kind := beside.kind.trans inv.kind
  absent := by
    intro absent
    rw [beside.body] at absent
    obtain ⟨none_called, unmissed, unasked⟩ := inv.absent absent
    refine ⟨none_called, unmissed, fun isAsked => ?_⟩
    rcases asks isAsked with before | ⟨running, -⟩
    · exact unasked before
    · rw [absent] at running
      cases running
  running := by
    intro phase here
    rw [beside.body] at here
    obtain ⟨allowed, called, unmissed, stops⟩ := inv.running phase here
    refine ⟨allowed, called, unmissed, fun isAsked => ?_⟩
    rcases asks isAsked with before | ⟨-, cancelled⟩
    · exact beside.stop (stops before)
    · exact cancelled
  ended := by
    intro joined here isAsked
    rw [beside.body] at here
    rcases asks isAsked with before | ⟨running, -⟩
    · exact inv.ended joined here before
    · rw [here] at running
      cases running

/-- A step of the body. -/
theorem course (inv : run.HookInv calls missed asked)
    (here : run.execution.body = .running phase) (course : run.Course phase action after)
    (structured : after.execution.StructuredInv) (forced : after.execution.ForcedInv) :
    after.HookInv (calls + hookCalls [action]) (missed ∨ run.Missed action) asked := by
  obtain ⟨-, called, unmissed, stops⟩ := inv.running phase here
  obtain ⟨kind, stop, goes⟩ := course
  refine ⟨structured, forced, kind.trans inv.kind, ?_, ?_, ?_⟩
  · intro absent
    rcases goes with ⟨phase', body, -⟩ | ⟨⟨joined, body⟩, -⟩
    · rw [body] at absent
      cases absent
    · rw [body] at absent
      cases absent
  · intro other there
    rcases goes with ⟨phase', body, allowed, counted, met⟩ | ⟨⟨joined, body⟩, -⟩
    · rw [body] at there
      obtain rfl := BodyTask.running.inj there
      refine ⟨allowed, by rw [counted, called], fun miss => miss.elim unmissed met, ?_⟩
      intro isAsked
      rw [isCancelled, stop]
      exact stops isAsked
    · rw [body] at there
      cases there
  · intro joined there isAsked
    rcases goes with ⟨phase', body, -⟩ | ⟨-, silent, ⟨once, met⟩ | ⟨never, missing⟩⟩
    · rw [body] at there
      cases there
    · exact Or.inl ⟨by omega, fun miss => miss.elim unmissed met⟩
    · exact Or.inr ⟨by omega, Or.inr (missing (stops isAsked))⟩

/-- The runner. -/
theorem runner {execution : Supervised T E} (inv : run.HookInv calls missed asked)
    (moved : Supervised.RunnerMoved run.execution execution)
    (structured : execution.StructuredInv) (forced : execution.ForcedInv) :
    ({ run with execution := execution } : ServiceRun T E).HookInv calls missed asked := by
  obtain ⟨stop, kind⟩ := moved.kept
  rcases moved.body with body | ⟨claimed, body⟩
  · exact inv.beside structured forced ⟨kind, body, fun stopped => by rwa [stop]⟩ Or.inl
  · have absent : run.execution.body = .absent := inv.forced.unborn (by rw [claimed]; rfl)
    obtain ⟨none_called, unmissed, unasked⟩ := inv.absent absent
    refine ⟨structured, forced, kind.trans inv.kind, ?_, ?_, ?_⟩
    · intro still
      rw [body] at still
      cases still
    · intro phase here
      rw [body] at here
      obtain rfl := BodyTask.running.inj here
      exact ⟨rfl, none_called, unmissed, fun isAsked => absurd isAsked unasked⟩
    · intro joined here
      rw [body] at here
      cases here

theorem congr {calls' : Nat} {missed' asked' : Prop} (inv : run.HookInv calls missed asked)
    (sameCalls : calls = calls') (sameMissed : missed ↔ missed') (sameAsked : asked ↔ asked') :
    run.HookInv calls' missed' asked' := by
  rwa [← sameCalls, ← propext sameMissed, ← propext sameAsked]

/-- What the execution does by itself. -/
theorem execution {move : SupervisedAction T E} {execution : Supervised T E}
    (inv : run.HookInv calls missed asked) (unforced : move ≠ .abortBody)
    (alive : ∀ message, move ≠ .unwind message) (foreign : run.isForeign move = true)
    (step : run.execution.step move = some execution) :
    ({ run with execution := execution } : ServiceRun T E).HookInv calls missed
      (asked ∨ run.Asked (.execution move)) := by
  have stepped := Supervised.Stepped.of_step step
  have structured : execution.StructuredInv := by
    refine inv.structured.step ?_ stepped
    cases move with
    | abortBody => exact absurd rfl unforced
    | _ => trivial
  have forced : execution.ForcedInv := by
    refine inv.forced.step ?_ stepped
    cases move with
    | abortBody => exact absurd rfl unforced
    | _ => trivial
  have beside (runner body) : ({ run with execution := execution } : ServiceRun T E).HookInv calls
      missed asked :=
    inv.beside structured forced (.of_step step runner body alive unforced) Or.inl
  cases move with
  | abortBody => exact absurd rfl unforced
  | unwind message => exact absurd rfl (alive message)
  | runner choice =>
    cases choice with
    | proceed =>
      have moves : run.execution.runnerStep .proceed = some execution := step
      exact (inv.runner (.of_runnerStep moves) structured forced).congr rfl Iff.rfl
        (or_iff_left id).symm
    | _ => cases foreign
  | body choice =>
    cases choice with
    | proceed =>
      cases here : run.execution.body with
      | running phase =>
        have allowed := (inv.running phase here).1
        exact (inv.course here (.of_foreign inv.kind here allowed foreign step) structured
          forced).congr rfl (or_iff_left id) (or_iff_left id).symm
      | _ =>
        simp only [Supervised.step, Supervised.bodyStep, here] at step
        cases step
    | _ => cases foreign
  | requestStop cause =>
    refine inv.beside structured forced (.of_step step (by simp) (by simp) alive unforced) ?_
    refine Or.imp_right fun accepted => ⟨accepted.2, ?_⟩
    obtain rfl := Option.some.inj step
    cases here : run.execution.body with
    | running phase => exact Supervised.stopped_of_requestStop (inv.unfinished here)
    | _ =>
      have running := accepted.2
      rw [here] at running
      cases running
  | _ => exact (beside (by simp) (by simp)).congr rfl Iff.rfl (or_iff_left id).symm

/-- **Step lemma.** -/
theorem step (inv : run.HookInv calls missed asked) (unforced : action ≠ .execution .abortBody)
    (alive : ∀ message, action ≠ .execution (.unwind message))
    (step : run.step spec action = some after) :
    after.HookInv (calls + hookCalls [action]) (missed ∨ run.Missed action)
      (asked ∨ run.Asked action) := by
  cases Moved.of_step step with
  | check | report =>
    exact congr (inv.beside inv.structured inv.forced (.refl run.execution) Or.inl) rfl
      (or_iff_left id).symm (or_iff_left id).symm
  | execution foreign moves =>
    refine (inv.execution ?_ ?_ foreign moves).congr rfl (or_iff_left id).symm Iff.rfl
    · rintro rfl
      exact unforced rfl
    · rintro message rfl
      exact alive message rfl
  | @body _ phase _ here moved =>
    obtain ⟨choice, moves⟩ := moved.proceeds
    have stepped := Supervised.Stepped.of_step moves
    have allowed := (inv.running phase here).1
    have emptyHanded : run.execution.AbortsEmptyHanded (.body choice) := trivial
    have alone : run.execution.AbortsAlone (.body choice) := trivial
    exact (inv.course here (.of_moved inv.kind here allowed moved)
      (inv.structured.step emptyHanded stepped) (inv.forced.step alone stepped)).congr rfl
        Iff.rfl (or_iff_left moved.not_asked).symm

end HookInv

end ServiceRun

/-! ## The result -/

open ServiceRun

section Service

variable {spec : ServiceSpec} {maximumChildren : Nat} {run : ServiceRun T E}
  {actions : List (ServiceAction T E)}

/-- **Run lemma.** -/
theorem hookInv_of_run (hook : spec.shutdownHook = true)
    (ran : (service T E spec maximumChildren).exec (service T E spec maximumChildren).init actions =
      some run)
    (unforced : .execution .abortBody ∉ actions)
    (alive : ∀ message, .execution (.unwind message) ∉ actions) :
    run.HookInv (hookCalls actions)
      ((service T E spec maximumChildren).Happened Missed (service T E spec maximumChildren).init
        actions)
      ((service T E spec maximumChildren).Happened Asked (service T E spec maximumChildren).init
        actions) := by
  revert unforced alive
  refine System.exec_invariant (I := fun actions run => .execution .abortBody ∉ actions →
    (∀ message, .execution (.unwind message) ∉ actions) → run.HookInv (hookCalls actions)
      ((service T E spec maximumChildren).Happened Missed (service T E spec maximumChildren).init
        actions)
      ((service T E spec maximumChildren).Happened Asked (service T E spec maximumChildren).init
        actions)) ?_ ?_ ran
  · intro _ _
    exact (HookInv.new hook maximumChildren).congr rfl (iff_of_false id System.not_happened_nil)
      (iff_of_false id System.not_happened_nil)
  · intro before x y action reached ih taken unforced alive
    have inv := ih (fun member => unforced (List.mem_append_left _ member))
      (fun message member => alive message (List.mem_append_left _ member))
    have step : x.step spec action = some y := taken
    refine (inv.step ?_ ?_ step).congr ?_ (System.happened_snoc reached).symm
      (System.happened_snoc reached).symm
    · rintro rfl
      exact unforced (List.mem_append_right _ List.mem_cons_self)
    · rintro message rfl
      exact alive message (List.mem_append_right _ List.mem_cons_self)
    · exact (List.countP_append).symm

/-- **Main result.**  In a run that is not forced, and with a runtime that lives, a service that
was asked to stop has called its hook exactly once by the time it is terminal, unless the stop
was missed: then it has not called it at all. -/
theorem hook_called_once_iff (hook : spec.shutdownHook = true)
    (ran : (service T E spec maximumChildren).exec (service T E spec maximumChildren).init actions =
      some run)
    (unforced : .execution .abortBody ∉ actions)
    (alive : ∀ message, .execution (.unwind message) ∉ actions)
    (asked : (service T E spec maximumChildren).Happened Asked
      (service T E spec maximumChildren).init actions)
    (terminal : run.execution.core.terminal ≠ none) :
    hookCalls actions = 1 ↔ ¬ (service T E spec maximumChildren).Happened Missed
      (service T E spec maximumChildren).init actions := by
  have inv := hookInv_of_run hook ran unforced alive
  cases here : run.execution.body with
  | absent => exact absurd asked (inv.absent here).2.2
  | running phase => exact absurd (inv.unfinished here) terminal
  | ended joined =>
    rcases inv.ended joined here asked with ⟨once, met⟩ | ⟨never, missed⟩
    · exact ⟨fun _ => met, fun _ => once⟩
    · exact ⟨fun once => by omega, fun met => absurd missed met⟩

end Service

/-! ### A stop that is met, and one that is missed -/

/-- A service with a hook. -/
def hookedService : ServiceSpec :=
  { ServiceBuilder.new with
    shutdownHook := true
    required := fun triggered => absurd rfl triggered
    budget := by
      intro policy member
      cases member
    window := by
      intro policy member
      cases member
    timeout := Nat.succ_ne_zero 4_999_999_999 }

/-- Up to the start of the first body. -/
def startedService : List (ServiceAction Unit Unit) :=
  [.execution (.runner .proceed), .execution (.runner .proceed), .execution (.runner .proceed),
    .execution (.body .proceed), .enter, .factory none 0]

/-- From the end of the body's loop to the terminal exit. -/
def concludedService : List (ServiceAction Unit Unit) :=
  [.execution (.body .proceed), .execution (.body .proceed), .decide 0,
    .execution (.runner .proceed), .execution (.runner .proceed), .execution (.runner .proceed),
    .execution (.runner .proceed), .execution (.runner .proceed)]

/-- The stop finds the body running. -/
def stopMet : List (ServiceAction Unit Unit) :=
  startedService ++ .execution (.requestStop (.cancel .userRequested)) ::
    ([.cancelled, .callHook false, .execution (.jobEnds 1), .awaitHook (some (.returned ())),
      .execution (.jobEnds 0), .join (.returned ())] ++ concludedService)

/-- The stop finds the body joined. -/
def stopMissed : List (ServiceAction Unit Unit) :=
  (startedService ++ [.execution (.jobEnds 0), .bodyJoined (.returned ())]) ++
    .execution (.requestStop (.cancel .userRequested)) :: concludedService

theorem hook_called_once_met :
    hookCalls stopMet = 1 ∧ ¬ (service Unit Unit hookedService 0).Happened Missed
      (service Unit Unit hookedService 0).init stopMet := by
  have ran : ((service Unit Unit hookedService 0).exec (service Unit Unit hookedService 0).init
      stopMet).map (fun run => run.execution.core.terminal) =
        some (some (.cancelled .userRequested)) := by decide +kernel
  obtain ⟨run, exec, terminal⟩ := Option.map_eq_some_iff.1 ran
  have started : ((service Unit Unit hookedService 0).exec
      (service Unit Unit hookedService 0).init startedService).map
        (fun run => (run.execution.core.stopCause, run.execution.body.isRunning)) =
      some (none, true) := by decide +kernel
  obtain ⟨before, reached, open_⟩ := Option.map_eq_some_iff.1 started
  have asked : (service Unit Unit hookedService 0).Happened Asked
      (service Unit Unit hookedService 0).init stopMet :=
    ⟨startedService, _, _, before, rfl, reached, Prod.mk.inj open_⟩
  have calls : hookCalls stopMet = 1 := by decide +kernel
  refine ⟨calls, (hook_called_once_iff rfl exec ?_ ?_ asked ?_).1 calls⟩
  · simp [stopMet, startedService, concludedService]
  · simp [stopMet, startedService, concludedService]
  · rw [terminal]
    exact Option.some_ne_none _

/-- A stop that is accepted after the first body was joined, and before the service has
decided: the service ends and the hook is never called. -/
theorem hook_never_called :
    ∃ run before, (service Unit Unit hookedService 0).exec
        (service Unit Unit hookedService 0).init stopMissed = some run ∧
      run.execution.core.terminal = some (.cancelled .userRequested) ∧
      (service Unit Unit hookedService 0).exec (service Unit Unit hookedService 0).init
        (startedService ++ [.execution (.jobEnds 0), .bodyJoined (.returned ())]) = some before ∧
      before.Asked (.execution (.requestStop (.cancel .userRequested))) ∧
      hookCalls stopMissed = 0 := by
  have ran : ((service Unit Unit hookedService 0).exec (service Unit Unit hookedService 0).init
      stopMissed).map (fun run => run.execution.core.terminal) =
        some (some (.cancelled .userRequested)) := by decide +kernel
  obtain ⟨run, exec, terminal⟩ := Option.map_eq_some_iff.1 ran
  have started : ((service Unit Unit hookedService 0).exec
      (service Unit Unit hookedService 0).init
      (startedService ++ [.execution (.jobEnds 0), .bodyJoined (.returned ())])).map
        (fun run => (run.execution.core.stopCause, run.execution.body.isRunning)) =
      some (none, true) := by decide +kernel
  obtain ⟨before, reached, open_⟩ := Option.map_eq_some_iff.1 started
  exact ⟨run, before, exec, terminal, reached, Prod.mk.inj open_, by decide +kernel⟩

end BusyBeaver
