import BusyBeaver.Supervision.Moves

/-!
# What a forced cancellation leaves behind

The abort handle of an execution is that of its body task.  Dropping the body drops the
user's future only where the body is that future; a supervisor drops a handle, and a
plain `JoinHandle` detaches its task while `AbortOnDrop` asks it to stop and does not
wait.
-/

namespace BusyBeaver

open Transition

variable {T E : Type}

namespace RunnerTask

/-- What the runner heard from its join handle. -/
def heard : RunnerTask T E → Option (Joined T E)
  | .joined result | .cleared result => result
  | _ => none

/-- The exit the runner is about to commit. -/
def proposed : RunnerTask T E → Option (TaskExit T E)
  | .exiting exit | .closing exit _ => some exit
  | _ => none

/-- The body task is not spawned yet. -/
def early : RunnerTask T E → Bool
  | .waiting | .refused | .claimed => true
  | _ => false

end RunnerTask

namespace Supervised

variable {state after : Supervised T E}

/-- The abort of the body finds none of the tasks it spawned unfinished. -/
def AbortsAlone (state : Supervised T E) : SupervisedAction T E → Prop
  | .abortBody => state.jobs = ∅
  | _ => True

instance (state : Supervised T E) : DecidablePred state.AbortsAlone
  | .abortBody => inferInstanceAs (Decidable (state.jobs = ∅))
  | .dropStart | .runner _ | .body _ | .unwind _ | .jobEnds _ | .jobDropped _
  | .requestStop _ | .report _ | .checkForced | .swapForced | .callAbort
  | .spawnChild _ _ | .childEnds _ => isTrue trivial

/-- An aborted body left no job, and only its abort can become the execution's exit. -/
structure ForcedInv (state : Supervised T E) : Prop where
  alone : state.body.isCancelled = true → state.jobs = ∅
  unborn : state.runner.early = true → state.body = .absent
  heard : ∀ result, state.runner.heard = some result → state.body = .ended result
  proposed : ∀ exit, state.runner.proposed = some exit → exit.isAborted = true →
    state.body.isCancelled = true
  published : ∀ cause, state.core.terminal = some (.aborted cause) →
    state.body.isCancelled = true

namespace ForcedInv

theorem new (kind : Kind) (abortPolicy : AbortPolicy) (maximumChildren : Nat) :
    (Supervised.new kind abortPolicy maximumChildren : Supervised T E).ForcedInv where
  alone := by intro cancelled; cases cancelled
  unborn := fun _ => rfl
  heard := by intro result heard; cases heard
  proposed := by intro exit proposed; cases proposed
  published := by intro cause published; cases published

/-- Steps that change neither task keep the invariant. -/
theorem still (inv : state.ForcedInv) (step : Still state after) : after.ForcedInv where
  alone := by
    intro cancelled
    rw [step.body] at cancelled
    exact Finset.subset_empty.1 (inv.alone cancelled ▸ step.jobs)
  unborn := by
    rw [step.runner, step.body]
    exact inv.unborn
  heard := by
    rw [step.runner, step.body]
    exact inv.heard
  proposed := by
    rw [step.runner, step.body]
    exact inv.proposed
  published := by
    rw [step.terminal, step.body]
    exact inv.published

/-- A body that ends, in whatever way, was running, so nothing was heard, proposed or
published as aborted before. -/
theorem bodyChanged (inv : state.ForcedInv) (running : state.body.isRunning = true)
    (runner : after.runner = state.runner)
    (terminal : after.core.terminal = state.core.terminal)
    (alone : after.body.isCancelled = true → after.jobs = ∅) : after.ForcedInv := by
  have notCancelled : state.body.isCancelled = false := by
    cases body : state.body with
    | running phase => rfl
    | _ => simp [body, BodyTask.isRunning] at running
  constructor
  · exact alone
  · intro early
    rw [inv.unborn (runner ▸ early)] at running
    cases running
  · intro result heard
    rw [inv.heard result (runner ▸ heard)] at running
    cases running
  · intro exit proposed aborted
    have cancelled := inv.proposed exit (runner ▸ proposed) aborted
    rw [notCancelled] at cancelled
    cases cancelled
  · intro cause published
    have cancelled := inv.published cause (terminal ▸ published)
    rw [notCancelled] at cancelled
    cases cancelled

theorem isAborted_exitOf {result : Option (Joined T E)}
    (aborted : (state.exitOf result).isAborted = true) : result = some .cancelled := by
  unfold exitOf at aborted
  split at aborted
  · cases aborted
  · rename_i returned
    rw [returned.notAborted] at aborted
    cases aborted
  · rw [isAborted_panicExit] at aborted
    cases aborted
  · rfl

/-- A move of the runner that leaves the body, the jobs and the summary alone. -/
theorem runnerChanged (inv : state.ForcedInv) {runner : RunnerTask T E}
    (body : after.body = state.body) (jobs : after.jobs = state.jobs)
    (terminal : after.core.terminal = state.core.terminal) (moved : after.runner = runner)
    (early : runner.early = true → state.runner.early = true)
    (heard : ∀ result, runner.heard = some result → state.body = .ended result)
    (proposed : ∀ exit, runner.proposed = some exit → exit.isAborted = true →
      state.body.isCancelled = true) : after.ForcedInv where
  alone := by
    rw [body, jobs]
    exact inv.alone
  unborn := by
    rw [body, moved]
    exact fun isEarly => inv.unborn (early isEarly)
  heard := by
    rw [body, moved]
    exact heard
  proposed := by
    rw [body, moved]
    exact proposed
  published := by
    rw [body, terminal]
    exact inv.published

/-- A commit, of an exit whose abort is the body's. -/
theorem committed (inv : state.ForcedInv) {exit : TaskExit T E} {runner : RunnerTask T E}
    (own : exit.isAborted = true → state.body.isCancelled = true)
    (late : runner.early = false) (silent : runner.heard = none)
    (done : runner.proposed = none) :
    ({ state.commit exit with runner := runner } : Supervised T E).ForcedInv := by
  have published : ∀ cause, (state.commit exit).core.terminal = some (.aborted cause) →
      state.body.isCancelled = true := by
    intro cause terminal
    rcases aborted_of_commit terminal with aborted | before
    · exact own aborted
    · exact inv.published cause before
  obtain ⟨core, commit⟩ := state.commit_eq exit
  rw [commit] at published ⊢
  exact
    { alone := inv.alone
      unborn := by rw [late]; intro early; cases early
      heard := by rw [silent]; intro result heard; cases heard
      proposed := by rw [done]; intro exit proposed; cases proposed
      published := published }

theorem runner (inv : state.ForcedInv) (moved : RunnerMoved state after) :
    after.ForcedInv := by
  have unheard {runner : RunnerTask T E} (silent : runner.heard = none) :
      ∀ result, runner.heard = some result → state.body = .ended result := by
    rw [silent]
    intro result heard
    cases heard
  have unproposed {runner : RunnerTask T E} (silent : runner.proposed = none) :
      ∀ exit, runner.proposed = some exit → exit.isAborted = true →
        state.body.isCancelled = true := by
    rw [silent]
    intro exit proposed
    cases proposed
  cases moved with
  | claim here claimed =>
    obtain ⟨before, now⟩ := CoreState.terminal_claimStart claimed
    exact inv.runnerChanged rfl rfl (now.trans before.symm) rfl (fun _ => by rw [here]; rfl)
      (unheard rfl) (unproposed rfl)
  | refuse here =>
    exact inv.runnerChanged rfl rfl rfl rfl (fun _ => by rw [here]; rfl) (unheard rfl)
      (unproposed rfl)
  | retire here =>
    exact inv.committed (by intro aborted; cases aborted) rfl rfl rfl
  | unwound message here =>
    refine inv.runnerChanged rfl rfl rfl rfl (by intro early; cases early) (unheard rfl) ?_
    intro exit proposed aborted
    obtain rfl := Option.some.inj proposed
    cases aborted
  | spawn here =>
    have absent : state.body = .absent := inv.unborn (by rw [here]; rfl)
    constructor
    · intro cancelled
      cases cancelled
    · intro early
      cases early
    · intro result heard
      cases heard
    · intro exit proposed
      cases proposed
    · intro cause published
      have cancelled := inv.published cause published
      rw [absent] at cancelled
      cases cancelled
  | install here =>
    exact inv.runnerChanged rfl rfl rfl rfl (by intro early; cases early) (unheard rfl)
      (unproposed rfl)
  | hear here finished =>
    refine inv.runnerChanged rfl rfl rfl rfl (by intro early; cases early) ?_ (unproposed rfl)
    intro result heard
    obtain rfl := Option.some.inj heard
    exact finished
  | drop here =>
    exact inv.runnerChanged rfl rfl rfl rfl (by intro early; cases early) (unheard rfl)
      (unproposed rfl)
  | dropped here finished =>
    exact inv.runnerChanged rfl rfl rfl rfl (by intro early; cases early) (unheard rfl)
      (unproposed rfl)
  | clear here =>
    refine inv.runnerChanged rfl rfl rfl rfl (by intro early; cases early) ?_ (unproposed rfl)
    intro result heard
    exact inv.heard result (by rw [here]; exact heard)
  | propose here =>
    refine inv.runnerChanged rfl rfl rfl rfl (by intro early; cases early) (unheard rfl) ?_
    intro exit proposed aborted
    obtain rfl := Option.some.inj proposed
    obtain rfl := isAborted_exitOf aborted
    have finished : state.body = .ended .cancelled := inv.heard .cancelled (by rw [here]; rfl)
    rw [finished]
    rfl
  | close here =>
    refine inv.runnerChanged rfl rfl rfl rfl (by intro early; cases early) (unheard rfl) ?_
    intro exit proposed
    exact inv.proposed exit (by rw [here]; exact proposed)
  | await here terminal =>
    refine inv.runnerChanged rfl rfl rfl rfl (by intro early; cases early) (unheard rfl) ?_
    intro exit proposed
    exact inv.proposed exit (by rw [here]; exact proposed)
  | finish here =>
    exact inv.committed (inv.proposed _ (by rw [here]; rfl)) rfl rfl rfl

theorem step (inv : state.ForcedInv) {action : SupervisedAction T E}
    (alone : state.AbortsAlone action) (stepped : Stepped state action after) :
    after.ForcedInv := by
  cases stepped with
  | runner moved => exact inv.runner moved
  | body moved =>
    refine inv.bodyChanged moved.running moved.runner moved.terminal ?_
    rw [moved.returned]
    intro cancelled
    cases cancelled
  | unwound message here free =>
    refine inv.bodyChanged (by rw [here]; rfl) rfl rfl ?_
    intro cancelled
    cases cancelled
  | aborted here => exact inv.bodyChanged (by rw [here]; rfl) rfl rfl fun _ => alone
  | still same => exact inv.still same
  | childSpawned context opened =>
    exact ⟨inv.alone, inv.unborn, inv.heard, inv.proposed, inv.published⟩
  | childEnded => exact ⟨inv.alone, inv.unborn, inv.heard, inv.proposed, inv.published⟩

end ForcedInv

end Supervised

variable {kind : Kind} {abortPolicy : AbortPolicy} {maximumChildren : Nat}

/-- **A published abort leaves no user code behind**, in every run whose aborts find no
task spawned by the body unfinished: the body is dropped and nothing it spawned runs. -/
theorem forced_leaves_nothing {state : Supervised T E} {cause : Option StopCauseSummary}
    (reached : (supervision T E kind abortPolicy maximumChildren).Reaches
      Supervised.AbortsAlone (.new kind abortPolicy maximumChildren) state)
    (published : state.core.terminal = some (.aborted cause)) :
    state.jobs = ∅ ∧ state.body.isRunning = false := by
  have inv : state.ForcedInv := by
    refine reached.invariant (.new kind abortPolicy maximumChildren) ?_
    intro before after action inv alone step
    exact inv.step alone (.of_step step)
  have cancelled := inv.published cause published
  refine ⟨inv.alone cancelled, ?_⟩
  cases body : state.body with
  | ended joined => rfl
  | _ => simp [body, BodyTask.isCancelled] at cancelled

namespace Supervised

variable {state after : Supervised T E}

/-- A one-shot body is the user's future itself and spawns nothing. -/
structure OneShot (state : Supervised T E) : Prop where
  kind : state.kind = .spec ∨ ∃ panicSource cancelDropsFuture,
    state.kind = .future panicSource cancelDropsFuture
  jobs : state.jobs = ∅
  phase : ∀ phase, state.body = .running phase → phase = .spawned ∨ phase = .user

namespace OneShot

theorem body (inv : state.OneShot) {choice : Choice T E}
    (step : state.bodyStep choice = some after) : after.OneShot := by
  unfold bodyStep at step
  split at step
  · rename_i phase here
    rcases inv.phase phase here with rfl | rfl
    · obtain rfl := Option.some.inj step
      refine ⟨inv.kind, inv.jobs, fun phase moved => Or.inr ?_⟩
      rcases inv.kind with kind | ⟨panicSource, cancelDropsFuture, kind⟩
      · simpa [start, moveTo, kind, eq_comm] using moved
      · simpa [start, moveTo, kind, eq_comm] using moved
    · cases choice with
      | exit exit =>
        obtain rfl := Option.some.inj step
        exact ⟨inv.kind, inv.jobs, fun phase moved => by cases moved⟩
      | _ => cases step
  · cases step

theorem runner (inv : state.OneShot) (moved : RunnerMoved state after) : after.OneShot := by
  have commit {exit : TaskExit T E} {runner : RunnerTask T E} :
      OneShot { state.commit exit with runner := runner } := by
    obtain ⟨core, commit⟩ := state.commit_eq exit
    rw [commit]
    exact ⟨inv.kind, inv.jobs, inv.phase⟩
  cases moved with
  | spawn here =>
    refine ⟨inv.kind, inv.jobs, fun phase moved => Or.inl ?_⟩
    cases moved
    rfl
  | retire here => exact commit
  | finish here => exact commit
  | _ => exact ⟨inv.kind, inv.jobs, inv.phase⟩

theorem step (inv : state.OneShot) {action : SupervisedAction T E}
    (step : state.step action = some after) : after.OneShot := by
  cases Stepped.of_step step with
  | runner moved => exact inv.runner moved
  | body moved => exact inv.body step
  | unwound message here free =>
    exact ⟨inv.kind, inv.jobs, fun phase moved => by cases moved⟩
  | aborted here => exact ⟨inv.kind, inv.jobs, fun phase moved => by cases moved⟩
  | still same =>
    refine ⟨by rw [same.kind]; exact inv.kind, ?_, by rw [same.body]; exact inv.phase⟩
    exact Finset.subset_empty.1 (inv.jobs ▸ same.jobs)
  | childSpawned context opened => exact ⟨inv.kind, inv.jobs, inv.phase⟩
  | childEnded => exact ⟨inv.kind, inv.jobs, inv.phase⟩

end OneShot

end Supervised

/-- Every abort of a one-shot execution meets the condition. -/
theorem oneShot_aborts_alone {state : Supervised T E}
    (oneShot : kind = .spec ∨ ∃ panicSource cancelDropsFuture,
      kind = .future panicSource cancelDropsFuture)
    (reached : (supervision T E kind abortPolicy maximumChildren).Reachable state)
    (action : SupervisedAction T E) : state.AbortsAlone action := by
  have inv : state.OneShot := by
    refine reached.invariant ⟨oneShot, rfl, fun phase here => by cases here⟩ ?_
    intro before after action inv _ step
    exact inv.step step
  cases action with
  | abortBody => exact inv.jobs
  | _ => trivial

/-- A forced request that is made and served. -/
def forceBody : List (SupervisedAction Unit Unit) :=
  [.checkForced, .swapForced, .callAbort, .abortBody]

/-- The runner hears from the body, closes the children and commits. -/
def concludeRun : List (SupervisedAction Unit Unit) :=
  List.replicate 5 (.runner .proceed)

/-- A retry execution up to the await on the first attempt. -/
def firstAttempt : List (SupervisedAction Unit Unit) :=
  List.replicate 3 (.runner .proceed) ++ List.replicate 3 (.body .proceed)

/-- The attempt ends, and the retry loop sleeps before the next one. -/
def betweenAttempts : List (SupervisedAction Unit Unit) :=
  [.jobEnds 0] ++ List.replicate 3 (.body .proceed) ++ [.body .sleep]

theorem forced_leaves_nothing_between :
    ∃ state : Supervised Unit Unit,
      (supervision Unit Unit (.retry 2) .allowed 8).exec (.new (.retry 2) .allowed 8)
          (firstAttempt ++ betweenAttempts ++ forceBody ++ concludeRun) = some state ∧
        state.core.terminal = some (.aborted none) ∧
        state.jobs = ∅ ∧ state.body.isRunning = false := by
  let schedule := firstAttempt ++ betweenAttempts ++ forceBody ++ concludeRun
  have ends : ((supervision Unit Unit (.retry 2) .allowed 8).exec (.new (.retry 2) .allowed 8)
      schedule).map (·.core.terminal) = some (some (.aborted none)) := by decide +kernel
  obtain ⟨state, exec, published⟩ := Option.map_eq_some_iff.1 ends
  have reached : (supervision Unit Unit (.retry 2) .allowed 8).Reaches
      Supervised.AbortsAlone (.new (.retry 2) .allowed 8) state :=
    System.Reaches.of_exec exec (by decide +kernel)
  exact ⟨state, exec, published, forced_leaves_nothing reached published⟩

/-- The abort drops the plain handle of the attempt in flight: the attempt is detached
and still runs when the execution is published as aborted. -/
theorem forced_detaches_attempt :
    ∃ state, (supervision Unit Unit (.retry 2) .allowed 8).Reachable state ∧
      state.core.terminal = some (.aborted none) ∧ state.jobs = {0} ∧ state.aborting = ∅ := by
  have ends : ((supervision Unit Unit (.retry 2) .allowed 8).exec (.new (.retry 2) .allowed 8)
      (firstAttempt ++ forceBody ++ concludeRun)).map
        (fun state => (state.core.terminal, state.jobs, state.aborting)) =
      some (some (.aborted none), {0}, ∅) := by decide +kernel
  obtain ⟨state, exec, found⟩ := Option.map_eq_some_iff.1 ends
  simp only [Prod.mk.injEq] at found
  exact ⟨state, System.Reaches.of_schedule _ exec, found⟩

end BusyBeaver
