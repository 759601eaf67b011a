import BusyBeaver.Supervision.State

/-!
# What a step of the body leaves alone

Whatever its phase, a body step changes neither the runner nor the terminal summary nor
the set of live children, does not reopen admission, keeps every live child within reach
of a closer, and never ends in cancellation.  `BodyMoved.of_bodyStep` says so once; the
invariants of a whole run use it instead of the phases.
-/

namespace BusyBeaver

open Transition

variable {T E : Type}

/-- What is selected is an abort only if an abort was proposed. -/
theorem IsSelected.isAborted_of_summary {proposed selected : TaskExit T E}
    {stopCause cause : Option StopCauseSummary}
    (isSelected : IsSelected proposed stopCause selected)
    (summary : selected.summary = .aborted cause) : proposed.isAborted = true := by
  have same : proposed = selected → proposed.isAborted = true := by
    rintro rfl
    cases proposed with
    | aborted cause => rfl
    | _ => cases summary
  cases isSelected with
  | forced aborted => exact aborted
  | unstopped => exact same rfl
  | deadlineKept late => exact same rfl
  | cancelled reason notAborted => cases summary
  | deadline notAborted early => cases summary

namespace CoreState

variable {state : CoreState}

@[simp] theorem terminal_requestStop (cause : StopCauseSummary) :
    (state.requestStop cause).2.terminal = state.terminal := by
  rcases state with ⟨publicState, - | first, - | summary⟩ <;> rfl

@[simp] theorem terminal_setActiveState (next : ActiveState) :
    ((state.setActiveState next).getD state).terminal = state.terminal := by
  rcases state with ⟨publicState, - | first, - | summary⟩ <;> rfl

theorem terminal_claimStart {after : CoreState} (claimed : state.claimStart = some after) :
    state.terminal = none ∧ after.terminal = none := by
  obtain ⟨open_, -, rfl⟩ := claimStart_eq_some.1 claimed
  exact ⟨open_, open_⟩

end CoreState

namespace Supervised

variable {state after : Supervised T E}

/-! ## Changes that touch neither children nor runner -/

/-- The children, the runner and the terminal summary are the same. -/
structure Light (state after : Supervised T E) : Prop where
  runner : after.runner = state.runner
  terminal : after.core.terminal = state.core.terminal
  context : after.context = state.context
  children : after.children = state.children
  live : after.live = state.live
  asked : after.asked = state.asked
  maximum : after.maximumChildren = state.maximumChildren
  nextChild : after.nextChild = state.nextChild

namespace Light

theorem refl (state : Supervised T E) : Light state state :=
  ⟨rfl, rfl, rfl, rfl, rfl, rfl, rfl, rfl⟩

theorem markDeadline (state : Supervised T E) : Light state state.markDeadline :=
  { refl state with terminal := CoreState.terminal_requestStop .deadline }

theorem spawnJob (state : Supervised T E) : Light state state.spawnJob :=
  ⟨rfl, rfl, rfl, rfl, rfl, rfl, rfl, rfl⟩

theorem abortJob (job : Nat) (light : Light state after) : Light state (after.abortJob job) :=
  ⟨light.runner, light.terminal, light.context, light.children, light.live, light.asked,
    light.maximum, light.nextChild⟩

end Light

/-! ## The body -/

/-- What every body step keeps. -/
structure BodyMoved (state after : Supervised T E) : Prop where
  running : state.body.isRunning = true
  returned : after.body.isCancelled = false
  runner : after.runner = state.runner
  terminal : after.core.terminal = state.core.terminal
  context : after.context = state.context
  live : after.live = state.live
  maximum : after.maximumChildren = state.maximumChildren
  nextChild : after.nextChild = state.nextChild
  admission : after.children.admissionOpen = state.children.admissionOpen
  controls : after.children.controls.Sublist state.children.controls
  held : ∀ child ∈ state.live, child ∈ state.children.tracked ∨ child ∈ state.body.pending →
    child ∈ after.children.tracked ∨ child ∈ after.body.pending
  asked : (∀ child ∈ state.body.pending, child ∈ state.asked) →
    ∀ child ∈ after.body.pending, child ∈ after.asked
  asking : state.asked ⊆ after.asked

namespace BodyMoved

variable {turn : Iteration} {phase phase' : Phase} {choice : Choice T E} {job : Nat}

/-- A move between two phases that hold no control. -/
theorem moveTo {between : Supervised T E} (light : Light state between)
    (here : state.body = .running phase) (free : phase.pending = [])
    (free' : phase'.pending = []) : BodyMoved state (between.moveTo phase') where
  running := by rw [here]; rfl
  returned := rfl
  runner := light.runner
  terminal := light.terminal
  context := light.context
  live := light.live
  maximum := light.maximum
  nextChild := light.nextChild
  admission := congrArg _ light.children
  controls := (congrArg ChildSet.controls light.children) ▸ List.Sublist.refl _
  held := by
    rintro child - (tracked | pending)
    · exact Or.inl (by rw [Supervised.moveTo, light.children]; exact tracked)
    · rw [here, BodyTask.pending, free] at pending
      cases pending
  asked := by
    intro _ child pending
    rw [Supervised.moveTo, BodyTask.pending, free'] at pending
    cases pending
  asking := light.asked.ge

/-- The body task returns. -/
theorem ended {between : Supervised T E} (light : Light state between)
    (here : state.body = .running phase) (free : phase.pending = []) (exit : Returned T E) :
    BodyMoved state { between with body := .ended (.returned exit) } where
  running := by rw [here]; rfl
  returned := rfl
  runner := light.runner
  terminal := light.terminal
  context := light.context
  live := light.live
  maximum := light.maximum
  nextChild := light.nextChild
  admission := congrArg _ light.children
  controls := (congrArg ChildSet.controls light.children) ▸ List.Sublist.refl _
  held := by
    rintro child - (tracked | pending)
    · exact Or.inl (by rw [light.children]; exact tracked)
    · rw [here, BodyTask.pending, free] at pending
      cases pending
  asked := by
    intro _ child pending
    cases pending
  asking := light.asked.ge

theorem finish {between : Supervised T E} (light : Light state between)
    (here : state.body = .running phase) (free : phase.pending = []) (exit : Returned T E) :
    BodyMoved state (between.finish turn exit) := by
  unfold Supervised.finish
  split
  · exact moveTo light here free rfl
  · exact ended light here free exit

/-- `begin_attempt` reopens the attempt, not the admission. -/
theorem beginAttempt (here : state.body = .running phase) (free : phase.pending = [])
    (free' : phase'.pending = []) (attempt : Nat) :
    BodyMoved state { state with
      children := state.children.beginAttempt attempt, body := .running phase' } where
  running := by rw [here]; rfl
  returned := rfl
  runner := rfl
  terminal := rfl
  context := rfl
  live := rfl
  maximum := rfl
  nextChild := rfl
  admission := rfl
  controls := List.Sublist.refl _
  held := by
    rintro child - (tracked | pending)
    · exact Or.inl tracked
    · rw [here, BodyTask.pending, free] at pending
      cases pending
  asked := by
    intro _ child pending
    rw [BodyTask.pending, free'] at pending
    cases pending
  asking := Finset.Subset.refl _

theorem of_enter (here : state.body = .running (.entering turn))
    (step : state.enter turn choice = some after) : BodyMoved state after := by
  cases choice with
  | proceed =>
    cases turn with
    | attempt number outer =>
      simp only [enter] at step
      split at step
      · exact Option.some.inj step ▸ beginAttempt here rfl rfl _
      · cases step
    | tick number => exact Option.some.inj step ▸ beginAttempt here rfl rfl _
    | generation number stopping => exact Option.some.inj step ▸ beginAttempt here rfl rfl _
  | exit exit =>
    cases turn with
    | attempt number outer =>
      simp only [enter] at step
      split at step
      · exact Option.some.inj step ▸ finish (.refl state) here rfl exit
      · cases step
    | tick number => exact Option.some.inj step ▸ finish (.refl state) here rfl exit
    | generation number stopping => cases step
  | _ => cases step

theorem of_launch (here : state.body = .running (.begun turn))
    (step : state.launch turn choice = some after) : BodyMoved state after := by
  cases turn with
  | attempt number outer =>
    cases choice with
    | deadline lastError => exact Option.some.inj step ▸ finish (.markDeadline state) here rfl _
    | exit exit => exact Option.some.inj step ▸ finish (.refl state) here rfl exit
    | panic message => exact Option.some.inj step ▸ moveTo (.refl state) here rfl rfl
    | proceed => exact Option.some.inj step ▸ moveTo (.spawnJob state) here rfl rfl
    | detach => exact Option.some.inj step ▸ moveTo (.spawnJob state) here rfl rfl
    | _ => cases step
  | tick number =>
    simp only [launch] at step
    split at step
    · exact Option.some.inj step ▸ moveTo (.refl state) here rfl rfl
    · exact Option.some.inj step ▸ moveTo (.refl state) here rfl rfl
    · exact Option.some.inj step ▸ moveTo (.refl state) here rfl rfl
    · exact Option.some.inj step ▸ moveTo (.spawnJob state) here rfl rfl
    · cases step
  | generation number stopping =>
    cases choice with
    | exit exit => exact Option.some.inj step ▸ finish (.refl state) here rfl exit
    | sleep => exact Option.some.inj step ▸ moveTo (.refl state) here rfl rfl
    | proceed => exact Option.some.inj step ▸ moveTo (.spawnJob state) here rfl rfl
    | _ => cases step

theorem of_drive (here : state.body = .running (.driving turn job))
    (step : state.drive turn job choice = some after) : BodyMoved state after := by
  cases choice with
  | proceed =>
    simp only [drive] at step
    split at step
    · cases step
    · exact Option.some.inj step ▸ moveTo (.refl state) here rfl rfl
  | deadline lastError =>
    cases turn with
    | attempt number outer =>
      exact Option.some.inj step ▸
        moveTo ((Light.markDeadline state).abortJob job) here rfl rfl
    | _ => cases step
  | expire =>
    cases turn with
    | attempt number outer =>
      exact Option.some.inj step ▸ moveTo ((Light.refl state).abortJob job) here rfl rfl
    | tick number => cases step
    | generation number stopping =>
      simp only [drive] at step
      split at step
      · exact Option.some.inj step ▸ moveTo (.refl state) here rfl rfl
      · cases step
  | _ => cases step

theorem of_reap (here : state.body = .running (.reaping turn job))
    (step : state.reap turn job choice = some after) : BodyMoved state after := by
  cases choice with
  | proceed =>
    simp only [reap] at step
    split at step
    · cases step
    · exact Option.some.inj step ▸ moveTo (.refl state) here rfl rfl
  | _ => cases step

theorem of_callHook (here : state.body = .running (.stopping turn job))
    (step : state.callHook turn job choice = some after) : BodyMoved state after := by
  cases choice with
  | proceed =>
    simp only [callHook] at step
    split at step
    · exact Option.some.inj step ▸ moveTo (.spawnJob state) here rfl rfl
    · exact Option.some.inj step ▸ moveTo (.refl state) here rfl rfl
  | panic message =>
    simp only [callHook] at step
    split at step
    · exact Option.some.inj step ▸ moveTo (.refl state) here rfl rfl
    · cases step
  | _ => cases step

theorem of_awaitHook {hook : Nat} (here : state.body = .running (.hooking turn job hook))
    (step : state.awaitHook turn job hook choice = some after) : BodyMoved state after := by
  cases choice with
  | proceed =>
    simp only [awaitHook] at step
    split at step
    · cases step
    · exact Option.some.inj step ▸ moveTo (.refl state) here rfl rfl
  | expire =>
    exact Option.some.inj step ▸ moveTo ((Light.refl state).abortJob hook) here rfl rfl
  | _ => cases step

theorem of_join (here : state.body = .running (.joining turn job))
    (step : state.join turn job choice = some after) : BodyMoved state after := by
  cases choice with
  | proceed =>
    simp only [join] at step
    split at step
    · cases step
    · exact Option.some.inj step ▸ moveTo (.refl state) here rfl rfl
  | _ => cases step

/-- The closer takes the controls of its attempt into its own hands and asks each child
to stop. -/
theorem closeAttempt (here : state.body = .running (.leaving turn)) :
    BodyMoved state (state.closeAttempt turn) where
  running := by rw [here]; rfl
  returned := rfl
  runner := rfl
  terminal := rfl
  context := rfl
  live := rfl
  maximum := rfl
  nextChild := rfl
  admission := rfl
  controls := List.filter_sublist
  held := by
    rintro child - (tracked | pending)
    · exact ChildSet.mem_closeAttemptChildren.1 tracked
    · rw [here] at pending
      cases pending
  asked := by
    intro _ child pending
    exact Finset.mem_union_right _ (List.mem_toFinset.2 pending)
  asking := Finset.subset_union_left

/-- A child leaves the closer's hands when it is terminal. -/
theorem of_awaitChildren {pending : List Nat}
    (here : state.body = .running (.closing turn pending))
    (step : state.awaitChildren turn pending choice = some after) :
    BodyMoved state after := by
  cases choice with
  | proceed =>
    cases pending with
    | nil => exact Option.some.inj step ▸ moveTo (.refl state) here rfl rfl
    | cons first rest =>
      simp only [awaitChildren] at step
      split at step
      · cases step
      · rename_i terminal
        obtain rfl := Option.some.inj step
        refine ⟨by rw [here]; rfl, rfl, rfl, rfl, rfl, rfl, rfl, rfl, rfl, List.Sublist.refl _, ?_,
          ?_, Finset.Subset.refl _⟩
        · rintro child live (tracked | pending)
          · exact Or.inl tracked
          · rw [here] at pending
            rcases List.mem_cons.1 pending with rfl | later
            · exact (terminal live).elim
            · exact Or.inr later
        · intro asked child pending
          exact asked child (by rw [here]; exact List.mem_cons_of_mem first pending)
  | _ => cases pending <;> cases step

theorem of_decide (here : state.body = .running (.decided turn))
    (step : state.decide turn choice = some after) : BodyMoved state after := by
  cases choice with
  | exit exit => exact Option.some.inj step ▸ finish (.refl state) here rfl exit
  | deadline lastError =>
    cases turn with
    | attempt number outer =>
      exact Option.some.inj step ▸ finish (.markDeadline state) here rfl _
    | _ => cases step
  | sleep =>
    simp only [Supervised.decide] at step
    split at step
    · cases step
    · exact Option.some.inj step ▸ moveTo (.refl state) here rfl rfl
  | _ => cases step

theorem of_wake (here : state.body = .running (.sleeping turn))
    (step : state.wake turn choice = some after) : BodyMoved state after := by
  cases choice with
  | exit exit => exact Option.some.inj step ▸ finish (.refl state) here rfl exit
  | proceed =>
    obtain ⟨following, -, rfl⟩ := Option.map_eq_some_iff.1 step
    exact moveTo (.refl state) here rfl rfl
  | sleep =>
    cases turn with
    | tick number => exact Option.some.inj step ▸ moveTo (.refl state) here rfl rfl
    | _ => cases step
  | restart =>
    cases turn with
    | tick number => exact Option.some.inj step ▸ moveTo (.refl state) here rfl rfl
    | _ => cases step
  | _ => cases step

theorem start (here : state.body = .running .spawned) : BodyMoved state state.start := by
  refine moveTo (.refl state) here rfl ?_
  cases state.kind <;> rfl

/-- **Step lemma** of the body. -/
theorem of_bodyStep (step : state.bodyStep choice = some after) : BodyMoved state after := by
  unfold bodyStep at step
  split at step
  · rename_i phase here
    cases phase with
    | spawned => exact Option.some.inj step ▸ start here
    | user =>
      cases choice with
      | exit exit => exact Option.some.inj step ▸ ended (.refl state) here rfl exit
      | _ => cases step
    | delaying =>
      cases choice with
      | proceed => exact Option.some.inj step ▸ moveTo (.refl state) here rfl rfl
      | exit exit => exact Option.some.inj step ▸ ended (.refl state) here rfl exit
      | _ => cases step
    | entering turn => exact of_enter here step
    | begun turn => exact of_launch here step
    | driving turn job => exact of_drive here step
    | reaping turn job => exact of_reap here step
    | stopping turn job => exact of_callHook here step
    | hooking turn job hook => exact of_awaitHook here step
    | joining turn job => exact of_join here step
    | leaving turn => exact Option.some.inj step ▸ closeAttempt here
    | closing turn pending => exact of_awaitChildren here step
    | decided turn => exact of_decide here step
    | sleeping turn => exact of_wake here step
  · cases step

end BodyMoved

/-! ## The runner -/

/-- Every move of the runner, with what it found. -/
inductive RunnerMoved (state : Supervised T E) : Supervised T E → Prop
  | claim {core : CoreState} :
    state.runner = .waiting → state.core.claimStart = some core →
    RunnerMoved state
      { state with core := core, context := state.kind.hasContext, runner := .claimed }
  | refuse : state.runner = .waiting → RunnerMoved state { state with runner := .refused }
  | retire :
    state.runner = .waiting ∨ state.runner = .refused →
    RunnerMoved state
      { state.commit (.executorStopped .runnerCancelled) with runner := .retired }
  | unwound (message : String) :
    state.runner = .claimed →
    RunnerMoved state { state with runner := .exiting (.panicked .factory message) }
  | spawn :
    state.runner = .claimed →
    RunnerMoved state { state with body := .running .spawned, runner := .installing }
  | install :
    state.runner = .installing →
    RunnerMoved state { state with abortHandle := true, runner := .joining }
  | hear {result : Joined T E} :
    state.runner = .joining → state.body = .ended result →
    RunnerMoved state { state with runner := .joined (some result) }
  | drop :
    state.runner = .joining →
    RunnerMoved state { state with abortCalled := true, runner := .dropping }
  | dropped {result : Joined T E} :
    state.runner = .dropping → state.body = .ended result →
    RunnerMoved state { state with runner := .joined none }
  | clear {result : Option (Joined T E)} :
    state.runner = .joined result →
    RunnerMoved state { state with abortHandle := false, runner := .cleared result }
  | propose {result : Option (Joined T E)} :
    state.runner = .cleared result →
    RunnerMoved state { state with runner := .exiting (state.exitOf result) }
  | close {exit : TaskExit T E} :
    state.runner = .exiting exit →
    RunnerMoved state { state with
      children := state.children.closeChildren.1
      asked := state.asked ∪ state.children.closeChildren.2.toFinset
      runner := .closing exit state.children.closeChildren.2 }
  | await {exit : TaskExit T E} {child : Nat} {pending : List Nat} :
    state.runner = .closing exit (child :: pending) → child ∉ state.live →
    RunnerMoved state { state with runner := .closing exit pending }
  | finish {exit : TaskExit T E} :
    state.runner = .closing exit [] →
    RunnerMoved state { state.commit exit with runner := .committed }

theorem RunnerMoved.of_runnerStep {choice : Choice T E}
    (step : state.runnerStep choice = some after) : RunnerMoved state after := by
  unfold runnerStep at step
  split at step
  · rename_i here
    split at step
    · rename_i claimed
      exact Option.some.inj step ▸ .claim here claimed
    · exact Option.some.inj step ▸ .refuse here
  · rename_i here
    exact Option.some.inj step ▸ .retire (Or.inr here)
  · rename_i here
    split at step
    · exact Option.some.inj step ▸ .unwound _ here
    · exact Option.some.inj step ▸ .spawn here
    · cases step
  · rename_i here
    exact Option.some.inj step ▸ .install here
  · rename_i here
    split at step
    · rename_i ended
      exact Option.some.inj step ▸ .hear here ended
    · split at step
      · exact Option.some.inj step ▸ .drop here
      · cases step
    · cases step
  · rename_i here
    split at step
    · rename_i ended
      exact Option.some.inj step ▸ .dropped here ended
    · cases step
  · rename_i here
    exact Option.some.inj step ▸ .clear here
  · rename_i here
    exact Option.some.inj step ▸ .propose here
  · rename_i here
    exact Option.some.inj step ▸ .close here
  · rename_i here
    exact Option.some.inj step ▸ .finish here
  · rename_i here
    split at step
    · cases step
    · rename_i terminal
      exact Option.some.inj step ▸ .await here terminal
  · cases step
  · cases step

/-! ## Every step -/

/-- The tasks and the children are the same, except that jobs may have ended. -/
structure Still (state after : Supervised T E) : Prop where
  kind : after.kind = state.kind
  maximum : after.maximumChildren = state.maximumChildren
  nextChild : after.nextChild = state.nextChild
  runner : after.runner = state.runner
  body : after.body = state.body
  terminal : after.core.terminal = state.core.terminal
  context : after.context = state.context
  children : after.children = state.children
  live : after.live = state.live
  asked : after.asked = state.asked
  jobs : after.jobs ⊆ state.jobs

theorem Still.refl (state : Supervised T E) : Still state state :=
  ⟨rfl, rfl, rfl, rfl, rfl, rfl, rfl, rfl, rfl, rfl, Finset.Subset.refl _⟩

/-- Every step of an execution. -/
inductive Stepped (state : Supervised T E) : SupervisedAction T E → Supervised T E → Prop
  | runner {action : SupervisedAction T E} {after : Supervised T E} :
    RunnerMoved state after → Stepped state action after
  | body {choice : Choice T E} {after : Supervised T E} :
    BodyMoved state after → Stepped state (.body choice) after
  | unwound {phase : Phase} (message : String) :
    state.body = .running phase → phase.pending = [] →
    Stepped state (.unwind message) (state.dropBody phase (.panicked message))
  | aborted {phase : Phase} :
    state.body = .running phase →
    Stepped state .abortBody (state.dropBody phase .cancelled)
  | still {action : SupervisedAction T E} {after : Supervised T E} :
    Still state after → Stepped state action after
  | childSpawned {attempt : Nat} {available : Bool} :
    state.context = true → state.children.admissionOpen = true →
    state.children.controls.length < state.maximumChildren →
    Stepped state (.spawnChild attempt available) { state with
      children := { state.children with
        controls := state.children.controls ++ [⟨attempt, state.nextChild⟩] }
      live := insert state.nextChild state.live
      nextChild := state.nextChild + 1 }
  | childEnded {child : Nat} :
    Stepped state (.childEnds child) { state with live := state.live.erase child }

theorem Phase.pending_of_unwinds {phase : Phase} (unwinds : phase.unwinds = true) :
    phase.pending = [] := by
  cases phase with
  | closing turn pending => cases unwinds
  | _ => rfl

/-- **Step lemma.** -/
theorem Stepped.of_step {action : SupervisedAction T E} (step : state.step action = some after) :
    Stepped state action after := by
  cases action with
  | dropStart =>
    simp only [Supervised.step] at step
    split at step
    · rename_i here
      exact Option.some.inj step ▸ .runner (.retire (Or.inl here))
    · cases step
  | runner choice => exact .runner (.of_runnerStep step)
  | body choice => exact .body (.of_bodyStep step)
  | unwind message =>
    simp only [Supervised.step] at step
    split at step
    · rename_i phase here
      split at step
      · rename_i unwinds
        exact Option.some.inj step ▸ .unwound message here (Phase.pending_of_unwinds unwinds)
      · cases step
    · cases step
  | abortBody =>
    simp only [Supervised.step] at step
    split at step
    · rename_i phase here
      split at step
      · exact Option.some.inj step ▸ .aborted here
      · cases step
    · cases step
  | jobEnds job =>
    simp only [Supervised.step] at step
    split at step
    · exact Option.some.inj step ▸
        .still { Still.refl state with jobs := Finset.erase_subset _ _ }
    · cases step
  | jobDropped job =>
    simp only [Supervised.step] at step
    split at step
    · exact Option.some.inj step ▸
        .still { Still.refl state with jobs := Finset.erase_subset _ _ }
    · cases step
  | requestStop cause =>
    exact Option.some.inj step ▸
      .still { Still.refl state with terminal := CoreState.terminal_requestStop cause }
  | report next =>
    simp only [Supervised.step] at step
    split at step
    · exact Option.some.inj step ▸
        .still { Still.refl state with terminal := CoreState.terminal_setActiveState next }
    · cases step
  | checkForced =>
    simp only [Supervised.step] at step
    split at step
    · exact Option.some.inj step ▸ .still { Still.refl state with }
    · exact Option.some.inj step ▸ .still (.refl state)
  | swapForced =>
    simp only [Supervised.step, Supervised.swapForced] at step
    split at step
    · split at step
      · exact Option.some.inj step ▸ .still { Still.refl state with }
      · exact Option.some.inj step ▸ .still { Still.refl state with }
    · cases step
  | callAbort =>
    simp only [Supervised.step] at step
    split at step
    · exact Option.some.inj step ▸ .still { Still.refl state with }
    · cases step
  | spawnChild attempt available =>
    simp only [Supervised.step, Supervised.spawnChild] at step
    split at step
    · rename_i context
      split at step
      · rename_i spawned
        split at spawned
        · rename_i children tracked
          obtain ⟨open_, rfl⟩ := ChildSet.of_spawnChild tracked
          obtain rfl := Except.ok.inj spawned
          exact Option.some.inj step ▸
            .childSpawned context open_ (ChildSet.length_lt_of_spawnChild tracked)
        · cases spawned
      · exact Option.some.inj step ▸ .still (.refl state)
    · cases step
  | childEnds child =>
    simp only [Supervised.step] at step
    split at step
    · exact Option.some.inj step ▸ .childEnded
    · cases step

/-! ## The terminal summary -/

theorem commit_eq (state : Supervised T E) (exit : TaskExit T E) :
    ∃ core, state.commit exit = { state with core := core } := by
  unfold commit
  split
  · exact ⟨_, rfl⟩
  · exact ⟨state.core, rfl⟩

/-- A commit publishes an abort only if it was proposed one or one is published already. -/
theorem aborted_of_commit {exit : TaskExit T E} {cause : Option StopCauseSummary}
    (published : (state.commit exit).core.terminal = some (.aborted cause)) :
    exit.isAborted = true ∨ state.core.terminal = some (.aborted cause) := by
  cases finished : state.core.terminal with
  | some summary =>
    have terminated : state.core.terminal ≠ none := by simp [finished]
    rw [commit, CoreState.commit_of_terminal terminated] at published
    exact Or.inr (finished ▸ published)
  | none =>
    obtain ⟨selected, isSelected, written⟩ := CoreState.commit_of_open exit finished
    rw [commit, written] at published
    have summary : selected.summary = .aborted cause := Option.some.inj published
    exact Or.inl (isSelected.isAborted_of_summary summary)

end Supervised

end BusyBeaver
