import BusyBeaver.Supervision.Forced

/-!
# No child outlives its execution

The control of a live child is in one of three hands: the execution's child set, the
closer of an attempt, which runs inside the body, or the last closer, which runs in the
runner.  The middle hand is lost when the body is dropped while it awaits a child.
-/

namespace BusyBeaver

open Transition

variable {T E : Type}

theorem BodyTask.pending_eq_nil {body : BodyTask T E} (finished : body.isRunning = false) :
    body.pending = [] := by
  cases body with
  | running phase => cases finished
  | _ => rfl

namespace Supervised

variable {state after : Supervised T E}

/-- The abort of the body finds no live child in the hands of an attempt's closer. -/
def AbortsEmptyHanded (state : Supervised T E) : SupervisedAction T E → Prop
  | .abortBody => ∀ child ∈ state.body.pending, child ∉ state.live
  | _ => True

instance (state : Supervised T E) : DecidablePred state.AbortsEmptyHanded
  | .abortBody => inferInstanceAs (Decidable (∀ child ∈ state.body.pending, child ∉ state.live))
  | .dropStart | .runner _ | .body _ | .unwind _ | .jobEnds _ | .jobDropped _
  | .requestStop _ | .report _ | .checkForced | .swapForced | .callAbort
  | .spawnChild _ _ | .childEnds _ => isTrue trivial

/-- Somebody who will wait for the child holds its control. -/
def Held (state : Supervised T E) (child : Nat) : Prop :=
  child ∈ state.children.tracked ∨ child ∈ state.body.pending ∨ child ∈ state.runner.pending

/-- No context was handed out. -/
structure Uncalled (state : Supervised T E) : Prop where
  context : state.context = false
  live : state.live = ∅
  body : state.body.isRunning = false

/-- The last closer has taken the controls. -/
structure Sealed (state : Supervised T E) : Prop where
  admission : state.children.admissionOpen = false
  tracked : state.children.tracked = []
  body : state.body.isRunning = false

/-- What holds while the runner stands there. -/
def Stage (state : Supervised T E) : RunnerTask T E → Prop
  | .waiting | .refused => state.Uncalled ∧ state.core.terminal = none
  | .claimed | .joined _ | .cleared _ | .exiting _ =>
    state.body.isRunning = false ∧ state.core.terminal = none
  | .installing | .joining | .dropping => state.core.terminal = none
  | .closing _ _ => state.Sealed ∧ state.core.terminal = none
  | .committed => state.Sealed ∧ state.live = ∅
  | .retired => state.Uncalled

/-- Every live child is held, and who holds a child has asked it to stop. -/
structure StructuredInv (state : Supervised T E) : Prop where
  held : ∀ child ∈ state.live, state.Held child
  asked : ∀ child, child ∈ state.body.pending ∨ child ∈ state.runner.pending →
    child ∈ state.asked
  stage : state.Stage state.runner

/-- Only a runner that is done leaves a terminal execution. -/
theorem Stage.done (stage : state.Stage state.runner) (terminal : state.core.terminal ≠ none) :
    state.live = ∅ ∧ (state.context = true → state.children.admissionOpen = false) := by
  cases here : state.runner with
  | committed =>
    rw [here] at stage
    exact ⟨stage.2, fun _ => stage.1.admission⟩
  | retired =>
    rw [here] at stage
    refine ⟨stage.live, fun context => ?_⟩
    rw [stage.context] at context
    cases context
  | installing | joining | dropping =>
    rw [here] at stage
    exact (terminal stage).elim
  | _ =>
    rw [here] at stage
    exact (terminal stage.2).elim

/-- A body that runs has a runner that waits for it, so any change of the body alone keeps
the stage. -/
theorem Stage.bodyChanged (stage : state.Stage state.runner)
    (running : state.body.isRunning = true) (runner : after.runner = state.runner)
    (terminal : after.core.terminal = state.core.terminal) : after.Stage after.runner := by
  rw [runner]
  cases here : state.runner with
  | installing | joining | dropping =>
    rw [here] at stage
    exact terminal.trans stage
  | waiting | refused =>
    rw [here] at stage
    rw [stage.1.body] at running
    cases running
  | retired =>
    rw [here] at stage
    rw [stage.body] at running
    cases running
  | closing | committed =>
    rw [here] at stage
    rw [stage.1.body] at running
    cases running
  | claimed | joined | cleared | exiting =>
    rw [here] at stage
    rw [stage.1] at running
    cases running

namespace StructuredInv

theorem new (kind : Kind) (abortPolicy : AbortPolicy) (maximumChildren : Nat) :
    (Supervised.new kind abortPolicy maximumChildren : Supervised T E).StructuredInv where
  held := by
    intro child live
    simp [Supervised.new] at live
  asked := by
    rintro child (pending | pending)
    · cases pending
    · cases pending
  stage := ⟨⟨rfl, rfl, rfl⟩, rfl⟩

/-- Steps that leave the tasks and the children alone. -/
theorem still (inv : state.StructuredInv) (step : Still state after) :
    after.StructuredInv where
  held := by
    simpa only [Held, step.children, step.body, step.runner, step.live] using inv.held
  asked := by simpa only [step.body, step.runner, step.asked] using inv.asked
  stage := by
    have stage := inv.stage
    rw [step.runner]
    cases here : state.runner with
    | installing | joining | dropping =>
      rw [here] at stage
      exact step.terminal.trans stage
    | waiting | refused =>
      rw [here] at stage
      exact ⟨⟨step.context.trans stage.1.context, step.live.trans stage.1.live,
        by rw [step.body]; exact stage.1.body⟩, step.terminal.trans stage.2⟩
    | retired =>
      rw [here] at stage
      exact ⟨step.context.trans stage.context, step.live.trans stage.live,
        by rw [step.body]; exact stage.body⟩
    | closing exit pending =>
      rw [here] at stage
      exact ⟨⟨by rw [step.children]; exact stage.1.admission,
        by rw [step.children]; exact stage.1.tracked, by rw [step.body]; exact stage.1.body⟩,
        step.terminal.trans stage.2⟩
    | committed =>
      rw [here] at stage
      exact ⟨⟨by rw [step.children]; exact stage.1.admission,
        by rw [step.children]; exact stage.1.tracked, by rw [step.body]; exact stage.1.body⟩,
        step.live.trans stage.2⟩
    | claimed | joined | cleared | exiting =>
      rw [here] at stage
      exact ⟨by rw [step.body]; exact stage.1, step.terminal.trans stage.2⟩

theorem body (inv : state.StructuredInv) (moved : BodyMoved state after) :
    after.StructuredInv where
  held := by
    intro child live
    rw [moved.live] at live
    rcases inv.held child live with tracked | pending | pending
    · exact (moved.held child live (Or.inl tracked)).imp_right Or.inl
    · exact (moved.held child live (Or.inr pending)).imp_right Or.inl
    · exact Or.inr (Or.inr (by rw [moved.runner]; exact pending))
  asked := by
    rintro child (pending | pending)
    · exact moved.asked (fun child pending => inv.asked child (Or.inl pending)) child pending
    · exact moved.asking (inv.asked child (Or.inr (moved.runner ▸ pending)))
  stage := inv.stage.bodyChanged moved.running moved.runner moved.terminal

/-- The body is dropped with empty hands. -/
theorem dropBody (inv : state.StructuredInv) {phase : Phase} {joined : Joined T E}
    (here : state.body = .running phase)
    (empty : ∀ child ∈ state.body.pending, child ∉ state.live) :
    (state.dropBody phase joined).StructuredInv where
  held := by
    intro child live
    rcases inv.held child live with tracked | pending | pending
    · exact Or.inl tracked
    · exact (empty child pending live).elim
    · exact Or.inr (Or.inr pending)
  asked := by
    rintro child (pending | pending)
    · cases pending
    · exact inv.asked child (Or.inr pending)
  stage := inv.stage.bodyChanged (by rw [here]; rfl) rfl rfl

/-- A move of the runner while it holds no control. -/
theorem runnerChanged (inv : state.StructuredInv) {runner : RunnerTask T E}
    (moved : after.runner = runner) (children : after.children = state.children)
    (live : after.live = state.live) (asked : after.asked = state.asked)
    (body : after.body.pending = state.body.pending) (before : state.runner.pending = [])
    (free : runner.pending = []) (stage : after.Stage runner) : after.StructuredInv where
  held := by
    intro child isLive
    rw [live] at isLive
    rcases inv.held child isLive with tracked | pending | pending
    · exact Or.inl (by rw [children]; exact tracked)
    · exact Or.inr (Or.inl (by rw [body]; exact pending))
    · rw [before] at pending
      cases pending
  asked := by
    rw [body, moved, free, asked]
    rintro child (pending | pending)
    · exact inv.asked child (Or.inl pending)
    · cases pending
  stage := by
    rw [moved]
    exact stage

/-- The last closer takes every tracked child into the runner's hands. -/
theorem close (inv : state.StructuredInv) {exit : TaskExit T E}
    (here : state.runner = .exiting exit) :
    ({ state with
        children := state.children.closeChildren.1
        asked := state.asked ∪ state.children.closeChildren.2.toFinset
        runner := .closing exit state.children.closeChildren.2 } :
      Supervised T E).StructuredInv := by
  have stage := inv.stage
  rw [here] at stage
  constructor
  · intro child live
    rcases inv.held child live with tracked | pending | pending
    · exact Or.inr (Or.inr tracked)
    · exact Or.inr (Or.inl pending)
    · rw [here] at pending
      cases pending
  · rintro child (pending | pending)
    · exact Finset.mem_union_left _ (inv.asked child (Or.inl pending))
    · exact Finset.mem_union_right _ (List.mem_toFinset.2 pending)
  · exact ⟨⟨rfl, rfl, stage.1⟩, stage.2⟩

/-- The runner waits for one child after the other. -/
theorem await (inv : state.StructuredInv) {exit : TaskExit T E} {first : Nat}
    {pending : List Nat} (here : state.runner = .closing exit (first :: pending))
    (terminal : first ∉ state.live) :
    ({ state with runner := .closing exit pending } : Supervised T E).StructuredInv := by
  have stage := inv.stage
  rw [here] at stage
  constructor
  · intro child live
    rcases inv.held child live with tracked | mine | mine
    · exact Or.inl tracked
    · exact Or.inr (Or.inl mine)
    · rw [here] at mine
      rcases List.mem_cons.1 mine with rfl | later
      · exact (terminal live).elim
      · exact Or.inr (Or.inr later)
  · rintro child (mine | mine)
    · exact inv.asked child (Or.inl mine)
    · exact inv.asked child (Or.inr (by rw [here]; exact List.mem_cons_of_mem first mine))
  · exact ⟨⟨stage.1.admission, stage.1.tracked, stage.1.body⟩, stage.2⟩

/-- With every hand empty no child is live. -/
theorem finish (inv : state.StructuredInv) {exit : TaskExit T E}
    (here : state.runner = .closing exit []) :
    ({ state.commit exit with runner := .committed } : Supervised T E).StructuredInv := by
  have stage := inv.stage
  rw [here] at stage
  have live : state.live = ∅ := by
    refine Finset.eq_empty_of_forall_notMem fun child live => ?_
    rcases inv.held child live with tracked | pending | pending
    · rw [stage.1.tracked] at tracked
      cases tracked
    · rw [BodyTask.pending_eq_nil stage.1.body] at pending
      cases pending
    · rw [here] at pending
      cases pending
  obtain ⟨core, commit⟩ := state.commit_eq exit
  rw [commit]
  exact inv.runnerChanged rfl rfl rfl rfl rfl (by rw [here]; rfl) rfl
    ⟨⟨stage.1.admission, stage.1.tracked, stage.1.body⟩, live⟩

theorem runner (inv : state.StructuredInv) (moved : RunnerMoved state after) :
    after.StructuredInv := by
  have stage := inv.stage
  cases moved with
  | claim here claimed =>
    rw [here] at stage
    exact inv.runnerChanged rfl rfl rfl rfl rfl (by rw [here]; rfl) rfl
      ⟨stage.1.body, (CoreState.terminal_claimStart claimed).2⟩
  | refuse here =>
    rw [here] at stage
    exact inv.runnerChanged rfl rfl rfl rfl rfl (by rw [here]; rfl) rfl
      ⟨⟨stage.1.context, stage.1.live, stage.1.body⟩, stage.2⟩
  | retire here =>
    obtain ⟨core, commit⟩ := state.commit_eq (.executorStopped .runnerCancelled)
    rw [commit]
    rcases here with here | here
    · rw [here] at stage
      exact inv.runnerChanged rfl rfl rfl rfl rfl (by rw [here]; rfl) rfl
        ⟨stage.1.context, stage.1.live, stage.1.body⟩
    · rw [here] at stage
      exact inv.runnerChanged rfl rfl rfl rfl rfl (by rw [here]; rfl) rfl
        ⟨stage.1.context, stage.1.live, stage.1.body⟩
  | unwound message here =>
    rw [here] at stage
    exact inv.runnerChanged rfl rfl rfl rfl rfl (by rw [here]; rfl) rfl stage
  | spawn here =>
    rw [here] at stage
    exact inv.runnerChanged rfl rfl rfl rfl (BodyTask.pending_eq_nil stage.1).symm
      (by rw [here]; rfl) rfl stage.2
  | install here =>
    rw [here] at stage
    exact inv.runnerChanged rfl rfl rfl rfl rfl (by rw [here]; rfl) rfl stage
  | hear here finished =>
    rw [here] at stage
    exact inv.runnerChanged rfl rfl rfl rfl rfl (by rw [here]; rfl) rfl
      ⟨by rw [finished]; rfl, stage⟩
  | drop here =>
    rw [here] at stage
    exact inv.runnerChanged rfl rfl rfl rfl rfl (by rw [here]; rfl) rfl stage
  | dropped here finished =>
    rw [here] at stage
    exact inv.runnerChanged rfl rfl rfl rfl rfl (by rw [here]; rfl) rfl
      ⟨by rw [finished]; rfl, stage⟩
  | clear here =>
    rw [here] at stage
    exact inv.runnerChanged rfl rfl rfl rfl rfl (by rw [here]; rfl) rfl stage
  | propose here =>
    rw [here] at stage
    exact inv.runnerChanged rfl rfl rfl rfl rfl (by rw [here]; rfl) rfl stage
  | close here => exact inv.close here
  | await here terminal => exact inv.await here terminal
  | finish here => exact inv.finish here

/-- A child that is spawned is tracked, and nobody has closed the admission. -/
theorem childSpawned (inv : state.StructuredInv) {attempt : Nat}
    (context : state.context = true) (opened : state.children.admissionOpen = true) :
    ({ state with
        children := { state.children with
          controls := state.children.controls ++ [⟨attempt, state.nextChild⟩] }
        live := insert state.nextChild state.live
        nextChild := state.nextChild + 1 } : Supervised T E).StructuredInv := by
  constructor
  · intro child live
    rcases Finset.mem_insert.1 live with rfl | before
    · exact Or.inl (by simp [ChildSet.tracked])
    · refine (inv.held child before).imp_left fun tracked => ?_
      simp only [ChildSet.tracked, List.map_append, List.mem_append]
      exact Or.inl tracked
  · exact inv.asked
  · have stage := inv.stage
    change Stage _ state.runner
    cases here : state.runner with
    | waiting | refused =>
      rw [here] at stage
      rw [stage.1.context] at context
      cases context
    | retired =>
      rw [here] at stage
      rw [stage.context] at context
      cases context
    | closing | committed =>
      rw [here] at stage
      rw [stage.1.admission] at opened
      cases opened
    | _ =>
      rw [here] at stage
      exact stage

theorem childEnded (inv : state.StructuredInv) (child : Nat) :
    ({ state with live := state.live.erase child } : Supervised T E).StructuredInv := by
  constructor
  · intro other live
    exact inv.held other (Finset.mem_of_mem_erase live)
  · exact inv.asked
  · have stage := inv.stage
    change Stage _ state.runner
    cases here : state.runner with
    | waiting | refused =>
      rw [here] at stage
      exact ⟨⟨stage.1.context, by simp [stage.1.live], stage.1.body⟩, stage.2⟩
    | retired =>
      rw [here] at stage
      exact ⟨stage.context, by simp [stage.live], stage.body⟩
    | committed =>
      rw [here] at stage
      exact ⟨⟨stage.1.admission, stage.1.tracked, stage.1.body⟩, by simp [stage.2]⟩
    | closing =>
      rw [here] at stage
      exact ⟨⟨stage.1.admission, stage.1.tracked, stage.1.body⟩, stage.2⟩
    | _ =>
      rw [here] at stage
      exact stage

theorem step (inv : state.StructuredInv) {action : SupervisedAction T E}
    (empty : state.AbortsEmptyHanded action) (stepped : Stepped state action after) :
    after.StructuredInv := by
  cases stepped with
  | runner moved => exact inv.runner moved
  | body moved => exact inv.body moved
  | unwound message here free =>
    refine inv.dropBody here fun child pending => ?_
    rw [here, BodyTask.pending, free] at pending
    cases pending
  | aborted here => exact inv.dropBody here empty
  | still same => exact inv.still same
  | childSpawned context opened => exact inv.childSpawned context opened
  | childEnded => exact inv.childEnded _

end StructuredInv

end Supervised

variable {kind : Kind} {abortPolicy : AbortPolicy} {maximumChildren : Nat}

/-- **A terminal execution has no live child and admits none**, in every run whose aborts
find no live child in the hands of an attempt's closer. -/
theorem structured_children {state : Supervised T E}
    (reached : (supervision T E kind abortPolicy maximumChildren).Reaches
      Supervised.AbortsEmptyHanded (.new kind abortPolicy maximumChildren) state)
    (terminal : state.core.terminal ≠ none) :
    state.live = ∅ ∧
      (state.context = true → ∀ attempt available,
        state.spawnChild attempt available = .error .parentClosing) := by
  have inv : state.StructuredInv := by
    refine reached.invariant (.new kind abortPolicy maximumChildren) ?_
    intro before after action inv empty step
    exact inv.step empty (.of_step step)
  obtain ⟨live, closed⟩ := inv.stage.done terminal
  refine ⟨live, fun context attempt available => ?_⟩
  simp only [Supervised.spawnChild, ChildSet.spawnChild_of_closed (closed context)]

/-- A one-shot body spawns a child and completes; its runner waits for the child. -/
def waitingParent : List (SupervisedAction Unit Unit) :=
  [.runner .proceed, .runner .proceed, .runner .proceed, .body .proceed, .spawnChild 1 true,
    .body (.exit ⟨.completed (), rfl⟩), .runner .proceed, .runner .proceed, .runner .proceed,
    .runner .proceed, .childEnds 0, .runner .proceed, .runner .proceed]

/-- The first attempt spawns a child and ends, and the loop awaits the child. -/
def awaitedChild : List (SupervisedAction Unit Unit) :=
  [.spawnChild 1 true, .jobEnds 0, .body .proceed, .body .proceed]

theorem structured_children_waited :
    ∃ state : Supervised Unit Unit,
      (supervision Unit Unit .spec .allowed 8).exec (.new .spec .allowed 8) waitingParent =
          some state ∧ state.nextChild = 1 ∧ state.live = ∅ ∧
        state.spawnChild 1 true = .error .parentClosing := by
  have ends : ((supervision Unit Unit .spec .allowed 8).exec (.new .spec .allowed 8)
      waitingParent).map (fun state => (state.core.terminal, state.context, state.nextChild)) =
      some (some .completed, true, 1) := by decide +kernel
  obtain ⟨state, exec, found⟩ := Option.map_eq_some_iff.1 ends
  simp only [Prod.mk.injEq] at found
  have reached : (supervision Unit Unit .spec .allowed 8).Reaches
      Supervised.AbortsEmptyHanded (.new .spec .allowed 8) state :=
    System.Reaches.of_exec exec (by decide +kernel)
  obtain ⟨live, closed⟩ := structured_children reached (by simp [found.1])
  exact ⟨state, exec, found.2.2, live, closed found.2.1 1 true⟩

/-- The abort drops the closer of the attempt with the control it holds: the child outlives
the execution that spawned it. -/
theorem child_orphaned :
    ∃ state, (supervision Unit Unit (.retry 2) .allowed 8).Reachable state ∧
      state.core.terminal = some (.aborted none) ∧ state.live = {0} := by
  have ends : ((supervision Unit Unit (.retry 2) .allowed 8).exec (.new (.retry 2) .allowed 8)
      (firstAttempt ++ awaitedChild ++ forceBody ++ concludeRun)).map
        (fun state => (state.core.terminal, state.live)) =
      some (some (.aborted none), {0}) := by decide +kernel
  obtain ⟨state, exec, found⟩ := Option.map_eq_some_iff.1 ends
  simp only [Prod.mk.injEq] at found
  have reached : (supervision Unit Unit (.retry 2) .allowed 8).Reaches (fun _ _ => True)
      (.new (.retry 2) .allowed 8) state := System.Reaches.of_schedule _ exec
  exact ⟨state, reached, found⟩

end BusyBeaver
