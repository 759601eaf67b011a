import BusyBeaver.Scope.Generations

/-!
# Whom a rotation waits for

`rotate` refuses a strict rotation that would wait for an execution it is called from, and
looks for one among the controls of the current generation.  The supervisor waits for these
and, under either policy, for the controls of the scopes below: the caller is clear of the
wait if those do not track it when they are visited (`ScopeWorld.Apart`).
-/

namespace BusyBeaver

open Transition Checked

/-- The generation whose controls the operation reads. -/
def TeardownOp.reads : TeardownOp → Option ScopeId
  | .controls generation => some generation
  | _ => none

namespace ScopeWorld

variable {world after : ScopeWorld} {action : ScopeAction} {generation : ScopeId}
  {executionId : ExecutionId}

/-! ## What a generation tracks -/

theorem controls_of_eq (same : after.generations = world.generations) (generation : ScopeId) :
    after.controls generation = world.controls generation := by
  unfold controls
  rw [same]

theorem controls_modifyGeneration_same {other : ScopeId} {f : GenerationCore → GenerationCore}
    (same : ∀ core, (f core).controls = core.controls) (generation : ScopeId) :
    (world.modifyGeneration other f).controls generation = world.controls generation := by
  have map : ((world.generations.modify other f) generation).map GenerationCore.controls =
      (world.generations generation).map GenerationCore.controls :=
    congrFun (Pool.map_modify_same same) generation
  exact congrArg (Option.getD · []) map

@[simp] theorem controls_closeAdmission {other : ScopeId} (generation : ScopeId) :
    (world.closeAdmission other).controls generation = world.controls generation := by
  unfold closeAdmission
  exact controls_modifyGeneration_same (f := fun core => { core with admissionOpen := false })
    (fun _ => rfl) generation

@[simp] theorem generations_pin {families : List Nat} :
    (world.pin families).generations = world.generations := by
  induction families generalizing world with
  | nil => rfl
  | cons family families ih => exact ih.trans rfl

@[simp] theorem generations_unpin {families : List Nat} :
    (world.unpin families).generations = world.generations := by
  induction families generalizing world with
  | nil => rfl
  | cons family families ih => exact ih.trans rfl

/-- The work of a task leaves the controls alone. -/
theorem Works.controls {task : Nat} {teardown teardown' : Teardown} {mid : ScopeWorld}
    (works : world.Works task teardown action mid teardown') (generation : ScopeId) :
    mid.controls generation = world.controls generation := by
  cases works with
  | started | read | cancelled | joined | joinedOwn | published | returned | took | resumed => rfl
  | descended => exact controls_of_eq generations_pin generation
  | @collected rest family inner =>
    refine (controls_of_eq generations_pin generation).trans ?_
    unfold shut
    exact controls_closeAdmission generation
  | released | lost => exact controls_of_eq generations_unpin generation
  | decided =>
    unfold conclude
    split
    next => rfl
    next =>
      split
      next => exact controls_closeAdmission generation
      next => rfl

theorem controls_accept {process family : Nat} {inner : ScopeInner} {new : ScopeId}
    {policy : RotationPolicy} {path : List ExecutionId} {ticket nextGeneration : Nat}
    (apart : generation ≠ new) :
    (world.accept process family inner new policy path ticket nextGeneration).controls generation =
      world.controls generation := by
  have closed : (world.closeAdmission inner.state.current).controls generation =
      world.controls generation := controls_closeAdmission generation
  rw [← closed]
  exact congrArg (fun core => (core.map GenerationCore.controls).getD []) (Pool.set_of_ne apart)

/-- A generation tracks what it tracked, less what is terminal, and the execution that is
admitted with it. -/
theorem Moved.controls (moved : world.Moved action after) (generation : ScopeId) :
    after.controls generation = world.controls generation ∨
    (∃ executionId, world.view.Admits generation ∧
      world.executions executionId = none ∧
      action = .trySpawn generation (some executionId) ∧
      after.controls generation = world.controls generation ++ [executionId]) ∨
    (∃ executionId, world.terminal executionId = true ∧
      after.controls generation = (world.controls generation).erase executionId) ∨
    world.generations generation = none ∧ after.controls generation = [] := by
  cases moved with
  | childRefused | upgraded | dropped | submitted | spawnRefused | finished | rotateRefused
  | pendingCancelled => exact .inl rfl
  | closed =>
    unfold shut
    exact .inl (controls_closeAdmission generation)
  | cancelBegan =>
    refine .inl (controls_of_eq ?_ generation)
    exact generations_pin
  | worked _ works => exact .inl (works.controls generation)
  | @created family generation' freshFamily freshGeneration =>
    by_cases same : generation = generation'
    · subst same
      refine .inr (.inr (.inr ⟨freshGeneration, ?_⟩))
      simp [ScopeWorld.controls, create, GenerationCore.new]
    · exact .inl (congrArg (fun core => (core.map GenerationCore.controls).getD [])
        (Pool.set_of_ne same))
  | @adopted parent family generation' inner found held opened admits freshFamily freshGeneration =>
    rw [controls_modifyGeneration_same
      (f := fun core => { core with children := core.children ++ [family] }) fun _ => rfl]
    by_cases same : generation = generation'
    · subst same
      refine .inr (.inr (.inr ⟨freshGeneration, ?_⟩))
      simp [ScopeWorld.controls, create, GenerationCore.new]
    · exact .inl (congrArg (fun core => (core.map GenerationCore.controls).getD [])
        (Pool.set_of_ne same))
  | @spawned generation' executionId core inner found scope held check fresh =>
    by_cases same : generation = generation'
    · subst same
      obtain ⟨opened, current, admits⟩ := checkCurrent_eq_none.1 check
      obtain ⟨shape, at_generation, open_⟩ := admissionOpen_eq_true.1 admits
      have own : world.view.shape generation = some core.shape := Pool.map_of_eq_some found
      obtain rfl : shape = core.shape := Option.some.inj (at_generation.symm.trans own)
      refine .inr (.inl ⟨executionId, ?_, fresh, rfl, ?_⟩)
      · exact ⟨_, inner.state, at_generation, Pool.map_of_eq_some scope, opened, current, open_⟩
      · simp [ScopeWorld.controls, register, modifyGeneration, found]
    · exact .inl (congrArg (fun core => (core.map GenerationCore.controls).getD [])
        (Pool.modify_of_ne same))
  | @untracked generation' executionId terminal =>
    by_cases same : generation = generation'
    · subst same
      refine .inr (.inr (.inl ⟨executionId, terminal, ?_⟩))
      simp only [ScopeWorld.controls, modifyGeneration, Pool.modify_self]
      cases world.generations generation with
      | none => rfl
      | some core => rfl
    · exact .inl (congrArg (fun core => (core.map GenerationCore.controls).getD [])
        (Pool.modify_of_ne same))
  | @rotated process family new policy caller inner ticket nextGeneration found held
      freshGeneration =>
    by_cases same : generation = new
    · subst same
      refine .inr (.inr (.inr ⟨freshGeneration, ?_⟩))
      simp [ScopeWorld.controls, accept, GenerationCore.new]
    · exact .inl (controls_accept same)

/-! ## Clear of the caller -/

/-- The task is suspended in the wait for the execution. -/
def WaitsFor (world : ScopeWorld) (task : Nat) (executionId : ExecutionId) : Prop :=
  ∃ teardown, world.tasks task = some teardown ∧ teardown.waiting = some executionId

/-- A supervisor that reads the controls of a scope below its old generation finds none of the
executions that its rotation was called from. -/
def Apart (world : ScopeWorld) : ScopeAction → Prop
  | .advance task => ∀ rotation ∈ world.rotations task, ∀ teardown ∈ world.tasks task,
      ∀ op ∈ teardown.todo.head?, ∀ generation ∈ op.reads,
      ∀ executionId ∈ world.controls generation, executionId ∉ rotation.path
  | _ => True

instance (world : ScopeWorld) : DecidablePred world.Apart
  | .advance task => inferInstanceAs (Decidable (∀ rotation ∈ world.rotations task,
      ∀ teardown ∈ world.tasks task, ∀ op ∈ teardown.todo.head?, ∀ generation ∈ op.reads,
      ∀ executionId ∈ world.controls generation, executionId ∉ rotation.path))
  | .create _ _ | .child _ _ _ | .upgrade _ | .drop _ | .submit _ _ | .trySpawn _ _ | .finish _
  | .untrack _ _ | .close _ | .cancel _ _ _ | .rotate _ _ _ _ _ | .cancelPendingNew _
  | .next _ _ | .resume _ | .lose _ => isTrue trivial

/-- The supervisor awaits, and will await, no execution of the path. -/
structure Clear (world : ScopeWorld) (plan : RotationPlan) (teardown : Teardown) : Prop where
  collected : ∀ executionId ∈ teardown.collected, executionId ∉ plan.path
  waiting : ∀ executionId, teardown.waiting = some executionId → executionId ∉ plan.path
  own : ∀ controls, .joinOwn controls ∈ teardown.todo →
    ∀ executionId ∈ controls, executionId ∉ plan.path
  /-- Before its start it is the controls of the old generation that it is to await. -/
  start : ∀ old, .start old .strict ∈ teardown.todo →
    old = plan.old ∧ ∀ executionId ∈ world.controls old, executionId ∉ plan.path

/-- What is left to do of a task that goes on was left before, or is one of these. -/
theorem Works.left {task : Nat} {teardown teardown' : Teardown} {mid : ScopeWorld} {op : TeardownOp}
    (works : world.Works task teardown action mid teardown') (member : op ∈ teardown'.todo) :
    op ∈ teardown.todo ∨ (∃ old policy rest, teardown.todo = .start old policy :: rest ∧
      (op = .descendants old ∨ op ∈ ownJoin policy (world.controls old))) ∨
    (∃ outcome, op = .publish outcome) ∨ op = .join false ∨
    (∃ old rest, teardown.todo = .descendants old :: rest ∧
      op ∈ joinEach (world.descendants old)) ∨
    ∃ family rest inner, teardown.todo = .collect family :: rest ∧
      world.families family = some inner ∧
      (op = .controls inner.state.current ∨
        op ∈ collectEach (world.descendants inner.state.current)) := by
  cases works with
  | @started rest old policy todo =>
    simp only [List.cons_append, List.mem_cons, List.mem_append] at member
    rcases member with eq | own | tail
    · exact .inr (.inl ⟨old, policy, rest, todo, .inl eq⟩)
    · exact .inr (.inl ⟨old, policy, rest, todo, .inr own⟩)
    · exact .inl (todo ▸ List.mem_cons_of_mem _ tail)
  | @descended rest old todo =>
    rcases List.mem_append.1 member with child | tail
    · exact .inr (.inr (.inr (.inr (.inl ⟨old, rest, todo, child⟩))))
    · exact .inl (todo ▸ List.mem_cons_of_mem _ tail)
  | @collected rest family inner todo scope =>
    simp only [List.cons_append, List.mem_cons, List.mem_append] at member
    rcases member with eq | child | tail
    · exact .inr (.inr (.inr (.inr (.inr ⟨family, rest, inner, todo, scope, .inl eq⟩))))
    · exact .inr (.inr (.inr (.inr (.inr ⟨family, rest, inner, todo, scope, .inr child⟩))))
    · exact .inl (todo ▸ List.mem_cons_of_mem _ tail)
  | read todo | released todo | cancelled todo | joined todo | published todo | returned todo =>
    exact .inl (todo ▸ List.mem_cons_of_mem _ member)
  | joinedOwn todo =>
    rcases List.mem_cons.1 member with eq | tail
    · exact .inr (.inr (.inr (.inl eq)))
    · exact .inl (todo ▸ List.mem_cons_of_mem _ tail)
  | decided todo =>
    rcases List.mem_cons.1 member with eq | tail
    · exact .inr (.inr (.inl ⟨_, eq⟩))
    · exact .inl (todo ▸ List.mem_cons_of_mem _ tail)
  | took | resumed => exact .inl member
  | lost => exact (List.not_mem_nil member).elim

/-- A supervisor that goes on stays clear if what it reads is. -/
theorem Clear.works {task : Nat} {teardown teardown' : Teardown} {mid : ScopeWorld}
    {plan : RotationPlan} (clear : world.Clear plan teardown)
    (works : world.Works task teardown action mid teardown')
    (apart : ∀ generation rest, action = .advance task →
      teardown.todo = .controls generation :: rest →
      ∀ executionId ∈ world.controls generation, executionId ∉ plan.path) :
    mid.Clear plan teardown' := by
  constructor
  · intro executionId member
    cases works with
    | started | descended | collected | released | cancelled | joined | decided | published
    | returned | resumed => exact clear.collected executionId member
    | read todo =>
      rcases List.mem_append.1 member with earlier | found
      · exact clear.collected executionId earlier
      · exact apart _ _ rfl todo executionId found
    | joinedOwn todo =>
      rcases List.mem_append.1 member with earlier | own
      · exact clear.collected executionId earlier
      · exact clear.own _ (todo ▸ List.mem_cons_self) executionId own
    | took => exact clear.collected executionId (List.mem_of_mem_erase member)
    | lost => exact (List.not_mem_nil member).elim
  · intro executionId waiting
    cases works with
    | started | descended | collected | released | cancelled | joined | decided | published
    | returned | read | joinedOwn => exact clear.waiting executionId waiting
    | took todo member =>
      obtain rfl := Option.some.inj waiting
      exact clear.collected _ member
    | resumed | lost => cases waiting
  · intro controls member
    rcases works.left member with earlier | ⟨old, policy, rest, todo, eq | own⟩ | ⟨_, eq⟩ | eq |
      ⟨_, _, _, child⟩ | ⟨_, _, _, _, _, eq | child⟩
    · exact clear.own controls earlier
    · cases eq
    · cases policy with
      | strict =>
        simp only [ownJoin, List.mem_singleton, TeardownOp.joinOwn.injEq] at own
        subst own
        exact (clear.start old (todo ▸ List.mem_cons_self)).2
      | availabilityFirst => simp [ownJoin] at own
    · cases eq
    · cases eq
    · simp [joinEach] at child
    · cases eq
    · simp [collectEach] at child
  · intro old member
    rcases works.left member with earlier | ⟨_, policy, _, _, eq | own⟩ | ⟨_, eq⟩ | eq |
      ⟨_, _, _, child⟩ | ⟨_, _, _, _, _, eq | child⟩
    · rw [works.controls]
      exact clear.start old earlier
    · cases eq
    · cases policy <;> simp [ownJoin] at own
    · cases eq
    · cases eq
    · simp [joinEach] at child
    · cases eq
    · simp [collectEach] at child

/-- A rotation that is accepted found none of its callers among the controls that it will
await itself. -/
theorem Clear.of_joined {inner : ScopeInner} {policy : RotationPolicy} {plan : RotationPlan}
    (outside : world.joined inner.state policy plan.path = none)
    (old : plan.old = inner.state.current) (family : Nat)
    (controls : after.controls plan.old = world.controls plan.old) :
    after.Clear plan
      { target := some inner.state.current
        todo := [.start inner.state.current policy, .decide, .release family]
        collected := []
        waiting := none
        returned := false } where
  collected _ absurd := (List.not_mem_nil absurd).elim
  waiting _ absurd := by cases absurd
  own _ absurd := by simp at absurd
  start other member := by
    simp only [List.mem_cons, TeardownOp.start.injEq, reduceCtorEq, List.not_mem_nil,
      or_false] at member
    obtain ⟨rfl, rfl⟩ := member
    refine ⟨old.symm, fun executionId tracked joined => ?_⟩
    rw [← old, controls, old] at tracked
    have none := List.find?_eq_none.1 outside executionId tracked
    exact none (List.contains_iff_mem.2 joined)

/-- The supervisors of all rotations are clear of their callers. -/
def AllClear (world : ScopeWorld) : Prop :=
  ∀ process rotation teardown, world.rotations process = some rotation →
    world.tasks process = some teardown → world.Clear rotation.toRotationPlan teardown

theorem AllClear.step (clear : world.AllClear) (ordered : world.Ordered)
    (step : world.step action = some after) (apart : world.Apart action) : after.AllClear := by
  intro process rotation' teardown' found' running'
  have moved := Moved.of_step step
  rcases moved.task running' with running | ⟨teardown, mid, running, works, rfl⟩ | ⟨fresh, begins⟩
  · obtain ⟨rotation, found, rewrites⟩ := ordered.rotation_back step found' running
    rw [rewrites.plan]
    have before := clear process rotation teardown' found running
    refine ⟨before.collected, before.waiting, before.own, fun old member => ?_⟩
    obtain ⟨rfl, outside⟩ := before.start old member
    refine ⟨rfl, fun executionId tracked => ?_⟩
    obtain ⟨shape, at_old, shut⟩ := ordered.old process rotation found
    -- the old generation is closed, so it tracks nothing new
    rcases moved.controls rotation.old with same | ⟨_, admits, _⟩ | ⟨_, _, erased⟩ | ⟨_, none⟩
    · exact outside executionId (same ▸ tracked)
    · exact (ScopeView.Sealed.not_admits ⟨shape, at_old, .inl shut⟩ admits).elim
    · exact outside executionId (List.mem_of_mem_erase (erased ▸ tracked))
    · rw [none] at tracked
      exact (List.not_mem_nil tracked).elim
  · obtain ⟨rotation, found, rewrites⟩ := ordered.rotation_back step found' running
    rw [rewrites.plan]
    have next := (clear process rotation teardown found running).works works
      fun generation rest call todo => by
        subst call
        exact apart rotation found teardown running (.controls generation) (by simp [todo])
          generation
          rfl
    exact ⟨next.collected, next.waiting, next.own, next.start⟩
  · have unaccepted : world.rotations process = none := by
      cases found : world.rotations process with
      | none => rfl
      | some rotation =>
        obtain ⟨teardown, running⟩ := ordered.process process rotation found
        exact absurd (fresh.symm.trans running) (by simp)
    cases begins with
    | cancel =>
      cases moved with
      | cancelBegan =>
        rw [cancel] at found'
        exact absurd (unaccepted.symm.trans (rotations_pin ▸ found')) (by simp)
      | worked _ works => cases works
    | @rotate family new policy caller inner scope outside =>
      cases moved with
      | rotateRefused => exact absurd (unaccepted.symm.trans found') (by simp)
      | @rotated _ _ _ _ _ inner' _ _ scope' held freshGeneration =>
        obtain rfl : inner = inner' := Option.some.inj (scope.symm.trans scope')
        obtain rfl := Option.some.inj (Pool.set_self.symm.trans found')
        refine .of_joined outside rfl _ (controls_accept fun same => ?_)
        obtain ⟨shape, at_current, -⟩ := ordered.numbered.current _ _ (Pool.map_of_eq_some scope)
        rw [show inner.state.current = _ from same] at at_current
        exact absurd ((Pool.map_eq_none.2 freshGeneration).symm.trans at_current) (by simp)
      | worked _ works => cases works

theorem AllClear.of_reaches (reached : scopes.Reaches Apart scopes.init world) :
    world.AllClear := by
  induction reached with
  | refl =>
    intro process rotation teardown found
    cases found
  | tail before apart step ih => exact ih.step (.of_reachable before.reachable) step apart

/-! ## Rotations -/

/-- `rotate` refuses without a trace, or accepts. -/
theorem rotate_cases (world : ScopeWorld) (process family : Nat) (inner : ScopeInner)
    (new : ScopeId) (policy : RotationPolicy) (path : List ExecutionId) :
    (∃ error, world.rotate process family inner new policy path = (world, some error)) ∨
    ∃ ticket nextGeneration, world.rotate process family inner new policy path =
      (world.accept process family inner new policy path ticket nextGeneration, none) := by
  unfold rotate
  split
  next => exact .inl ⟨_, rfl⟩
  next =>
    split
    next => exact .inl ⟨_, rfl⟩
    next =>
      split
      next => exact .inl ⟨_, rfl⟩
      next =>
        split
        next => exact .inl ⟨_, rfl⟩
        next ticket counted =>
          split
          next => exact .inl ⟨_, rfl⟩
          next nextGeneration numbered => exact .inr ⟨ticket, nextGeneration, rfl⟩

theorem after_of_rotate {process family : Nat} {new : ScopeId} {policy : RotationPolicy}
    {caller : Option ExecutionId} {inner : ScopeInner}
    (call : world.step (.rotate process family new policy caller) = some after)
    (scope : world.families family = some inner) :
    after = (world.rotate process family inner new policy (world.callerPath caller)).1 := by
  simp only [ScopeWorld.step, scope, Option.bind_some] at call
  split at call
  next => exact (Option.some.inj call).symm
  next => cases call

end ScopeWorld

end BusyBeaver
