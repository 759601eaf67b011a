import BusyBeaver.Scope.State

/-!
# Every branch of a step of the scopes

`ScopeWorld.Moved` lists the branches of a step once, each with what it checks and with
the world it leaves.  Most of what a step writes is bookkeeping of tasks and handles: the
views `state`, `shape` and `origin` see none of it.
-/

namespace BusyBeaver

open Transition Checked

/-- What a generation is to its scope, without the controls it tracks. -/
structure GenerationShape : Type where
  family : Nat
  number : Nat
  admissionOpen : Bool
  children : List Nat
  deriving DecidableEq, Repr

def GenerationCore.shape (core : GenerationCore) : GenerationShape where
  family := core.family
  number := core.number
  admissionOpen := core.admissionOpen
  children := core.children

namespace ScopeWorld

/-- A task goes on: one constructor for each operation, then the turns of its loop and its
loss.  `mid` is the world it leaves, but for the record of the task itself. -/
inductive Works (world : ScopeWorld) (task : Nat) (teardown : Teardown) :
    ScopeAction → ScopeWorld → Teardown → Prop
  | started {rest : List TeardownOp} {old : ScopeId} {policy : RotationPolicy}
      (todo : teardown.todo = .start old policy :: rest) :
      Works world task teardown (.advance task) (world.request (world.controls old))
        { teardown with todo := .descendants old :: ownJoin policy (world.controls old) ++ rest }
  | descended {rest : List TeardownOp} {old : ScopeId}
      (todo : teardown.todo = .descendants old :: rest) :
      Works world task teardown (.advance task) (world.pin (world.descendants old))
        { teardown with todo := joinEach (world.descendants old) ++ rest }
  | collected {rest : List TeardownOp} {family : Nat} {inner : ScopeInner}
      (todo : teardown.todo = .collect family :: rest)
      (scope : world.families family = some inner) :
      Works world task teardown (.advance task)
        ((world.shut family inner).pin (world.descendants inner.state.current))
        { teardown with
          target := teardown.target.or (some inner.state.current)
          todo := .controls inner.state.current ::
            collectEach (world.descendants inner.state.current) ++ rest }
  | read {rest : List TeardownOp} {generation : ScopeId}
      (todo : teardown.todo = .controls generation :: rest) :
      Works world task teardown (.advance task) world
        { teardown with
          todo := rest
          collected := teardown.collected ++ world.controls generation }
  | released {rest : List TeardownOp} {family : Nat}
      (todo : teardown.todo = .release family :: rest) :
      Works world task teardown (.advance task) (world.unpin [family])
        { teardown with todo := rest }
  | cancelled {rest : List TeardownOp} (todo : teardown.todo = .cancel :: rest) :
      Works world task teardown (.advance task) (world.request teardown.collected)
        { teardown with todo := rest }
  | joined {rest : List TeardownOp} {cancelling : Bool}
      (todo : teardown.todo = .join cancelling :: rest) (empty : teardown.collected = [])
      (awake : teardown.waiting = none) :
      Works world task teardown (.advance task) world { teardown with todo := rest }
  | joinedOwn {rest : List TeardownOp} {controls : List ExecutionId}
      (todo : teardown.todo = .joinOwn controls :: rest) :
      Works world task teardown (.advance task) world
        { teardown with
          todo := .join false :: rest
          collected := teardown.collected ++ controls }
  | decided {rest : List TeardownOp} {rotation : RotationProcess} {inner : ScopeInner}
      (todo : teardown.todo = .decide :: rest) (process : world.rotations task = some rotation)
      (scope : world.families rotation.family = some inner) :
      Works world task teardown (.advance task) (world.conclude inner rotation).1
        { teardown with todo := .publish (world.conclude inner rotation).2 :: rest }
  | published {rest : List TeardownOp} {outcome : RotationOutcome} {rotation : RotationProcess}
      (todo : teardown.todo = .publish outcome :: rest)
      (process : world.rotations task = some rotation) :
      Works world task teardown (.advance task)
        (world.setRotation task { rotation with result := some outcome })
        { teardown with todo := rest }
  | returned {rest : List TeardownOp} (todo : teardown.todo = .returns :: rest) :
      Works world task teardown (.advance task) world
        { teardown with todo := rest, returned := true }
  | took {rest : List TeardownOp} {cancelling : Bool} {executionId : ExecutionId}
      (todo : teardown.todo = .join cancelling :: rest)
      (member : executionId ∈ teardown.collected) (awake : teardown.waiting = none) :
      Works world task teardown (.next task executionId)
        (world.request (if cancelling then [executionId] else []))
        { teardown with
          collected := teardown.collected.erase executionId
          waiting := some executionId }
  | resumed {executionId : ExecutionId} (waiting : teardown.waiting = some executionId)
      (terminal : world.terminal executionId = true) :
      Works world task teardown (.resume task) world { teardown with waiting := none }
  | lost (suspended : teardown.suspended = true) :
      Works world task teardown (.lose task)
        (world.unpin (teardown.todo.filterMap TeardownOp.released))
        { teardown with todo := [], collected := [], waiting := none }

/-- `world` moves to `after`: one constructor for each branch, with what the branch checks. -/
inductive Moved (world : ScopeWorld) : ScopeAction → ScopeWorld → Prop
  | created {family : Nat} {generation : ScopeId} (freshFamily : world.families family = none)
      (freshGeneration : world.generations generation = none) :
      Moved world (.create family generation) (world.create family generation)
  | childRefused {parent family : Nat} {generation : ScopeId} :
      Moved world (.child parent family generation) world
  | adopted {parent family : Nat} {generation : ScopeId} {inner : ScopeInner}
      (found : world.families parent = some inner) (held : 0 < inner.handles)
      (opened : inner.state.closed = false)
      (admits : world.admissionOpen inner.state.current = true)
      (freshFamily : world.families family = none)
      (freshGeneration : world.generations generation = none) :
      Moved world (.child parent family generation)
        ((world.create family generation).modifyGeneration inner.state.current fun core =>
          { core with children := core.children ++ [family] })
  | upgraded {family : Nat} {inner : ScopeInner} (found : world.families family = some inner)
      (alive : inner.alive = true) :
      Moved world (.upgrade family)
        (world.modifyFamily family fun inner => { inner with handles := inner.handles + 1 })
  | dropped {family : Nat} {inner : ScopeInner} (found : world.families family = some inner)
      (held : 0 < inner.handles) :
      Moved world (.drop family)
        (world.modifyFamily family fun inner => { inner with handles := inner.handles - 1 })
  | submitted {executionId : ExecutionId} {parent : Option ExecutionId}
      (fresh : world.executions executionId = none) :
      Moved world (.submit executionId parent)
        (world.register executionId none (world.callerPath parent))
  | spawnRefused {generation : ScopeId} {accepted : Option ExecutionId} :
      Moved world (.trySpawn generation accepted) world
  | spawned {generation : ScopeId} {executionId : ExecutionId} {core : GenerationCore}
      {inner : ScopeInner} (found : world.generations generation = some core)
      (scope : world.families core.family = some inner) (held : 0 < inner.handles)
      (check : world.checkCurrent inner.state generation = none)
      (fresh : world.executions executionId = none) :
      Moved world (.trySpawn generation (some executionId))
        ((world.register executionId (some generation) []).modifyGeneration generation fun core =>
          { core with controls := core.controls ++ [executionId] })
  | finished {executionId : ExecutionId} :
      Moved world (.finish executionId)
        { world with
          executions := world.executions.modify executionId fun execution =>
            { execution with terminal := true } }
  | untracked {generation : ScopeId} {executionId : ExecutionId}
      (terminal : world.terminal executionId = true) :
      Moved world (.untrack generation executionId)
        (world.modifyGeneration generation fun core =>
          { core with controls := core.controls.erase executionId })
  | closed {family : Nat} {inner : ScopeInner} (found : world.families family = some inner)
      (held : 0 < inner.handles) : Moved world (.close family) (world.shut family inner)
  | cancelBegan {task family : Nat} {wait : Bool} {inner : ScopeInner}
      (found : world.families family = some inner) (held : 0 < inner.handles)
      (fresh : world.tasks task = none) :
      Moved world (.cancel task family wait) (world.cancel task family wait)
  | rotateRefused {process family : Nat} {new : ScopeId} {policy : RotationPolicy}
      {caller : Option ExecutionId} : Moved world (.rotate process family new policy caller) world
  | rotated {process family : Nat} {new : ScopeId} {policy : RotationPolicy}
      {caller : Option ExecutionId} {inner : ScopeInner} {ticket nextGeneration : Nat}
      (found : world.families family = some inner) (held : 0 < inner.handles)
      (freshGeneration : world.generations new = none) (fresh : world.tasks process = none)
      (opened : inner.state.closed = false) (resting : inner.state.rotating = false)
      (outside : world.joined inner.state policy (world.callerPath caller) = none)
      (counted : Checked.add u64Max inner.state.rotationTicket 1 = some ticket)
      (numbered : Checked.add u64Max inner.state.nextGeneration 1 = some nextGeneration) :
      Moved world (.rotate process family new policy caller)
        (world.accept process family inner new policy (world.callerPath caller) ticket
          nextGeneration)
  | pendingCancelled {process : Nat} {rotation : RotationProcess}
      (found : world.rotations process = some rotation) :
      Moved world (.cancelPendingNew process) (world.cancelPendingNew process rotation)
  | worked {task : Nat} {action : ScopeAction} {teardown teardown' : Teardown} {mid : ScopeWorld}
      (found : world.tasks task = some teardown)
      (works : Works world task teardown action mid teardown') :
      Moved world action (mid.setTask task teardown')

variable {world after : ScopeWorld} {action : ScopeAction}

theorem Moved.of_child {parent family : Nat} {generation : ScopeId} {inner : ScopeInner}
    (found : world.families parent = some inner) (held : 0 < inner.handles)
    (freshFamily : world.families family = none)
    (freshGeneration : world.generations generation = none) :
    Moved world (.child parent family generation) (world.child inner family generation).1 := by
  unfold child
  split
  next => exact .childRefused
  next opened =>
    rw [Bool.or_eq_true, Bool.not_eq_true', not_or, Bool.not_eq_true, Bool.not_eq_false] at opened
    exact .adopted found held opened.1 opened.2 freshFamily freshGeneration

theorem Moved.of_rotate {process family : Nat} {new : ScopeId} {policy : RotationPolicy}
    {caller : Option ExecutionId} {inner : ScopeInner}
    (found : world.families family = some inner) (held : 0 < inner.handles)
    (freshGeneration : world.generations new = none) (fresh : world.tasks process = none) :
    Moved world (.rotate process family new policy caller)
      (world.rotate process family inner new policy (world.callerPath caller)).1 := by
  unfold rotate
  split
  next => exact .rotateRefused
  next opened =>
    split
    next => exact .rotateRefused
    next resting =>
      split
      next => exact .rotateRefused
      next outside =>
        split
        next => exact .rotateRefused
        next ticket counted =>
          split
          next => exact .rotateRefused
          next nextGeneration numbered =>
            rw [Bool.not_eq_true] at opened resting
            exact .rotated found held freshGeneration fresh opened resting outside counted numbered

theorem Moved.of_perform {task : Nat} {teardown : Teardown} {rest : List TeardownOp}
    {op : TeardownOp} (found : world.tasks task = some teardown)
    (todo : teardown.todo = op :: rest)
    (step : world.perform task teardown rest op = some after) :
    Moved world (.advance task) after := by
  cases op with
  | start old policy =>
    obtain rfl := Option.some.inj step
    exact .worked found (.started todo)
  | descendants old =>
    obtain rfl := Option.some.inj step
    exact .worked found (.descended todo)
  | collect family =>
    obtain ⟨inner, scope, step⟩ := Option.bind_eq_some_iff.1 step
    obtain rfl := Option.some.inj step
    exact .worked found (.collected todo scope)
  | controls generation =>
    obtain rfl := Option.some.inj step
    exact .worked found (.read todo)
  | release family =>
    obtain rfl := Option.some.inj step
    exact .worked found (.released todo)
  | cancel =>
    obtain rfl := Option.some.inj step
    exact .worked found (.cancelled todo)
  | join cancelling =>
    simp only [perform] at step
    split at step
    next finished =>
      obtain rfl := Option.some.inj step
      exact .worked found (.joined todo finished.1 finished.2)
    next => cases step
  | joinOwn controls =>
    obtain rfl := Option.some.inj step
    exact .worked found (.joinedOwn todo)
  | decide =>
    obtain ⟨rotation, process, step⟩ := Option.bind_eq_some_iff.1 step
    obtain ⟨inner, scope, step⟩ := Option.bind_eq_some_iff.1 step
    obtain rfl := Option.some.inj step
    exact .worked found (.decided todo process scope)
  | publish outcome =>
    obtain ⟨rotation, process, step⟩ := Option.bind_eq_some_iff.1 step
    obtain rfl := Option.some.inj step
    exact .worked found (.published todo process)
  | returns =>
    obtain rfl := Option.some.inj step
    exact .worked found (.returned todo)

theorem Moved.of_step (step : world.step action = some after) : Moved world action after := by
  cases action with
  | create family generation =>
    simp only [ScopeWorld.step, Option.isNone_iff_eq_none] at step
    split at step
    next fresh =>
      obtain rfl := Option.some.inj step
      exact .created fresh.1 fresh.2
    next => cases step
  | child parent family generation =>
    obtain ⟨inner, found, step⟩ := Option.bind_eq_some_iff.1 step
    simp only [Option.isNone_iff_eq_none] at step
    split at step
    next fresh =>
      obtain rfl := Option.some.inj step
      exact .of_child found fresh.1 fresh.2.1 fresh.2.2
    next => cases step
  | upgrade family =>
    obtain ⟨inner, found, step⟩ := Option.bind_eq_some_iff.1 step
    split at step
    next alive =>
      obtain rfl := Option.some.inj step
      exact .upgraded found alive
    next => cases step
  | drop family =>
    obtain ⟨inner, found, step⟩ := Option.bind_eq_some_iff.1 step
    split at step
    next held =>
      obtain rfl := Option.some.inj step
      exact .dropped found held
    next => cases step
  | submit executionId parent =>
    simp only [ScopeWorld.step, Option.isNone_iff_eq_none] at step
    split at step
    next fresh =>
      obtain rfl := Option.some.inj step
      exact .submitted fresh
    next => cases step
  | trySpawn generation accepted =>
    obtain ⟨core, found, step⟩ := Option.bind_eq_some_iff.1 step
    obtain ⟨inner, scope, step⟩ := Option.bind_eq_some_iff.1 step
    simp only [Option.isNone_iff_eq_none] at step
    split at step
    next fresh =>
      obtain rfl := Option.some.inj step
      unfold ScopeWorld.trySpawn
      cases check : world.checkCurrent inner.state generation with
      | some error => exact .spawnRefused
      | none =>
        cases accepted with
        | none => exact .spawnRefused
        | some executionId => exact .spawned found scope fresh.1 check fresh.2
    next => cases step
  | finish executionId =>
    obtain rfl := Option.some.inj step
    exact .finished
  | untrack generation executionId =>
    simp only [ScopeWorld.step] at step
    split at step
    next terminal =>
      obtain rfl := Option.some.inj step
      exact .untracked terminal
    next => cases step
  | close family =>
    obtain ⟨inner, found, step⟩ := Option.bind_eq_some_iff.1 step
    split at step
    next held =>
      obtain rfl := Option.some.inj step
      exact .closed found held
    next => cases step
  | cancel task family wait =>
    obtain ⟨inner, found, step⟩ := Option.bind_eq_some_iff.1 step
    simp only [Option.isNone_iff_eq_none] at step
    split at step
    next fresh =>
      obtain rfl := Option.some.inj step
      exact .cancelBegan found fresh.1 fresh.2
    next => cases step
  | rotate process family new policy caller =>
    obtain ⟨inner, found, step⟩ := Option.bind_eq_some_iff.1 step
    simp only [Option.isNone_iff_eq_none] at step
    split at step
    next fresh =>
      obtain rfl := Option.some.inj step
      exact .of_rotate found fresh.1 fresh.2.1 fresh.2.2
    next => cases step
  | cancelPendingNew process =>
    obtain ⟨rotation, found, step⟩ := Option.bind_eq_some_iff.1 step
    obtain rfl := Option.some.inj step
    exact .pendingCancelled found
  | advance task =>
    obtain ⟨teardown, found, step⟩ := Option.bind_eq_some_iff.1 step
    split at step
    next op rest todo => exact .of_perform found todo step
    next => cases step
  | next task executionId =>
    obtain ⟨teardown, found, step⟩ := Option.bind_eq_some_iff.1 step
    unfold ScopeWorld.next at step
    split at step
    next cancelling rest todo =>
      split at step
      next ready =>
        obtain rfl := Option.some.inj step
        exact .worked found (.took todo ready.1 ready.2)
      next => cases step
    next => cases step
  | resume task =>
    obtain ⟨teardown, found, step⟩ := Option.bind_eq_some_iff.1 step
    obtain ⟨executionId, waiting, step⟩ := Option.bind_eq_some_iff.1 step
    split at step
    next terminal =>
      obtain rfl := Option.some.inj step
      exact .worked found (.resumed waiting terminal)
    next => cases step
  | lose task =>
    obtain ⟨teardown, found, step⟩ := Option.bind_eq_some_iff.1 step
    split at step
    next suspended =>
      obtain rfl := Option.some.inj step
      exact .worked found (.lost suspended)
    next => cases step

/-! ## What one task does -/

@[simp] theorem tasks_pin {families : List Nat} : (world.pin families).tasks = world.tasks := by
  induction families generalizing world with
  | nil => rfl
  | cons family families ih => exact ih.trans rfl

@[simp] theorem tasks_unpin {families : List Nat} : (world.unpin families).tasks = world.tasks := by
  induction families generalizing world with
  | nil => rfl
  | cons family families ih => exact ih.trans rfl

@[simp] theorem rotations_pin {families : List Nat} :
    (world.pin families).rotations = world.rotations := by
  induction families generalizing world with
  | nil => rfl
  | cons family families ih => exact ih.trans rfl

@[simp] theorem rotations_unpin {families : List Nat} :
    (world.unpin families).rotations = world.rotations := by
  induction families generalizing world with
  | nil => rfl
  | cons family families ih => exact ih.trans rfl

/-- A call begins a task. -/
inductive Begins (world : ScopeWorld) (task : Nat) : ScopeAction → Teardown → Prop
  | cancel {family : Nat} {wait : Bool} {inner : ScopeInner}
      (found : world.families family = some inner) :
      Begins world task (.cancel task family wait)
        { target := none
          todo := [.collect family, .cancel] ++ (if wait then [.join false] else []) ++
            [.returns, .release family]
          collected := []
          waiting := none
          returned := false }
  | rotate {family : Nat} {new : ScopeId} {policy : RotationPolicy}
      {caller : Option ExecutionId} {inner : ScopeInner}
      (found : world.families family = some inner)
      (outside : world.joined inner.state policy (world.callerPath caller) = none) :
      Begins world task (.rotate task family new policy caller)
        { target := some inner.state.current
          todo := [.start inner.state.current policy, .decide, .release family]
          collected := []
          waiting := none
          returned := false }

theorem conclude_tasks {inner : ScopeInner} {rotation : RotationProcess} :
    (world.conclude inner rotation).1.tasks = world.tasks := by
  unfold conclude
  split
  next => rfl
  next =>
    split
    next => rfl
    next => rfl

theorem Works.tasks {task : Nat} {teardown teardown' : Teardown} {mid : ScopeWorld}
    (works : world.Works task teardown action mid teardown') : mid.tasks = world.tasks := by
  cases works with
  | started | read | cancelled | joined | joinedOwn | published | returned | took | resumed => rfl
  | descended => exact tasks_pin
  | collected => exact tasks_pin
  | released | lost => exact tasks_unpin
  | decided => exact conclude_tasks

/-- A task is as it was, it went on, or it has begun. -/
theorem Moved.task {task : Nat} {teardown' : Teardown} (moved : world.Moved action after)
    (found' : after.tasks task = some teardown') :
    world.tasks task = some teardown' ∨
    (∃ teardown mid, world.tasks task = some teardown ∧
      world.Works task teardown action mid teardown' ∧ after = mid.setTask task teardown') ∨
    world.tasks task = none ∧ world.Begins task action teardown' := by
  cases moved with
  | created | childRefused | adopted | upgraded | dropped | submitted | spawnRefused | spawned
  | finished | untracked | closed | rotateRefused | pendingCancelled => exact .inl found'
  | cancelBegan found held fresh =>
    rcases Pool.of_set_eq_some found' with ⟨rfl, rfl⟩ | ⟨-, old⟩
    · exact .inr (.inr ⟨fresh, .cancel found⟩)
    · exact .inl (tasks_pin ▸ old)
  | rotated found held freshGeneration fresh opened resting outside =>
    rcases Pool.of_set_eq_some found' with ⟨rfl, rfl⟩ | ⟨-, old⟩
    · exact .inr (.inr ⟨fresh, .rotate found outside⟩)
    · exact .inl old
  | @worked moving _ teardown next mid found works =>
    rcases Pool.of_set_eq_some found' with ⟨rfl, rfl⟩ | ⟨-, old⟩
    · exact .inr (.inl ⟨teardown, mid, found, works, rfl⟩)
    · exact .inl (works.tasks ▸ old)

/-- A task stays. -/
theorem Moved.task_kept {task : Nat} {teardown : Teardown} (moved : world.Moved action after)
    (found : world.tasks task = some teardown) :
    ∃ teardown', after.tasks task = some teardown' := by
  cases moved with
  | created | childRefused | adopted | upgraded | dropped | submitted | spawnRefused | spawned
  | finished | untracked | closed | rotateRefused | pendingCancelled => exact ⟨teardown, found⟩
  | @cancelBegan begun family _ _ _ _ fresh =>
    have pinned : (world.pin [family]).tasks task = some teardown :=
      (congrFun tasks_pin task).trans found
    exact ⟨teardown, (Pool.set_of_ne (Pool.ne_of_none fresh found)).trans pinned⟩
  | rotated _ _ _ fresh =>
    exact ⟨teardown, (Pool.set_of_ne (Pool.ne_of_none fresh found)).trans found⟩
  | @worked moving _ _ teardown' _ _ works =>
    by_cases same : task = moving
    · exact ⟨teardown', same ▸ Pool.set_self⟩
    · exact ⟨teardown, (Pool.set_of_ne same).trans (works.tasks ▸ found)⟩

/-! ## The executions -/

theorem executions_pin {families : List Nat} :
    (world.pin families).executions = world.executions := by
  induction families generalizing world with
  | nil => rfl
  | cons family families ih => exact ih.trans rfl

theorem executions_unpin {families : List Nat} :
    (world.unpin families).executions = world.executions := by
  induction families generalizing world with
  | nil => rfl
  | cons family families ih => exact ih.trans rfl

theorem Works.executions {task : Nat} {teardown teardown' : Teardown} {mid : ScopeWorld}
    (works : world.Works task teardown action mid teardown') :
    mid.executions = world.executions := by
  cases works with
  | started | read | cancelled | joined | joinedOwn | published | returned | took | resumed => rfl
  | descended => exact executions_pin
  | collected => exact executions_pin
  | released | lost => exact executions_unpin
  | decided =>
    unfold conclude
    split
    next => rfl
    next =>
      split
      next => rfl
      next => rfl

/-- Executions are admitted by `try_spawn` or elsewhere, and finish. -/
theorem Moved.executions (moved : world.Moved action after) :
    after.executions = world.executions ∨
    (∃ executionId, action = .finish executionId ∧
      after.executions = world.executions.modify executionId fun execution =>
        { execution with terminal := true }) ∨
    ∃ executionId origin ancestors, world.executions executionId = none ∧
      (∀ generation, origin = some generation →
        action = .trySpawn generation (some executionId)) ∧
      after.executions = world.executions.set executionId
        { generation := origin, path := ancestors ++ [executionId], terminal := false } := by
  cases moved with
  | created | childRefused | adopted | upgraded | dropped | spawnRefused | untracked | closed
  | rotateRefused | rotated | pendingCancelled => exact .inl rfl
  | cancelBegan => exact .inl executions_pin
  | worked _ works => exact .inl works.executions
  | finished => exact .inr (.inl ⟨_, rfl, rfl⟩)
  | submitted fresh =>
    refine .inr (.inr ⟨_, none, _, fresh, fun generation absurd => ?_, rfl⟩)
    cases absurd
  | spawned found scope held check fresh =>
    refine .inr (.inr ⟨_, _, [], fresh, fun generation same => ?_, rfl⟩)
    rw [Option.some.inj same]

end ScopeWorld

end BusyBeaver
