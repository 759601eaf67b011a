import BusyBeaver.Lib.Transition
import BusyBeaver.Lib.Pool
import BusyBeaver.Slot.State

/-!
# Scopes, their generations and what tears them down

`src/scope.rs` for any number of scopes.  A `ScopeInner` is shared by the handles of the
callers (`handles`) and by the tasks that have upgraded a `Weak` to it (`pins`); when both
are gone the upgrade fails for good.  A scope has one state mutex, and whatever the source
does while it holds it is one action here: the acceptance of `rotate`, `child`, `try_spawn`,
`close`, the first half of `collect_scope_controls`, the decision of `run_rotation`.

`run_rotation`, `cancel` and `cancel_and_wait` run as tasks.  A task carries what is left of
its code as a list of operations; the recursion of `collect_scope_controls` is this list
used as a stack.  The lane is an oracle: it accepts a submission with a fresh execution or
refuses it, and a live execution may finish at any time.
-/

namespace BusyBeaver

open Transition Checked

/-- The id of a generation. -/
abbrev ScopeId : Type := Nat

inductive RotationPolicy : Type
  | strict
  | availabilityFirst
  deriving DecidableEq, Repr

inductive RotationOutcome : Type
  | rotated (old new : ScopeId)
  | cancelled (old reserved : ScopeId)
  | failed
  deriving DecidableEq, Repr

/-- Why `child` and `rotate` refuse; the poisoned lock is left out. -/
inductive ScopeError : Type
  | closed
  | rotationInProgress
  | wouldJoin (executionId : ExecutionId)
  | sequenceExhausted
  deriving DecidableEq, Repr

/-- Why `check_current` refuses. -/
inductive ScopeSpawnError : Type
  | scopeClosed
  | staleGeneration
  deriving DecidableEq, Repr

/-- A `GenerationCore`.  `family` is the scope that `ScopeGeneration` pairs it with, the
`children` are weak references. -/
structure GenerationCore : Type where
  family : Nat
  number : Nat
  admissionOpen : Bool
  controls : List ExecutionId
  children : List Nat
  deriving DecidableEq, Repr

/-- `GenerationCore::new`. -/
def GenerationCore.new (family number : Nat) : GenerationCore where
  family := family
  number := number
  admissionOpen := true
  controls := []
  children := []

structure ScopeState : Type where
  current : ScopeId
  nextGeneration : Nat
  rotating : Bool
  rotationTicket : Nat
  closed : Bool
  deriving DecidableEq, Repr

/-- The state of `Scope::new`. -/
def ScopeState.new (current : ScopeId) : ScopeState where
  current := current
  nextGeneration := 2
  rotating := false
  rotationTicket := 0
  closed := false

structure ScopeInner : Type where
  state : ScopeState
  handles : Nat
  pins : Nat
  deriving DecidableEq, Repr

/-- `Weak::upgrade` succeeds. -/
def ScopeInner.alive (inner : ScopeInner) : Bool := decide (0 < inner.handles + inner.pins)

/-- An execution, the generation it was admitted with, and its execution path. -/
structure ScopedExecution : Type where
  generation : Option ScopeId
  path : List ExecutionId
  terminal : Bool
  deriving DecidableEq, Repr

/-- The current generation after the acceptance of a rotation. -/
def RotationPolicy.accepting (policy : RotationPolicy) (current new : ScopeId) : ScopeId :=
  match policy with
  | .strict => current
  | .availabilityFirst => new

/-- The current generation after a rotation. -/
def RotationPolicy.concluding (policy : RotationPolicy) (current new : ScopeId) : ScopeId :=
  match policy with
  | .strict => new
  | .availabilityFirst => current

/-- What `rotate` moves into the supervisor; `path` is the execution path it was called on. -/
structure RotationPlan : Type where
  family : Nat
  old : ScopeId
  new : ScopeId
  ticket : Nat
  policy : RotationPolicy
  path : List ExecutionId
  deriving DecidableEq, Repr

/-- A `RotationProcess`; `answers` is what the calls of `cancel_pending_new` returned. -/
structure RotationProcess : Type extends RotationPlan where
  cancelled : Bool
  answers : List Bool
  result : Option RotationOutcome
  deriving DecidableEq, Repr

/-- What is left of a task. -/
inductive TeardownOp : Type
  /-- the beginning of `run_rotation`: `old.controls()`, each of them cancelled -/
  | start (old : ScopeId) (policy : RotationPolicy)
  /-- `old.descendants()`, and the loop over them -/
  | descendants (old : ScopeId)
  /-- `collect_scope_controls(family, true)`, up to the release of the state mutex -/
  | collect (family : Nat)
  /-- `generation.controls()` -/
  | controls (generation : ScopeId)
  /-- the `Arc` of a scope is dropped -/
  | release (family : Nat)
  /-- every collected control is cancelled -/
  | cancel
  /-- the loop that awaits the collected controls, cancelling each before if `cancelling` -/
  | join (cancelling : Bool)
  /-- the same for the controls read at the beginning of `run_rotation` -/
  | joinOwn (controls : List ExecutionId)
  /-- the last critical section of `run_rotation` -/
  | decide
  /-- the outcome is sent -/
  | publish (outcome : RotationOutcome)
  /-- `cancel` or `cancel_and_wait` returns -/
  | returns
  deriving DecidableEq, Repr

/-- The `Arc` that is dropped with an operation. -/
def TeardownOp.released : TeardownOp → Option Nat
  | .release family => some family
  | _ => none

/-- A task; `target` is the generation it tears down, once it is known. -/
structure Teardown : Type where
  target : Option ScopeId
  todo : List TeardownOp
  collected : List ExecutionId
  waiting : Option ExecutionId
  returned : Bool
  deriving DecidableEq, Repr

/-- The runtime may drop the task: it was not polled, or it is suspended. -/
def Teardown.suspended (task : Teardown) : Bool :=
  match task.todo with
  | .start _ _ :: _ => true
  | _ => task.waiting.isSome

structure ScopeWorld : Type where
  families : Pool ScopeInner
  generations : Pool GenerationCore
  executions : Pool ScopedExecution
  tasks : Pool Teardown
  rotations : Pool RotationProcess
  cancelRequested : List ExecutionId

inductive ScopeAction : Type
  /-- `Beaver::create_scope` of a new name -/
  | create (family : Nat) (generation : ScopeId)
  | child (parent family : Nat) (generation : ScopeId)
  /-- a clone of a `Scope`, or the upgrade of a weak reference by a call -/
  | upgrade (family : Nat)
  | drop (family : Nat)
  /-- an execution admitted outside the scopes, by the body of `parent` if there is one -/
  | submit (executionId : ExecutionId) (parent : Option ExecutionId)
  /-- one of the `try_spawn*`, with the execution that the lane would accept it as -/
  | trySpawn (generation : ScopeId) (accepted : Option ExecutionId)
  | finish (executionId : ExecutionId)
  /-- the task of `track` removes a terminal control -/
  | untrack (generation : ScopeId) (executionId : ExecutionId)
  | close (family : Nat)
  | cancel (task family : Nat) (wait : Bool)
  | rotate (process family : Nat) (new : ScopeId) (policy : RotationPolicy)
      (caller : Option ExecutionId)
  | cancelPendingNew (process : Nat)
  /-- the next operation of a task -/
  | advance (task : Nat)
  /-- the loop of a task takes its next control -/
  | next (task : Nat) (executionId : ExecutionId)
  | resume (task : Nat)
  | lose (task : Nat)
  deriving DecidableEq, Repr

namespace ScopeWorld

/-- No scope yet. -/
def new : ScopeWorld where
  families := fun _ => none
  generations := fun _ => none
  executions := fun _ => none
  tasks := fun _ => none
  rotations := fun _ => none
  cancelRequested := []

variable (world : ScopeWorld)

/-! ## Reading -/

/-- `GenerationCore::controls`. -/
def controls (generation : ScopeId) : List ExecutionId :=
  ((world.generations generation).map GenerationCore.controls).getD []

def admissionOpen (generation : ScopeId) : Bool :=
  ((world.generations generation).map GenerationCore.admissionOpen).getD false

def alive (family : Nat) : Bool :=
  ((world.families family).map ScopeInner.alive).getD false

def terminal (executionId : ExecutionId) : Bool :=
  ((world.executions executionId).map ScopedExecution.terminal).getD false

def children (generation : ScopeId) : List Nat :=
  ((world.generations generation).map GenerationCore.children).getD []

/-- `GenerationCore::descendants`. -/
def descendants (generation : ScopeId) : List Nat :=
  (world.children generation).filter world.alive

/-- The execution path that the code of `caller` runs on; outside of executions there is
none. -/
def callerPath (caller : Option ExecutionId) : List ExecutionId :=
  ((caller.bind world.executions).map ScopedExecution.path).getD []

/-- `ScopeGeneration::check_current`, of the scope with state `state`. -/
def checkCurrent (state : ScopeState) (generation : ScopeId) : Option ScopeSpawnError :=
  if state.closed then some .scopeClosed
  else if state.current ≠ generation ∨ world.admissionOpen generation = false then
    some .staleGeneration
  else none

/-! ## Writing -/

def modifyFamily (family : Nat) (f : ScopeInner → ScopeInner) : ScopeWorld :=
  { world with families := world.families.modify family f }

def modifyGeneration (generation : ScopeId) (f : GenerationCore → GenerationCore) : ScopeWorld :=
  { world with generations := world.generations.modify generation f }

def setTask (task : Nat) (teardown : Teardown) : ScopeWorld :=
  { world with tasks := world.tasks.set task teardown }

def setRotation (process : Nat) (rotation : RotationProcess) : ScopeWorld :=
  { world with rotations := world.rotations.set process rotation }

/-- `TaskControlHandle::cancel` of each. -/
def request (controls : List ExecutionId) : ScopeWorld :=
  { world with cancelRequested := world.cancelRequested ++ controls }

/-- A task holds the scopes of `families`. -/
def pin (families : List Nat) : ScopeWorld :=
  families.foldl (fun world family =>
    world.modifyFamily family fun inner => { inner with pins := inner.pins + 1 }) world

/-- A task drops the scopes of `families`. -/
def unpin (families : List Nat) : ScopeWorld :=
  families.foldl (fun world family =>
    world.modifyFamily family fun inner => { inner with pins := inner.pins - 1 }) world

def closeAdmission (generation : ScopeId) : ScopeWorld :=
  world.modifyGeneration generation fun core => { core with admissionOpen := false }

/-- The section of `close`, and of `collect_scope_controls` with `close`. -/
def shut (family : Nat) (inner : ScopeInner) : ScopeWorld :=
  (world.modifyFamily family fun inner =>
    { inner with state := { inner.state with closed := true } }).closeAdmission
      inner.state.current

/-! ## The calls -/

/-- `Scope::new`, held by its caller. -/
def create (family : Nat) (generation : ScopeId) : ScopeWorld :=
  { world with
    families := world.families.set family { state := .new generation, handles := 1, pins := 0 }
    generations := world.generations.set generation (.new family 1) }

/-- `Scope::child` on the scope `inner`. -/
def child (inner : ScopeInner) (family : Nat) (generation : ScopeId) :
    ScopeWorld × Option ScopeError :=
  if inner.state.closed || !world.admissionOpen inner.state.current then (world, some .closed)
  else
    ((world.create family generation).modifyGeneration inner.state.current fun core =>
      { core with children := core.children ++ [family] }, none)

/-- A new execution. -/
def register (executionId : ExecutionId) (generation : Option ScopeId)
    (ancestors : List ExecutionId) : ScopeWorld :=
  { world with
    executions := world.executions.set executionId
      { generation := generation, path := ancestors ++ [executionId], terminal := false } }

/-- The section of `try_spawn`: the check, the submission to the lane and `track`. -/
def trySpawn (state : ScopeState) (generation : ScopeId) (accepted : Option ExecutionId) :
    ScopeWorld :=
  match world.checkCurrent state generation, accepted with
  | none, some executionId =>
    (world.register executionId (some generation) []).modifyGeneration generation fun core =>
      { core with controls := core.controls ++ [executionId] }
  | _, _ => world

/-- The control of the current generation that a strict rotation would join. -/
def joined (state : ScopeState) (policy : RotationPolicy) (path : List ExecutionId) :
    Option ExecutionId :=
  match policy with
  | .strict => (world.controls state.current).find? (wouldJoin path)
  | .availabilityFirst => none

/-- What `rotate` writes when it accepts, and the supervisor that it spawns. -/
def accept (process family : Nat) (inner : ScopeInner) (new : ScopeId) (policy : RotationPolicy)
    (path : List ExecutionId) (ticket nextGeneration : Nat) : ScopeWorld :=
  let old := inner.state.current
  let closed := world.closeAdmission old
  { closed with
    families := closed.families.modify family fun inner =>
      { inner with
        state := { inner.state with
          rotating := true
          rotationTicket := ticket
          nextGeneration := nextGeneration
          current := policy.accepting inner.state.current new }
        pins := inner.pins + 1 }
    generations := closed.generations.set new (.new family inner.state.nextGeneration)
    rotations := closed.rotations.set process
      { family := family, old := old, new := new, ticket := ticket, policy := policy,
        path := path, cancelled := false, answers := [], result := none }
    tasks := closed.tasks.set process
      { target := some old, todo := [.start old policy, .decide, .release family],
        collected := [], waiting := none, returned := false } }

/-- `Scope::rotate`, called on the path `path` of executions. -/
def rotate (process family : Nat) (inner : ScopeInner) (new : ScopeId) (policy : RotationPolicy)
    (path : List ExecutionId) : ScopeWorld × Option ScopeError :=
  if inner.state.closed then (world, some .closed)
  else if inner.state.rotating then (world, some .rotationInProgress)
  else
    match world.joined inner.state policy path with
    | some executionId => (world, some (.wouldJoin executionId))
    | none =>
      match Checked.add u64Max inner.state.rotationTicket 1 with
      | none => (world, some .sequenceExhausted)
      | some ticket =>
        match Checked.add u64Max inner.state.nextGeneration 1 with
        | none => (world, some .sequenceExhausted)
        | some nextGeneration =>
          (world.accept process family inner new policy path ticket nextGeneration, none)

/-- `Scope::cancel`, or `cancel_and_wait` if `wait`. -/
def cancel (task family : Nat) (wait : Bool) : ScopeWorld :=
  (world.pin [family]).setTask task
    { target := none
      todo := [.collect family, .cancel] ++ (if wait then [.join false] else []) ++
        [.returns, .release family]
      collected := []
      waiting := none
      returned := false }

/-- `RotationHandle::cancel_pending_new`: the flag is swapped. -/
def cancelPendingNew (process : Nat) (rotation : RotationProcess) : ScopeWorld :=
  world.setRotation process
    { rotation with cancelled := true, answers := rotation.answers ++ [!rotation.cancelled] }

/-! ## The tasks -/

/-- A strict rotation awaits the controls it has read at its beginning. -/
def ownJoin (policy : RotationPolicy) (controls : List ExecutionId) : List TeardownOp :=
  match policy with
  | .strict => [.joinOwn controls]
  | .availabilityFirst => []

/-- The loop of `run_rotation` over the children of the old generation. -/
def joinEach (children : List Nat) : List TeardownOp :=
  children.flatMap fun family => [.collect family, .join true, .release family]

/-- The loop of `collect_scope_controls` over the children of the current generation. -/
def collectEach (children : List Nat) : List TeardownOp :=
  children.flatMap fun family => [.collect family, .release family]

/-- The decision of `run_rotation` and its outcome. -/
def conclude (inner : ScopeInner) (rotation : RotationProcess) : ScopeWorld × RotationOutcome :=
  if inner.state.rotationTicket ≠ rotation.ticket then (world, .failed)
  else if rotation.cancelled then
    ((world.closeAdmission rotation.new).modifyFamily rotation.family fun inner =>
      { inner with state := { inner.state with closed := true, rotating := false } },
      .cancelled rotation.old rotation.new)
  else
    (world.modifyFamily rotation.family fun inner =>
      { inner with state := { inner.state with
          current := rotation.policy.concluding inner.state.current rotation.new
          rotating := false } },
      .rotated rotation.old rotation.new)

/-- One operation of a task; `rest` is what follows it. -/
def perform (task : Nat) (teardown : Teardown) (rest : List TeardownOp) :
    TeardownOp → Option ScopeWorld
  | .start old policy =>
    let controls := world.controls old
    some ((world.request controls).setTask task
      { teardown with
        todo := .descendants old :: ownJoin policy controls ++ rest })
  | .descendants old =>
    let children := world.descendants old
    some ((world.pin children).setTask task { teardown with todo := joinEach children ++ rest })
  | .collect family =>
    (world.families family).bind fun inner =>
      let generation := inner.state.current
      let children := world.descendants generation
      some (((world.shut family inner).pin children).setTask task
        { teardown with
          target := teardown.target.or (some generation)
          todo := .controls generation :: collectEach children ++ rest })
  | .controls generation =>
    some (world.setTask task
      { teardown with
        todo := rest
        collected := teardown.collected ++ world.controls generation })
  | .release family => some ((world.unpin [family]).setTask task { teardown with todo := rest })
  | .cancel =>
    some ((world.request teardown.collected).setTask task { teardown with todo := rest })
  | .join _ =>
    if teardown.collected = [] ∧ teardown.waiting = none then
      some (world.setTask task { teardown with todo := rest })
    else none
  | .joinOwn controls =>
    some (world.setTask task
      { teardown with
        todo := .join false :: rest
        collected := teardown.collected ++ controls })
  | .decide =>
    (world.rotations task).bind fun rotation =>
      (world.families rotation.family).bind fun inner =>
        let (world, outcome) := world.conclude inner rotation
        some (world.setTask task { teardown with todo := .publish outcome :: rest })
  | .publish outcome =>
    (world.rotations task).bind fun rotation =>
      some ((world.setRotation task { rotation with result := some outcome }).setTask task
        { teardown with todo := rest })
  | .returns => some (world.setTask task { teardown with todo := rest, returned := true })

/-- The loop of a task takes one of the collected controls; a map has no order of its own. -/
def next (task : Nat) (teardown : Teardown) (executionId : ExecutionId) : Option ScopeWorld :=
  match teardown.todo with
  | .join cancelling :: _ =>
    if executionId ∈ teardown.collected ∧ teardown.waiting = none then
      some ((world.request (if cancelling then [executionId] else [])).setTask task
        { teardown with
          collected := teardown.collected.erase executionId
          waiting := some executionId })
    else none
  | _ => none

/-- The awaited control is terminal. -/
def resume (task : Nat) (teardown : Teardown) : Option ScopeWorld :=
  teardown.waiting.bind fun executionId =>
    if world.terminal executionId then
      some (world.setTask task { teardown with waiting := none })
    else none

/-- The runtime drops the task with everything it holds. -/
def lose (task : Nat) (teardown : Teardown) : ScopeWorld :=
  (world.unpin (teardown.todo.filterMap TeardownOp.released)).setTask task
    { teardown with todo := [], collected := [], waiting := none }

def step : ScopeAction → Option ScopeWorld
  | .create family generation =>
    if (world.families family).isNone ∧ (world.generations generation).isNone then
      some (world.create family generation)
    else none
  | .child parent family generation =>
    (world.families parent).bind fun inner =>
      if 0 < inner.handles ∧ (world.families family).isNone ∧
          (world.generations generation).isNone then
        some (world.child inner family generation).1
      else none
  | .upgrade family =>
    (world.families family).bind fun inner =>
      if inner.alive then
        some (world.modifyFamily family fun inner => { inner with handles := inner.handles + 1 })
      else none
  | .drop family =>
    (world.families family).bind fun inner =>
      if 0 < inner.handles then
        some (world.modifyFamily family fun inner => { inner with handles := inner.handles - 1 })
      else none
  | .submit executionId parent =>
    if (world.executions executionId).isNone then
      some (world.register executionId none (world.callerPath parent))
    else none
  | .trySpawn generation accepted =>
    (world.generations generation).bind fun core =>
      (world.families core.family).bind fun inner =>
        if 0 < inner.handles ∧ (accepted.bind world.executions).isNone then
          some (world.trySpawn inner.state generation accepted)
        else none
  | .finish executionId =>
    some { world with
      executions := world.executions.modify executionId fun execution =>
        { execution with terminal := true } }
  | .untrack generation executionId =>
    if world.terminal executionId then
      some (world.modifyGeneration generation fun core =>
        { core with controls := core.controls.erase executionId })
    else none
  | .close family =>
    (world.families family).bind fun inner =>
      if 0 < inner.handles then some (world.shut family inner) else none
  | .cancel task family wait =>
    (world.families family).bind fun inner =>
      if 0 < inner.handles ∧ (world.tasks task).isNone then some (world.cancel task family wait)
      else none
  | .rotate process family new policy caller =>
    (world.families family).bind fun inner =>
      if 0 < inner.handles ∧ (world.generations new).isNone ∧ (world.tasks process).isNone then
        some (world.rotate process family inner new policy (world.callerPath caller)).1
      else none
  | .cancelPendingNew process =>
    (world.rotations process).bind fun rotation => some (world.cancelPendingNew process rotation)
  | .advance task =>
    (world.tasks task).bind fun teardown =>
      match teardown.todo with
      | op :: rest => world.perform task teardown rest op
      | [] => none
  | .next task executionId =>
    (world.tasks task).bind fun teardown => world.next task teardown executionId
  | .resume task => (world.tasks task).bind fun teardown => world.resume task teardown
  | .lose task =>
    (world.tasks task).bind fun teardown =>
      if teardown.suspended then some (world.lose task teardown) else none

end ScopeWorld

/-- All the scopes of a program. -/
def scopes : System ScopeWorld ScopeAction where
  init := .new
  step := ScopeWorld.step

end BusyBeaver
