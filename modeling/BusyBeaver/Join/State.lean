import BusyBeaver.Lib.Transition
import BusyBeaver.Supervision.State

/-!
# Who may wait for whom

`CURRENT_EXECUTION_PATH` of `src/execution.rs` and the checked wait that reads it.  The
task-local is set by `scope` at the three places where a runner spawns its body; the
futures which `wait_attempt`, `run_tick`, `run_service` and `run_shutdown_hook` spawn are
plain `tokio::spawn`s, and a task-local is not inherited by a spawned task.

Any number of executions are alive, submitted from outside or spawned as children from a
context.  When an execution commits is decided elsewhere; here it is an action of its own,
as is each start of a job by the supervisor that runs in the body.
-/

namespace BusyBeaver

open Transition

/-- Where a user's code runs: `factory` is the call of the operation factory in the runner,
`body` the body task, and the others are the jobs of the supervisors. -/
inductive JoinPlace : Type
  | factory
  | body
  | attempt
  | tick
  | serviceBody
  | shutdownHook
  deriving DecidableEq, Repr

/-- The jobs that the supervisor of an execution spawns. -/
def Kind.spawns : Kind → JoinPlace → Bool
  | .retry _, .attempt => true
  | .recurring (.retry _), .attempt => true
  | .recurring .tick, .tick => true
  | .service _, .serviceBody => true
  | .service hook, .shutdownHook => hook
  | _, _ => false

/-- `ExecutionWaitError`. -/
inductive ExecutionWaitError : Type
  | wouldJoin (current target : Nat)
  deriving DecidableEq, Repr

/-- What the code of a task is doing about a checked wait. -/
inductive CheckedWait : Type
  | idle
  | suspended (target : Nat)
  | refused (error : ExecutionWaitError)
  | answered (target : Nat)
  deriving DecidableEq, Repr

/-- A task that runs the code of execution `owner`. -/
structure JoinTask : Type where
  owner : Nat
  place : JoinPlace
  currentExecutionPath : Option (List Nat)
  wait : CheckedWait
  deriving DecidableEq, Repr

/-- How far the runner is: `calling` is inside the factory. -/
inductive JoinStage : Type
  | prepared
  | calling
  | supervising
  | committed
  deriving DecidableEq, Repr

/-- What the checked wait needs of an `ExecutionCore`.  `parent` is the execution whose
context spawned this one; the source keeps it only as the path. -/
structure JoinCore : Type where
  kind : Kind
  parent : Option Nat
  executionPath : List Nat
  children : ChildSet
  stage : JoinStage
  deriving DecidableEq, Repr

/-- Executions and tasks, each named by its index. -/
structure JoinWorld : Type where
  maximumChildren : Nat
  executions : List JoinCore
  tasks : List JoinTask
  deriving DecidableEq, Repr

inductive JoinAction : Type
  | submit (kind : Kind)
  | spawnChild (parent attempt : Nat) (available : Bool)
  | beginAttempt (execution attempt : Nat)
  | closeAttemptChildren (execution attempt : Nat)
  | closeChildren (execution : Nat)
  | start (execution : Nat)
  | spawnBody (execution : Nat)
  | spawnJob (execution : Nat) (place : JoinPlace)
  | waitChecked (task target : Nat)
  | wake (task : Nat)
  | commit (execution : Nat)
  deriving DecidableEq, Repr

/-- `would_join`, by the task-local of the task that runs it. -/
def ExecutionControl.wouldJoin (currentExecutionPath : Option (List Nat)) (execution : Nat) :
    Bool :=
  match currentExecutionPath with
  | some path => path.contains execution
  | none => false

/-- The refusal of `wait_checked`. -/
def ExecutionWaitError.of (currentExecutionPath : Option (List Nat)) (target : Nat) :
    ExecutionWaitError :=
  .wouldJoin ((currentExecutionPath.bind List.getLast?).getD target) target

namespace JoinWorld

def new (maximumChildren : Nat) : JoinWorld := ⟨maximumChildren, [], []⟩

/-- `ExecutionCore::new`. -/
def prepare (world : JoinWorld) (kind : Kind) (parent : Option Nat) (ancestors : List Nat) :
    JoinWorld :=
  { world with
    executions := world.executions ++
      [{ kind := kind
         parent := parent
         executionPath := ancestors ++ [world.executions.length]
         children := .new
         stage := .prepared }] }

def setChildren (world : JoinWorld) (execution : Nat) (children : ChildSet) : JoinWorld :=
  { world with
    executions := world.executions.modify execution fun core =>
      { core with children := children } }

def setStage (world : JoinWorld) (execution : Nat) (stage : JoinStage) : JoinWorld :=
  { world with
    executions := world.executions.modify execution fun core => { core with stage := stage } }

def spawn (world : JoinWorld) (owner : Nat) (place : JoinPlace)
    (currentExecutionPath : Option (List Nat)) : JoinWorld :=
  { world with
    tasks := world.tasks ++
      [{ owner := owner
         place := place
         currentExecutionPath := currentExecutionPath
         wait := .idle }] }

def setWait (world : JoinWorld) (task : Nat) (wait : CheckedWait) : JoinWorld :=
  { world with tasks := world.tasks.modify task fun task => { task with wait := wait } }

/-- `wait`: the exit is there, or the caller is suspended until it is. -/
def wait (target : Nat) (core : JoinCore) : CheckedWait :=
  if core.stage = .committed then .answered target else .suspended target

/-- First poll of `TaskControlHandle::wait_checked`. -/
def waitChecked (task : JoinTask) (target : Nat) (core : JoinCore) : CheckedWait :=
  if ExecutionControl.wouldJoin task.currentExecutionPath target then
    .refused (.of task.currentExecutionPath target)
  else wait target core

/-- `WorkContext::spawn_child`: the child is numbered by the execution it becomes. -/
def spawnChild (world : JoinWorld) (parent attempt : Nat) (available : Bool) :
    Option JoinWorld :=
  match world.executions[parent]? with
  | some core =>
    match core.children.spawnChild world.maximumChildren attempt available
        world.executions.length with
    | .ok children =>
      some ((world.setChildren parent children).prepare (.future .child true) (some parent)
        core.executionPath)
    | .error _ => some world
  | none => none

/-- The runner after `claim_start`: the factory of an operation is called in the runner
itself, which has no task-local; every other body is spawned in its scope. -/
def start (world : JoinWorld) (execution : Nat) : Option JoinWorld :=
  match world.executions[execution]? with
  | some core =>
    match core.stage, core.kind with
    | .prepared, .spec =>
      some ((world.setStage execution .calling).spawn execution .factory none)
    | .prepared, _ =>
      some ((world.setStage execution .supervising).spawn execution .body
        (some core.executionPath))
    | _, _ => none
  | none => none

/-- The factory has answered the operation's future. -/
def spawnBody (world : JoinWorld) (execution : Nat) : Option JoinWorld :=
  match world.executions[execution]? with
  | some core =>
    if core.stage = .calling then
      some ((world.setStage execution .supervising).spawn execution .body
        (some core.executionPath))
    else none
  | none => none

/-- `tokio::spawn` in a supervisor. -/
def spawnJob (world : JoinWorld) (execution : Nat) (place : JoinPlace) : Option JoinWorld :=
  match world.executions[execution]? with
  | some core =>
    if core.stage = .supervising && core.kind.spawns place then
      some (world.spawn execution place none)
    else none
  | none => none

/-- One of the three sections on the `ChildSet`. -/
def onChildren (world : JoinWorld) (execution : Nat) (section_ : ChildSet → ChildSet) :
    Option JoinWorld :=
  match world.executions[execution]? with
  | some core => some (world.setChildren execution (section_ core.children))
  | none => none

def step (world : JoinWorld) : JoinAction → Option JoinWorld
  | .submit kind => some (world.prepare kind none [])
  | .spawnChild parent attempt available => world.spawnChild parent attempt available
  | .beginAttempt execution attempt =>
    world.onChildren execution fun children => children.beginAttempt attempt
  | .closeAttemptChildren execution attempt =>
    world.onChildren execution fun children => (children.closeAttemptChildren attempt).1
  | .closeChildren execution =>
    world.onChildren execution fun children => children.closeChildren.1
  | .start execution => world.start execution
  | .spawnBody execution => world.spawnBody execution
  | .spawnJob execution place => world.spawnJob execution place
  | .waitChecked task target =>
    match world.tasks[task]?, world.executions[target]? with
    | some caller, some core =>
      match caller.wait with
      | .suspended _ => none
      | _ => some (world.setWait task (waitChecked caller target core))
    | _, _ => none
  | .wake task =>
    match world.tasks[task]? with
    | some caller =>
      match caller.wait with
      | .suspended target =>
        match world.executions[target]? with
        | some core => some (world.setWait task (wait target core))
        | none => none
      | _ => none
    | none => none
  | .commit execution =>
    if execution < world.executions.length then some (world.setStage execution .committed)
    else none

end JoinWorld

/-- All executions of a program, with at most `maximumChildren` tracked children each. -/
def joins (maximumChildren : Nat) : System JoinWorld JoinAction where
  init := .new maximumChildren
  step := JoinWorld.step

end BusyBeaver
