import BusyBeaver.Join.State
import Mathlib.Logic.Relation

/-!
# Cycles of checked waits

The execution path is the list of an execution and its ancestors in every reachable state,
and the task-local of a task is that path exactly if the task is the body.  So a checked
wait is answered honestly in the body, while the code of a factory or of a job is only told
the truth about executions off its path: `would_join_honest` says so of whole runs.
-/

namespace BusyBeaver

open Transition

/-! ## Paths and ancestors -/

/-- `core`, the execution numbered `i`, carries its parent's path and its own number. -/
def JoinCore.Lineage (executions : List JoinCore) (i : Nat) (core : JoinCore) : Prop :=
  (core.parent = none ∧ core.executionPath = [i]) ∨
    ∃ p parent, core.parent = some p ∧ p < i ∧ executions[p]? = some parent ∧
      core.executionPath = parent.executionPath ++ [i]

/-- No execution is lost, and none changes its parent or its path. -/
def JoinCore.Kept (before after : List JoinCore) : Prop :=
  ∀ (i : Nat) (core : JoinCore), before[i]? = some core →
    ∃ core' : JoinCore, after[i]? = some core' ∧ core'.parent = core.parent ∧
      core'.executionPath = core.executionPath

theorem JoinCore.Kept.append (executions new : List JoinCore) :
    Kept executions (executions ++ new) := by
  intro i core found
  have bound : i < executions.length := (List.getElem?_eq_some_iff.1 found).1
  exact ⟨core, by rw [List.getElem?_append_left bound]; exact found, rfl, rfl⟩

theorem JoinCore.Kept.modify {executions : List JoinCore} {i : Nat} {f : JoinCore → JoinCore}
    (parent : ∀ core, (f core).parent = core.parent)
    (path : ∀ core, (f core).executionPath = core.executionPath) :
    Kept executions (executions.modify i f) := by
  intro j core found
  by_cases own : i = j
  · exact ⟨f core, by simp [own, found], parent core, path core⟩
  · exact ⟨core, by simp [own, found], rfl, rfl⟩

theorem JoinCore.Lineage.kept {before after : List JoinCore} {i : Nat} {core core' : JoinCore}
    (lineage : Lineage before i core) (kept : Kept before after)
    (parent : core'.parent = core.parent) (path : core'.executionPath = core.executionPath) :
    Lineage after i core' := by
  rcases lineage with ⟨root, own⟩ | ⟨p, above, child, older, found, own⟩
  · exact Or.inl ⟨parent.trans root, path.trans own⟩
  · obtain ⟨above', found', -, path'⟩ := kept _ _ found
    exact Or.inr ⟨p, above', parent.trans child, older, found', by rw [path, own, path']⟩

namespace JoinWorld

/-- Execution `y` spawned execution `x`. -/
def Parent (world : JoinWorld) (x y : Nat) : Prop :=
  ∃ core, world.executions[x]? = some core ∧ core.parent = some y

/-- Execution `y` is `x` or an ancestor of `x`. -/
def OnPath (world : JoinWorld) : Nat → Nat → Prop := Relation.ReflTransGen world.Parent

/-- What holds between executions and tasks in every run; `fits` says of every task and the
path of its execution what a kind of runs adds. -/
structure Inv (fits : JoinTask → List Nat → Prop) (world : JoinWorld) : Prop where
  lineage : ∀ {i : Nat} {core : JoinCore}, world.executions[i]? = some core →
    core.Lineage world.executions i
  located : ∀ {t : Nat} {task : JoinTask}, world.tasks[t]? = some task →
    ∃ core, world.executions[task.owner]? = some core ∧
      task.currentExecutionPath =
        (if task.place = .body then some core.executionPath else none) ∧
      fits task core.executionPath

variable {fits : JoinTask → List Nat → Prop} {world : JoinWorld}

/-- The path of an execution lists the execution and its ancestors. -/
theorem Inv.mem_path (inv : world.Inv fits) {x y : Nat} {core : JoinCore}
    (found : world.executions[x]? = some core) : y ∈ core.executionPath ↔ world.OnPath x y := by
  induction x using Nat.strong_induction_on generalizing core with
  | _ x ih =>
    have unfolded : world.OnPath x y ↔ x = y ∨ ∃ z, world.Parent x z ∧ world.OnPath z y :=
      Relation.ReflTransGen.cases_head_iff
    rw [unfolded]
    rcases inv.lineage found with ⟨root, own⟩ | ⟨p, above, child, older, parent, own⟩
    · have orphan : ∀ z, ¬ world.Parent x z := by
        rintro z ⟨other, found', child⟩
        obtain rfl : core = other := Option.some.inj (found.symm.trans found')
        rw [root] at child
        cases child
      simp [own, orphan, eq_comm]
    · have only : ∀ z, world.Parent x z ↔ z = p := by
        intro z
        constructor
        · rintro ⟨other, found', child'⟩
          obtain rfl : core = other := Option.some.inj (found.symm.trans found')
          exact Option.some.inj (child'.symm.trans child)
        · rintro rfl
          exact ⟨core, found, child⟩
      simp [own, only, ih p older parent, or_comm, eq_comm]

/-! ## The invariant along a run -/

theorem Inv.new (maximumChildren : Nat) : (JoinWorld.new maximumChildren).Inv fits where
  lineage found := by simp [JoinWorld.new] at found
  located found := by simp [JoinWorld.new] at found

theorem Inv.modify (inv : world.Inv fits) {i : Nat} {f : JoinCore → JoinCore}
    (parent : ∀ core, (f core).parent = core.parent)
    (path : ∀ core, (f core).executionPath = core.executionPath) :
    { world with executions := world.executions.modify i f }.Inv fits := by
  have kept : JoinCore.Kept world.executions (world.executions.modify i f) :=
    JoinCore.Kept.modify parent path
  constructor
  · intro j core found
    rw [List.getElem?_modify] at found
    obtain ⟨old, older, rfl⟩ := Option.map_eq_some_iff.1 found
    refine (inv.lineage older).kept kept ?_ ?_
    · split
      · exact parent old
      · rfl
    · split
      · exact path old
      · rfl
  · intro t task found
    obtain ⟨core, owner, local_, fit⟩ := inv.located found
    obtain ⟨core', owner', -, path'⟩ := kept _ _ owner
    exact ⟨core', owner', by rw [local_, path'], path'.symm ▸ fit⟩

theorem Inv.setChildren (inv : world.Inv fits) (execution : Nat) (children : ChildSet) :
    (world.setChildren execution children).Inv fits :=
  inv.modify (fun _ => rfl) (fun _ => rfl)

theorem Inv.setStage (inv : world.Inv fits) (execution : Nat) (stage : JoinStage) :
    (world.setStage execution stage).Inv fits :=
  inv.modify (fun _ => rfl) (fun _ => rfl)

/-- A new execution is a root, or carries the path of the execution that spawns it. -/
theorem Inv.prepare (inv : world.Inv fits) {kind : Kind} {parent : Option Nat}
    {ancestors : List Nat}
    (above : (parent = none ∧ ancestors = []) ∨
      ∃ p core, parent = some p ∧ world.executions[p]? = some core ∧
        ancestors = core.executionPath) :
    (world.prepare kind parent ancestors).Inv fits := by
  have kept : JoinCore.Kept world.executions (world.prepare kind parent ancestors).executions :=
    JoinCore.Kept.append _ _
  constructor
  · intro i core found
    by_cases older : i < world.executions.length
    · rw [show (world.prepare kind parent ancestors).executions[i]? = world.executions[i]? from
        List.getElem?_append_left older] at found
      exact (inv.lineage found).kept kept rfl rfl
    · have new := found
      rw [show (world.prepare kind parent ancestors).executions[i]? = _ from
        List.getElem?_append_right (Nat.le_of_not_lt older), List.getElem?_singleton] at new
      split at new
      · obtain rfl : i = world.executions.length := by omega
        obtain rfl := Option.some.inj new
        rcases above with ⟨root, rfl⟩ | ⟨p, core, child, spawner, rfl⟩
        · exact Or.inl ⟨root, rfl⟩
        · have bound : p < world.executions.length := (List.getElem?_eq_some_iff.1 spawner).1
          obtain ⟨core', found', -, path'⟩ := kept _ _ spawner
          exact Or.inr ⟨p, core', child, bound, found', by rw [path']⟩
      · cases new
  · intro t task found
    obtain ⟨core, owner, local_, fit⟩ := inv.located found
    obtain ⟨core', owner', -, path'⟩ := kept _ _ owner
    exact ⟨core', owner', by rw [local_, path'], path'.symm ▸ fit⟩

/-- A task is spawned with the path of its execution as the body, and without it otherwise. -/
theorem Inv.spawn (inv : world.Inv fits) {owner : Nat} {core : JoinCore} {place : JoinPlace}
    {path : Option (List Nat)} (found : world.executions[owner]? = some core)
    (local_ : path = if place = .body then some core.executionPath else none)
    (fresh : ∀ {task : JoinTask} {path : List Nat}, task.wait = .idle → fits task path) :
    (world.spawn owner place path).Inv fits := by
  refine ⟨inv.lineage, ?_⟩
  intro t task located
  by_cases older : t < world.tasks.length
  · rw [show (world.spawn owner place path).tasks[t]? = world.tasks[t]? from
      List.getElem?_append_left older] at located
    exact inv.located located
  · rw [show (world.spawn owner place path).tasks[t]? = _ from
      List.getElem?_append_right (Nat.le_of_not_lt older), List.getElem?_singleton] at located
    split at located
    · obtain rfl := Option.some.inj located
      exact ⟨core, found, local_, fresh rfl⟩
    · cases located

theorem Inv.setWait (inv : world.Inv fits) {task : Nat} {wait : CheckedWait}
    (waits : ∀ {caller : JoinTask} {core : JoinCore}, world.tasks[task]? = some caller →
      world.executions[caller.owner]? = some core → fits caller core.executionPath →
      fits { caller with wait := wait } core.executionPath) :
    (world.setWait task wait).Inv fits := by
  refine ⟨inv.lineage, ?_⟩
  intro t after located
  simp only [JoinWorld.setWait, List.getElem?_modify] at located
  obtain ⟨before, earlier, rfl⟩ := Option.map_eq_some_iff.1 located
  obtain ⟨core, owner, local_, fit⟩ := inv.located earlier
  by_cases own : task = t
  · subst own
    exact ⟨core, by simpa [JoinWorld.setWait] using owner, by simpa using local_,
      by simpa using waits earlier owner fit⟩
  · exact ⟨core, by simpa [JoinWorld.setWait, own] using owner, by simpa [own] using local_,
      by simpa [own] using fit⟩

theorem Inv.spawnChild (inv : world.Inv fits) {parent attempt : Nat} {available : Bool}
    {after : JoinWorld} (stepped : world.spawnChild parent attempt available = some after) :
    after.Inv fits := by
  unfold JoinWorld.spawnChild at stepped
  split at stepped
  · rename_i core found
    split at stepped
    · rename_i children accepted
      obtain rfl := Option.some.inj stepped
      refine (inv.setChildren parent children).prepare (Or.inr ⟨parent, ?_⟩)
      exact ⟨{ core with children := children }, rfl,
        by simp [JoinWorld.setChildren, found], rfl⟩
    · exact Option.some.inj stepped ▸ inv
  · cases stepped

theorem Inv.start (inv : world.Inv fits)
    (fresh : ∀ {task : JoinTask} {path : List Nat}, task.wait = .idle → fits task path)
    {execution : Nat} {after : JoinWorld}
    (stepped : world.start execution = some after) : after.Inv fits := by
  unfold JoinWorld.start at stepped
  split at stepped
  · rename_i core found
    have staged : ∀ stage, (world.setStage execution stage).executions[execution]? =
        some { core with stage := stage } := by
      intro stage
      simp [JoinWorld.setStage, found]
    split at stepped
    · obtain rfl := Option.some.inj stepped
      exact (inv.setStage execution .calling).spawn (staged _) rfl fresh
    · obtain rfl := Option.some.inj stepped
      exact (inv.setStage execution .supervising).spawn (staged _) rfl fresh
    · cases stepped
  · cases stepped

theorem Inv.spawnBody (inv : world.Inv fits)
    (fresh : ∀ {task : JoinTask} {path : List Nat}, task.wait = .idle → fits task path)
    {execution : Nat} {after : JoinWorld}
    (stepped : world.spawnBody execution = some after) : after.Inv fits := by
  unfold JoinWorld.spawnBody at stepped
  split at stepped
  · rename_i core found
    split at stepped
    · obtain rfl := Option.some.inj stepped
      have staged : (world.setStage execution .supervising).executions[execution]? =
          some { core with stage := .supervising } := by
        simp [JoinWorld.setStage, found]
      exact (inv.setStage execution .supervising).spawn staged rfl fresh
    · cases stepped
  · cases stepped

/-- No job is the body, so no job is given a path. -/
theorem Inv.spawnJob (inv : world.Inv fits)
    (fresh : ∀ {task : JoinTask} {path : List Nat}, task.wait = .idle → fits task path)
    {execution : Nat} {place : JoinPlace}
    {after : JoinWorld} (stepped : world.spawnJob execution place = some after) :
    after.Inv fits := by
  unfold JoinWorld.spawnJob at stepped
  split at stepped
  · rename_i core found
    split at stepped
    · rename_i allowed
      obtain rfl := Option.some.inj stepped
      have job : place ≠ .body := by
        rintro rfl
        cases kind : core.kind <;> simp [kind, Kind.spawns] at allowed
      exact inv.spawn found (if_neg job).symm fresh
    · cases stepped
  · cases stepped

theorem Inv.onChildren (inv : world.Inv fits) {execution : Nat} {f : ChildSet → ChildSet}
    {after : JoinWorld} (stepped : world.onChildren execution f = some after) : after.Inv fits := by
  unfold JoinWorld.onChildren at stepped
  split at stepped
  · exact Option.some.inj stepped ▸ inv.setChildren execution _
  · cases stepped

/-- A step keeps the invariant if its checked wait, where it is one, fits. -/
theorem Inv.step (inv : world.Inv fits)
    (fresh : ∀ {task : JoinTask} {path : List Nat}, task.wait = .idle → fits task path)
    {action : JoinAction} {after : JoinWorld} (stepped : world.step action = some after)
    (called : ∀ {task target : Nat} {caller : JoinTask} {core own : JoinCore},
      action = .waitChecked task target → world.tasks[task]? = some caller →
      world.executions[target]? = some core → world.executions[caller.owner]? = some own →
      fits { caller with wait := waitChecked caller target core } own.executionPath)
    (woken : ∀ {target : Nat} {caller : JoinTask} {core own : JoinCore},
      caller.wait = .suspended target → fits caller own.executionPath →
      fits { caller with wait := wait target core } own.executionPath) :
    after.Inv fits := by
  cases action with
  | submit kind =>
    obtain rfl := Option.some.inj stepped
    exact inv.prepare (Or.inl ⟨rfl, rfl⟩)
  | spawnChild parent attempt available => exact inv.spawnChild stepped
  | beginAttempt execution attempt =>
    simp only [JoinWorld.step] at stepped
    exact inv.onChildren stepped
  | closeAttemptChildren execution attempt =>
    simp only [JoinWorld.step] at stepped
    exact inv.onChildren stepped
  | closeChildren execution =>
    simp only [JoinWorld.step] at stepped
    exact inv.onChildren stepped
  | start execution => exact inv.start fresh stepped
  | spawnBody execution => exact inv.spawnBody fresh stepped
  | spawnJob execution place => exact inv.spawnJob fresh stepped
  | waitChecked task target =>
    simp only [JoinWorld.step] at stepped
    split at stepped
    · rename_i caller core located found
      split at stepped
      · cases stepped
      · obtain rfl := Option.some.inj stepped
        refine inv.setWait fun {other own} same owner _ => ?_
        obtain rfl : caller = other := Option.some.inj (located.symm.trans same)
        exact called rfl located found owner
    · cases stepped
  | wake task =>
    simp only [JoinWorld.step] at stepped
    split at stepped
    · rename_i caller located
      split at stepped
      · rename_i target waiting
        split at stepped
        · obtain rfl := Option.some.inj stepped
          refine inv.setWait fun {other own} same owner fit => ?_
          obtain rfl : caller = other := Option.some.inj (located.symm.trans same)
          exact woken waiting fit
        · cases stepped
      · cases stepped
    · cases stepped
  | commit execution =>
    simp only [JoinWorld.step] at stepped
    split at stepped
    · exact Option.some.inj stepped ▸ inv.setStage execution .committed
    · cases stepped

/-- Every reachable state has its paths and its task-locals in order. -/
theorem Inv.of_reachable {maximumChildren : Nat}
    (reached : (joins maximumChildren).Reachable world) : world.Inv fun _ _ => True := by
  refine reached.invariant (.new maximumChildren) ?_
  intro before after action inv _ stepped
  exact inv.step (fun _ => trivial) stepped (fun _ _ _ _ => trivial) (fun _ _ => trivial)

/-! ## What a checked wait answers -/

/-- The last element of a path is the execution it belongs to. -/
theorem Inv.last_path (inv : world.Inv fits) {x : Nat} {core : JoinCore}
    (found : world.executions[x]? = some core) : core.executionPath.getLast? = some x := by
  rcases inv.lineage found with ⟨-, own⟩ | ⟨p, above, -, -, -, own⟩
  · rw [own]
    rfl
  · rw [own, List.getLast?_concat]

theorem wait_ne_refused (target : Nat) (core : JoinCore) (error : ExecutionWaitError) :
    wait target core ≠ .refused error := by
  unfold wait
  split <;> nofun

/-- Without the task-local nothing is refused. -/
theorem waitChecked_unscoped {caller : JoinTask} {target : Nat} {core : JoinCore}
    (unscoped : caller.currentExecutionPath = none) :
    waitChecked caller target core = wait target core := by
  simp [waitChecked, ExecutionControl.wouldJoin, unscoped]

/-- In a body the refusal is by the path of the execution, and it names the execution. -/
theorem waitChecked_scoped {caller : JoinTask} {target : Nat} {core own : JoinCore}
    (inScope : caller.currentExecutionPath = some own.executionPath)
    (last : own.executionPath.getLast? = some caller.owner) :
    waitChecked caller target core =
      if target ∈ own.executionPath then .refused (.wouldJoin caller.owner target)
      else wait target core := by
  simp [waitChecked, ExecutionControl.wouldJoin, ExecutionWaitError.of, inScope, last]

/-- Refused are the execution itself and its ancestors, and nothing else. -/
def AnswersPath (world : JoinWorld) (caller : JoinTask) (target : Nat) (core : JoinCore) :
    Prop :=
  (world.OnPath caller.owner target →
    ∃ current, waitChecked caller target core = .refused (.wouldJoin current target)) ∧
  (¬ world.OnPath caller.owner target → ∀ error, waitChecked caller target core ≠ .refused error)

/-- The calls of `wait_checked` answer as promised. -/
def Honest (world : JoinWorld) : JoinAction → Prop
  | .waitChecked task target =>
    ∀ caller core, world.tasks[task]? = some caller → world.executions[target]? = some core →
      world.AnswersPath caller target core
  | _ => True

/-- The calls of `wait_checked` are made by bodies, or about executions off the path. -/
def Scoped (world : JoinWorld) : JoinAction → Prop
  | .waitChecked task target =>
    ∀ caller core, world.tasks[task]? = some caller → world.executions[target]? = some core →
      caller.place = .body ∨ ¬ world.OnPath caller.owner target
  | _ => True

/-- The calls of `wait_checked` are made by bodies. -/
def fromBody (world : JoinWorld) : JoinAction → Bool
  | .waitChecked task _ => (world.tasks[task]?.map JoinTask.place).getD .body = .body
  | _ => true

theorem Scoped.of_fromBody {action : JoinAction} (bodies : world.fromBody action = true) :
    world.Scoped action := by
  cases action with
  | waitChecked task target =>
    intro caller core located _
    simp only [fromBody, located, Option.map_some, Option.getD_some, decide_eq_true_eq] at bodies
    exact Or.inl bodies
  | _ => trivial

theorem Inv.answersPath_iff (inv : world.Inv fits) {task target : Nat} {caller : JoinTask}
    {core : JoinCore} (located : world.tasks[task]? = some caller) :
    world.AnswersPath caller target core ↔
      caller.place = .body ∨ ¬ world.OnPath caller.owner target := by
  obtain ⟨own, owner, scope, -⟩ := inv.located located
  have path : target ∈ own.executionPath ↔ world.OnPath caller.owner target :=
    inv.mem_path owner
  by_cases body : caller.place = .body
  · rw [if_pos body] at scope
    have answer := @waitChecked_scoped caller target core own scope (inv.last_path owner)
    simp only [AnswersPath, answer, ← path, body, true_or, iff_true]
    constructor
    · intro on
      exact ⟨caller.owner, if_pos on⟩
    · intro off error
      rw [if_neg off]
      exact wait_ne_refused target core error
  · rw [if_neg body] at scope
    simp [AnswersPath, waitChecked_unscoped scope, body, wait_ne_refused]

/-- What a task does about a checked wait agrees with its path. -/
def Calm (task : JoinTask) (path : List Nat) : Prop :=
  (∀ target, task.wait = .suspended target → target ∉ path) ∧
    ∀ current target, task.wait = .refused (.wouldJoin current target) →
      current = task.owner ∧ target ∈ path

theorem Calm.fresh {task : JoinTask} {path : List Nat} (idle : task.wait = .idle) :
    Calm task path := by
  constructor
  · intro target waiting
    rw [idle] at waiting
    cases waiting
  · intro current target refused
    rw [idle] at refused
    cases refused

/-- Waiting on is calm where the target is off the path. -/
theorem Calm.wait {caller : JoinTask} {path : List Nat} {target : Nat} {core : JoinCore}
    (off : target ∉ path) : Calm { caller with wait := wait target core } path := by
  constructor
  · intro other waiting
    unfold JoinWorld.wait at waiting
    split at waiting
    · cases waiting
    · cases waiting
      exact off
  · intro current other refused
    exact absurd refused (wait_ne_refused target core _)

theorem Calm.called (inv : world.Inv fits) {task target : Nat} {caller : JoinTask}
    {core own : JoinCore} (located : world.tasks[task]? = some caller)
    (owner : world.executions[caller.owner]? = some own)
    (inScope : caller.place = .body ∨ ¬ world.OnPath caller.owner target) :
    Calm { caller with wait := waitChecked caller target core } own.executionPath := by
  obtain ⟨other, owner', scope, -⟩ := inv.located located
  obtain rfl : own = other := Option.some.inj (owner.symm.trans owner')
  by_cases body : caller.place = .body
  · rw [if_pos body] at scope
    rw [waitChecked_scoped scope (inv.last_path owner)]
    split
    · rename_i on
      refine ⟨nofun, fun current other refused => ?_⟩
      cases refused
      exact ⟨rfl, on⟩
    · rename_i off
      exact Calm.wait off
  · rw [if_neg body] at scope
    rw [waitChecked_unscoped scope]
    refine Calm.wait fun on => ?_
    exact (inScope.resolve_left body) ((inv.mem_path owner).1 on)

theorem Calm.of_reaches {maximumChildren : Nat}
    (run : (joins maximumChildren).Reaches Scoped (.new maximumChildren) world) :
    world.Inv Calm := by
  refine run.invariant (.new maximumChildren) ?_
  intro before after action inv inScope stepped
  refine inv.step Calm.fresh stepped ?_ ?_
  · rintro task target caller core own rfl located found owner
    exact Calm.called inv located owner (inScope caller core located found)
  · intro target caller core own waiting calm
    exact Calm.wait (calm.1 target waiting)

end JoinWorld

/-- **Join cycles.**  In every run the checked waits are answered as promised exactly if each
of them is made by a body or is about an execution off the caller's path; and then no task
is suspended on its execution or an ancestor, and every refusal names the caller and an
execution on its path. -/
theorem would_join_honest {maximumChildren : Nat} {actions : List JoinAction}
    {world : JoinWorld}
    (run : (joins maximumChildren).exec (.new maximumChildren) actions = some world) :
    ((joins maximumChildren).Meets JoinWorld.Honest (.new maximumChildren) actions ↔
      (joins maximumChildren).Meets JoinWorld.Scoped (.new maximumChildren) actions) ∧
    ((joins maximumChildren).Meets JoinWorld.Scoped (.new maximumChildren) actions →
      ∀ task ∈ world.tasks,
        (∀ target, task.wait = .suspended target → ¬ world.OnPath task.owner target) ∧
        ∀ current target, task.wait = .refused (.wouldJoin current target) →
          current = task.owner ∧ world.OnPath task.owner target) := by
  constructor
  · refine System.Meets.congr_of_reachable ?_ .refl
    intro state action reached
    have inv := JoinWorld.Inv.of_reachable reached
    cases action with
    | waitChecked task target =>
      constructor
      · intro honest caller core located found
        exact (inv.answersPath_iff located).1 (honest caller core located found)
      · intro inScope caller core located found
        exact (inv.answersPath_iff located).2 (inScope caller core located found)
    | _ => exact Iff.rfl
  · intro inScope task member
    have inv := JoinWorld.Calm.of_reaches (System.Reaches.of_exec run inScope)
    obtain ⟨t, located⟩ := List.getElem?_of_mem member
    obtain ⟨own, owner, -, suspended, refused⟩ := inv.located located
    constructor
    · intro target waiting on
      exact suspended target waiting ((inv.mem_path owner).2 on)
    · intro current target answer
      obtain ⟨same, on⟩ := refused current target answer
      exact ⟨same, (inv.mem_path owner).1 on⟩

/-- An operation spawns a child, which asks for its parent. -/
def childAsksParent : List JoinAction :=
  [.submit .spec, .start 0, .spawnBody 0, .spawnChild 0 1 true, .start 1, .waitChecked 2 0]

theorem would_join_honest_child :
    ∃ world, (joins 4).exec (.new 4) childAsksParent = some world ∧
      (world.tasks[2]?.map JoinTask.wait = some (.refused (.wouldJoin 1 0))) ∧
        ∀ task ∈ world.tasks, ∀ target, task.wait = .suspended target →
          ¬ world.OnPath task.owner target := by
  have ends : ((joins 4).exec (.new 4) childAsksParent).map
      (fun world => world.tasks[2]?.map JoinTask.wait) =
      some (some (.refused (.wouldJoin 1 0))) := by decide +kernel
  have bodies : (joins 4).Meets (fun world action => world.fromBody action = true)
      (.new 4) childAsksParent := by decide +kernel
  obtain ⟨world, exec, found⟩ := Option.map_eq_some_iff.1 ends
  refine ⟨world, exec, found, fun task member => ?_⟩
  have inScope := System.Meets.mono (fun _ _ => JoinWorld.Scoped.of_fromBody) bodies
  exact ((would_join_honest exec).2 inScope task member).1

/-- The first attempt of a retry execution waits for the execution, which waits for it. -/
def attemptAsksItself : List JoinAction :=
  [.submit (.retry 1), .start 0, .beginAttempt 0 1, .spawnJob 0 .attempt, .waitChecked 1 0]

/-- The attempt is suspended on its own execution. -/
theorem attempt_awaits_itself :
    ∃ world task, (joins 4).Reachable world ∧ task ∈ world.tasks ∧ task.place = .attempt ∧
      task.wait = .suspended task.owner ∧ world.OnPath task.owner task.owner := by
  have ends : ((joins 4).exec (.new 4) attemptAsksItself).map (fun world => world.tasks[1]?) =
      some (some ⟨0, .attempt, none, .suspended 0⟩) := by decide +kernel
  obtain ⟨world, exec, found⟩ := Option.map_eq_some_iff.1 ends
  exact ⟨world, _, System.Reaches.of_schedule _ exec, List.mem_of_getElem? found, rfl, rfl,
    Relation.ReflTransGen.refl⟩

end BusyBeaver
