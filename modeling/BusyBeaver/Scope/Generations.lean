import BusyBeaver.Scope.View

/-!
# Generations of a scope

While a rotation is undecided its scope is marked as rotating with its ticket, so there is
one at most, the ticket always matches, and the generation it publishes carries a number
above that of the generation it replaces (`ScopeWorld.Numbered`).  From this and from
`ScopeView.Effect`: an admission finds its generation current and open, the current
generations of a scope have increasing numbers, and what is sealed gains nothing in any
run (`scope_generations_safe`).
-/

namespace BusyBeaver

open Transition Checked

namespace ScopeView

variable {view after : ScopeView} {family : Nat} {generation : ScopeId}

/-- Every scope has a current generation of its own, and numbers its next one above all. -/
structure Numbered (view : ScopeView) : Prop where
  current : ∀ family state, view.state family = some state →
    ∃ shape, view.shape state.current = some shape ∧ shape.family = family
  below : ∀ generation shape, view.shape generation = some shape →
    ∃ state, view.state shape.family = some state ∧ shape.number < state.nextGeneration

namespace Numbered

theorem new : ScopeWorld.new.view.Numbered where
  current _ _ absurd := by cases absurd
  below _ _ absurd := by cases absurd

theorem closeAdmission (numbered : view.Numbered) (generation : ScopeId) :
    (view.closeAdmission generation).Numbered where
  current family state found := by
    obtain ⟨shape, at_current, own⟩ := numbered.current family state found
    obtain ⟨shape', at_current', family', -⟩ :=
      (Extends.closeAdmission view generation).shape _ shape at_current
    exact ⟨shape', at_current', family'.trans own⟩
  below other shape found := by
    rcases Pool.of_modify_eq_some found with ⟨rfl, before, old, rfl⟩ | ⟨-, old⟩
    · exact numbered.below other before old
    · exact numbered.below other shape old

theorem modifyState (numbered : view.Numbered) {f : ScopeState → ScopeState}
    (next : ∀ state, state.nextGeneration ≤ (f state).nextGeneration)
    (current : ∀ state, view.state family = some state →
      ∃ shape, view.shape (f state).current = some shape ∧ shape.family = family) :
    (view.modifyState family f).Numbered where
  current other state found := by
    rcases Pool.of_modify_eq_some found with ⟨rfl, before, old, rfl⟩ | ⟨-, old⟩
    · exact current before old
    · exact numbered.current other state old
  below other shape found := by
    obtain ⟨state, at_family, below⟩ := numbered.below other shape found
    by_cases same : shape.family = family
    · rw [← same]
      exact ⟨f state, Pool.modify_self.trans (congrArg _ at_family), below.trans_le (next state)⟩
    · exact ⟨state, (Pool.modify_of_ne same).trans at_family, below⟩

theorem create (numbered : view.Numbered) (freshFamily : view.state family = none)
    (freshGeneration : view.shape generation = none) :
    (view.create family generation).Numbered where
  current other state found := by
    rcases Pool.of_set_eq_some found with ⟨rfl, rfl⟩ | ⟨-, old⟩
    · exact ⟨_, Pool.set_self, rfl⟩
    · obtain ⟨shape, at_current, own⟩ := numbered.current other state old
      obtain ⟨shape', at_current', family', -⟩ :=
        (Extends.create freshFamily freshGeneration).shape _ shape at_current
      exact ⟨shape', at_current', family'.trans own⟩
  below other shape found := by
    rcases Pool.of_set_eq_some found with ⟨rfl, rfl⟩ | ⟨-, old⟩
    · exact ⟨_, Pool.set_self, Nat.one_lt_two⟩
    · obtain ⟨state, at_family, below⟩ := numbered.below other shape old
      have apart : shape.family ≠ family := by
        intro same
        rw [same, freshFamily] at at_family
        cases at_family
      exact ⟨state, (Pool.set_of_ne apart).trans at_family, below⟩

theorem adopt (numbered : view.Numbered) (generation : ScopeId) (child : Nat) :
    (view.adopt generation child).Numbered where
  current family state found := by
    obtain ⟨shape, at_current, own⟩ := numbered.current family state found
    obtain ⟨shape', at_current', family', -⟩ :=
      (Extends.adopt view generation child).shape _ shape at_current
    exact ⟨shape', at_current', family'.trans own⟩
  below other shape found := by
    rcases Pool.of_modify_eq_some found with ⟨rfl, before, old, rfl⟩ | ⟨-, old⟩
    · exact numbered.below other before old
    · exact numbered.below other shape old

theorem accept (numbered : view.Numbered) {state : ScopeState} {new : ScopeId}
    {policy : RotationPolicy} {ticket nextGeneration : Nat}
    (found : view.state family = some state) (fresh : view.shape new = none)
    (counted : nextGeneration = state.nextGeneration + 1) :
    (view.accept family state new policy ticket nextGeneration).Numbered where
  current other state' found' := by
    rcases Pool.of_modify_eq_some found' with ⟨rfl, before, old, rfl⟩ | ⟨-, old⟩
    · obtain rfl : state = before := Option.some.inj (found.symm.trans old)
      cases policy with
      | availabilityFirst => exact ⟨_, Pool.set_self, rfl⟩
      | strict =>
        obtain ⟨shape, at_current, own⟩ := numbered.current other state found
        obtain ⟨shape', at_current', family', -⟩ :=
          (Extends.accept fresh).shape _ shape at_current
        exact ⟨shape', at_current', family'.trans own⟩
    · obtain ⟨shape, at_current, own⟩ := numbered.current other state' old
      obtain ⟨shape', at_current', family', -⟩ :=
        (Extends.accept fresh).shape _ shape at_current
      exact ⟨shape', at_current', family'.trans own⟩
  below other shape found' := by
    rcases Pool.of_set_eq_some found' with ⟨rfl, rfl⟩ | ⟨-, old⟩
    · refine ⟨_, Pool.modify_self.trans (congrArg _ found), ?_⟩
      show state.nextGeneration < nextGeneration
      omega
    · obtain ⟨before, at_family, below⟩ := (numbered.closeAdmission state.current).below _ _ old
      by_cases same : shape.family = family
      · rw [same] at at_family
        obtain rfl : state = before := Option.some.inj (found.symm.trans at_family)
        rw [same]
        refine ⟨_, Pool.modify_self.trans (congrArg _ found), ?_⟩
        show shape.number < nextGeneration
        omega
      · exact ⟨before, (Pool.modify_of_ne same).trans at_family, below⟩

theorem write (numbered : view.Numbered) (write : view.Write after) : after.Numbered := by
  cases write with
  | quiet => exact numbered
  | created freshFamily freshGeneration => exact numbered.create freshFamily freshGeneration
  | adopted freshFamily freshGeneration =>
    exact (numbered.create freshFamily freshGeneration).adopt _ _
  | spawned | submitted => exact ⟨numbered.current, numbered.below⟩
  | @shut family =>
    refine closeAdmission ?_ _
    exact numbered.modifyState (fun _ => Nat.le_refl _) (numbered.current family)
  | accepted found fresh _ counted =>
    exact numbered.accept found fresh (Checked.add_eq_some.1 counted).2

theorem effect (numbered : view.Numbered) (effect : view.Effect after) : after.Numbered := by
  cases effect with
  | write write => exact numbered.write write
  | @abandoned family new =>
    have closed := numbered.closeAdmission new
    exact closed.modifyState (fun _ => Nat.le_refl _) (closed.current family)
  | @concluded family new policy later =>
    refine numbered.modifyState (fun _ => Nat.le_refl _) fun state found => ?_
    by_cases same : policy.concluding state.current new = state.current
    · rw [same]
      exact numbered.current family state found
    · obtain ⟨-, shape, -, at_new, -, own⟩ := later state found same
      cases policy with
      | strict => exact ⟨shape, at_new, own⟩
      | availabilityFirst => exact (same rfl).elim

end Numbered

/-! ## Undecided rotations -/

/-- The scope is held for the rotation. -/
structure Holds (view : ScopeView) (rotation : RotationPlan) : Prop where
  state : ∃ state, view.state rotation.family = some state ∧ state.rotating = true ∧
    state.rotationTicket = rotation.ticket ∧
    state.current = rotation.policy.accepting rotation.old rotation.new
  later : ∃ old new, view.shape rotation.old = some old ∧ view.shape rotation.new = some new ∧
    old.number < new.number ∧ new.family = rotation.family

theorem Holds.of_extends {rotation : RotationPlan} (holds : view.Holds rotation)
    (extends_ : view.Extends after)
    (state : ∀ state, view.state rotation.family = some state → state.rotating = true →
      ∃ state', after.state rotation.family = some state' ∧ state'.rotating = state.rotating ∧
        state'.rotationTicket = state.rotationTicket ∧ state'.current = state.current) :
    after.Holds rotation where
  state := by
    obtain ⟨before, found, rotating, ticket, current⟩ := holds.state
    obtain ⟨state', found', rotating', ticket', current'⟩ := state before found rotating
    exact ⟨state', found', rotating'.trans rotating, ticket'.trans ticket, current'.trans current⟩
  later := by
    obtain ⟨old, new, at_old, at_new, less, family⟩ := holds.later
    obtain ⟨old', at_old', -, number, -⟩ := extends_.shape _ old at_old
    obtain ⟨new', at_new', family', number', -⟩ := extends_.shape _ new at_new
    exact ⟨old', new', at_old', at_new', by omega, family'.trans family⟩

/-- Writes to another scope leave it held. -/
theorem Holds.modifyState_of_ne {rotation : RotationPlan} {f : ScopeState → ScopeState}
    (holds : view.Holds rotation) (other : rotation.family ≠ family) :
    (view.modifyState family f).Holds rotation where
  state := by
    obtain ⟨state, found, held⟩ := holds.state
    exact ⟨state, (Pool.modify_of_ne other).trans found, held⟩
  later := holds.later

theorem Holds.closeAdmission {rotation : RotationPlan} (holds : view.Holds rotation)
    (generation : ScopeId) : (view.closeAdmission generation).Holds rotation :=
  holds.of_extends (.closeAdmission view generation) fun state found _ =>
    ⟨state, found, rfl, rfl, rfl⟩

/-- Only a decision releases the scope. -/
theorem Holds.write {rotation : RotationPlan} (holds : view.Holds rotation)
    (write : view.Write after) : after.Holds rotation := by
  have extends_ := Extends.of_write write
  cases write with
  | quiet => exact holds
  | created freshFamily | adopted freshFamily =>
    refine holds.of_extends extends_ fun state found _ => ⟨state, ?_, rfl, rfl, rfl⟩
    refine (Pool.set_of_ne ?_).trans found
    intro same
    rw [same, freshFamily] at found
    cases found
  | spawned | submitted => exact ⟨holds.state, holds.later⟩
  | @shut family state =>
    refine holds.of_extends extends_ fun state found _ => ?_
    by_cases same : rotation.family = family
    · rw [same] at found ⊢
      exact ⟨_, Pool.modify_self.trans (congrArg _ found), rfl, rfl, rfl⟩
    · exact ⟨state, (Pool.modify_of_ne same).trans found, rfl, rfl, rfl⟩
  | @accepted family state new policy ticket nextGeneration scope fresh resting =>
    refine holds.of_extends extends_ fun before found rotating => ?_
    have other : rotation.family ≠ family := by
      intro same
      rw [same] at found
      obtain rfl : state = before := Option.some.inj (scope.symm.trans found)
      exact absurd (resting.symm.trans rotating) (by simp)
    exact ⟨before, (Pool.modify_of_ne other).trans found, rfl, rfl, rfl⟩

end ScopeView

namespace ScopeWorld

variable {world after : ScopeWorld} {action : ScopeAction}

/-! ## Bookkeeping of the tasks -/

theorem joinEach_decides (children : List Nat) : (joinEach children).count .decide = 0 := by
  induction children with
  | nil => rfl
  | cons child children ih => simpa [joinEach] using ih

theorem collectEach_decides (children : List Nat) : (collectEach children).count .decide = 0 := by
  induction children with
  | nil => rfl
  | cons child children ih => simpa [collectEach] using ih

theorem ownJoin_decides (policy : RotationPolicy) (controls : List ExecutionId) :
    (ownJoin policy controls).count .decide = 0 := by
  cases policy <;> rfl

/-- What a step makes of a rotation: its outcome is sent, or `cancel_pending_new` called. -/
inductive Rewrites (world : ScopeWorld) (action : ScopeAction) (process : Nat)
    (rotation : RotationProcess) : RotationProcess → Prop
  | same : Rewrites world action process rotation rotation
  | published {teardown : Teardown} {outcome : RotationOutcome}
      (found : world.tasks process = some teardown) (member : .publish outcome ∈ teardown.todo) :
      Rewrites world action process rotation { rotation with result := some outcome }
  | asked (call : action = .cancelPendingNew process) :
      Rewrites world action process rotation
        { rotation with cancelled := true, answers := rotation.answers ++ [!rotation.cancelled] }

theorem Rewrites.plan {process : Nat} {rotation rotation' : RotationProcess}
    (rewrites : world.Rewrites action process rotation rotation') :
    rotation'.toRotationPlan = rotation.toRotationPlan := by
  cases rewrites <;> rfl

/-- Plans are kept, tasks are kept, and no decision is added. -/
structure Keeps (world : ScopeWorld) (action : ScopeAction) (after : ScopeWorld) : Prop where
  rotations : ∀ process rotation', after.rotations process = some rotation' →
    ∃ rotation, world.rotations process = some rotation ∧
      world.Rewrites action process rotation rotation'
  kept : ∀ process rotation, world.rotations process = some rotation →
    ∃ rotation', after.rotations process = some rotation' ∧
      world.Rewrites action process rotation rotation'
  tasks : ∀ task teardown', after.tasks task = some teardown' →
    (∃ teardown, world.tasks task = some teardown ∧
      teardown'.todo.count .decide ≤ teardown.todo.count .decide) ∨
    world.tasks task = none ∧ teardown'.todo.count .decide = 0
  persist : ∀ task teardown, world.tasks task = some teardown →
    ∃ teardown', after.tasks task = some teardown'

namespace Keeps

theorem of_eq (rotations : after.rotations = world.rotations) (tasks : after.tasks = world.tasks) :
    world.Keeps action after where
  rotations _ rotation found := ⟨rotation, rotations ▸ found, .same⟩
  kept _ rotation found := ⟨rotation, rotations ▸ found, .same⟩
  tasks _ teardown found := .inl ⟨teardown, tasks ▸ found, Nat.le_refl _⟩
  persist _ teardown found := ⟨teardown, tasks ▸ found⟩

/-- A process is written. -/
theorem setRotation {process : Nat} {rotation rotation' : RotationProcess}
    (found : world.rotations process = some rotation)
    (rewrites : world.Rewrites action process rotation rotation') :
    world.Keeps action (world.setRotation process rotation') where
  rotations other rotation'' found'' := by
    rcases Pool.of_set_eq_some found'' with ⟨rfl, rfl⟩ | ⟨-, old⟩
    · exact ⟨rotation, found, rewrites⟩
    · exact ⟨rotation'', old, .same⟩
  kept other rotation'' found'' := by
    by_cases same : other = process
    · subst same
      obtain rfl := Option.some.inj (found.symm.trans found'')
      exact ⟨rotation', Pool.set_self, rewrites⟩
    · exact ⟨rotation'', (Pool.set_of_ne same).trans found'', .same⟩
  tasks _ teardown found := .inl ⟨teardown, found, Nat.le_refl _⟩
  persist _ teardown found := ⟨teardown, found⟩

/-- A task goes on. -/
theorem setTask {task : Nat} {teardown teardown' : Teardown} (keeps : world.Keeps action after)
    (tasks : after.tasks = world.tasks) (found : world.tasks task = some teardown)
    (count : teardown'.todo.count .decide ≤ teardown.todo.count .decide) :
    world.Keeps action (after.setTask task teardown') where
  rotations := keeps.rotations
  kept := keeps.kept
  tasks other teardown'' found'' := by
    rcases Pool.of_set_eq_some found'' with ⟨rfl, rfl⟩ | ⟨-, old⟩
    · exact .inl ⟨teardown, found, count⟩
    · exact .inl ⟨teardown'', tasks ▸ old, Nat.le_refl _⟩
  persist other teardown'' found'' := by
    by_cases same : other = task
    · exact ⟨teardown', same ▸ Pool.set_self⟩
    · exact ⟨teardown'', (Pool.set_of_ne same).trans (tasks ▸ found'')⟩

theorem newTask {task : Nat} {teardown : Teardown} (keeps : world.Keeps action after)
    (tasks : after.tasks = world.tasks) (fresh : world.tasks task = none)
    (count : teardown.todo.count .decide = 0) :
    world.Keeps action (after.setTask task teardown) where
  rotations := keeps.rotations
  kept := keeps.kept
  tasks other teardown' found' := by
    rcases Pool.of_set_eq_some found' with ⟨rfl, rfl⟩ | ⟨-, old⟩
    · exact .inr ⟨fresh, count⟩
    · exact .inl ⟨teardown', tasks ▸ old, Nat.le_refl _⟩
  persist other teardown' found' := by
    have apart : other ≠ task := Pool.ne_of_none fresh found'
    exact ⟨teardown', (Pool.set_of_ne apart).trans (tasks ▸ found')⟩

end Keeps

/-! ## Every step -/

theorem admissionOpen_eq_true {generation : ScopeId} :
    world.admissionOpen generation = true ↔
      ∃ shape, world.view.shape generation = some shape ∧ shape.admissionOpen = true := by
  show ((world.generations generation).map _).getD false = true ↔
    ∃ shape, (world.generations generation).map GenerationCore.shape = some shape ∧ _
  cases world.generations generation with
  | none => simp
  | some core => simp [GenerationCore.shape]

theorem checkCurrent_eq_none {state : ScopeState} {generation : ScopeId} :
    world.checkCurrent state generation = none ↔
      state.closed = false ∧ state.current = generation ∧
        world.admissionOpen generation = true := by
  unfold checkCurrent
  split
  next closed => simp [closed]
  next opened =>
    rw [Bool.not_eq_true] at opened
    split
    next stale =>
      simp only [reduceCtorEq, false_iff]
      rintro ⟨-, current, admits⟩
      rcases stale with apart | shut
      · exact apart current
      · exact absurd (shut.symm.trans admits) (by simp)
    next fresh =>
      rw [not_or, not_not, Bool.not_eq_false] at fresh
      exact ⟨fun _ => ⟨opened, fresh⟩, fun _ => rfl⟩

/-- A task that goes on writes nothing, closes a scope or decides. -/
theorem Works.cases {task : Nat} {teardown teardown' : Teardown} {mid : ScopeWorld}
    (works : world.Works task teardown action mid teardown')
    (found : world.tasks task = some teardown) :
    world.view.Write (mid.setTask task teardown').view ∧
      world.Keeps action (mid.setTask task teardown') ∨
    ∃ rest rotation inner, teardown.todo = .decide :: rest ∧
      world.rotations task = some rotation ∧ world.families rotation.family = some inner ∧
      mid.setTask task teardown' = (world.conclude inner rotation).1.setTask task
        { teardown with todo := .publish (world.conclude inner rotation).2 :: rest } := by
  cases works with
  | started todo =>
    refine .inl ⟨.quiet, Keeps.setTask (.of_eq rfl rfl) rfl found ?_⟩
    simp [todo, ownJoin_decides]
  | descended todo =>
    refine .inl ⟨.of_eq view_pin, ?_⟩
    refine Keeps.setTask (.of_eq rotations_pin tasks_pin) tasks_pin found ?_
    simp [todo, joinEach_decides]
  | collected todo scope =>
    constructor
    constructor
    · rw [view_setTask, view_pin, view_shut]
      exact .shut (Pool.map_of_eq_some scope)
    · refine Keeps.setTask (.of_eq rotations_pin tasks_pin) tasks_pin found ?_
      simp [todo, collectEach_decides]
  | released todo =>
    refine .inl ⟨.of_eq view_unpin, ?_⟩
    refine Keeps.setTask (.of_eq rotations_unpin tasks_unpin) tasks_unpin found ?_
    simp [todo]
  | read todo | cancelled todo | joined todo | joinedOwn todo | returned todo =>
    exact .inl ⟨.quiet, Keeps.setTask (.of_eq rfl rfl) rfl found (by simp [todo])⟩
  | decided todo process scope => exact .inr ⟨_, _, _, todo, process, scope, rfl⟩
  | published todo process =>
    refine .inl ⟨.quiet, Keeps.setTask (.setRotation process ?_) rfl found (by simp [todo])⟩
    exact .published found (todo ▸ List.mem_cons_self)
  | took | resumed =>
    exact .inl ⟨.quiet, Keeps.setTask (.of_eq rfl rfl) rfl found (Nat.le_refl _)⟩
  | lost =>
    refine .inl ⟨.of_eq view_unpin, ?_⟩
    exact Keeps.setTask (.of_eq rotations_unpin tasks_unpin) tasks_unpin found (Nat.zero_le _)

/-- Every step is a write that keeps the plans and the tasks, an acceptance or a decision. -/
theorem Moved.cases (numbered : world.view.Numbered) (moved : world.Moved action after) :
    world.view.Write after.view ∧ world.Keeps action after ∨
    (∃ process family new policy path inner ticket nextGeneration,
      world.families family = some inner ∧ world.generations new = none ∧
      world.tasks process = none ∧ inner.state.rotating = false ∧
      Checked.add u64Max inner.state.nextGeneration 1 = some nextGeneration ∧
      after = world.accept process family inner new policy path ticket nextGeneration) ∨
    ∃ task teardown rest rotation inner, world.tasks task = some teardown ∧
      teardown.todo = .decide :: rest ∧ world.rotations task = some rotation ∧
      world.families rotation.family = some inner ∧
      after = (world.conclude inner rotation).1.setTask task
        { teardown with todo := .publish (world.conclude inner rotation).2 :: rest } := by
  cases moved with
  | created freshFamily freshGeneration =>
    refine .inl ⟨?_, .of_eq rfl rfl⟩
    rw [view_create]
    exact .created (Pool.map_eq_none.2 freshFamily) (Pool.map_eq_none.2 freshGeneration)
  | childRefused | spawnRefused | rotateRefused => exact .inl ⟨.quiet, .of_eq rfl rfl⟩
  | @adopted parent family generation inner found held opened admits freshFamily freshGeneration =>
    refine .inl ⟨?_, .of_eq rfl rfl⟩
    rw [view_adopt, view_create]
    refine .adopted (Pool.map_eq_none.2 freshFamily) (Pool.map_eq_none.2 freshGeneration) ?_
    have state : world.view.state parent = some inner.state := Pool.map_of_eq_some found
    obtain ⟨shape, at_current, open_⟩ := admissionOpen_eq_true.1 admits
    obtain ⟨shape', at_current', own⟩ := numbered.current parent inner.state state
    obtain rfl : shape = shape' := Option.some.inj (at_current.symm.trans at_current')
    exact ⟨shape, inner.state, at_current, own.symm ▸ state, opened, rfl, open_⟩
  | upgraded | dropped =>
    exact .inl ⟨.of_eq (view_modifyFamily_same fun _ => rfl), .of_eq rfl rfl⟩
  | submitted fresh =>
    refine .inl ⟨?_, .of_eq rfl rfl⟩
    rw [view_register]
    exact .submitted (Pool.map_eq_none.2 fresh)
  | @spawned generation executionId core inner found scope held check fresh =>
    refine .inl ⟨?_, .of_eq rfl rfl⟩
    obtain ⟨opened, current, admits⟩ := checkCurrent_eq_none.1 check
    obtain ⟨shape, at_generation, open_⟩ := admissionOpen_eq_true.1 admits
    have own : world.view.shape generation = some core.shape := Pool.map_of_eq_some found
    obtain rfl : shape = core.shape := Option.some.inj (at_generation.symm.trans own)
    refine .congr (view_modifyGeneration_same fun _ => rfl) ?_
    rw [view_register]
    refine .spawned ?_ (Pool.map_eq_none.2 fresh)
    exact ⟨_, inner.state, at_generation, Pool.map_of_eq_some scope, opened, current, open_⟩
  | finished =>
    refine .inl ⟨.of_eq ?_, .of_eq rfl rfl⟩
    exact congrArg (ScopeView.mk _ _) (Pool.map_modify_same fun _ => rfl)
  | untracked => exact .inl ⟨.of_eq (view_modifyGeneration_same fun _ => rfl), .of_eq rfl rfl⟩
  | closed found =>
    refine .inl ⟨?_, .of_eq rfl rfl⟩
    rw [view_shut]
    exact .shut (Pool.map_of_eq_some found)
  | cancelBegan found held fresh =>
    refine .inl ⟨.of_eq view_pin, ?_⟩
    refine Keeps.newTask (.of_eq rotations_pin tasks_pin) tasks_pin fresh ?_
    split <;> rfl
  | rotated found held freshGeneration fresh opened resting outside counted numbered =>
    refine .inr (.inl ⟨_, _, _, _, _, _, _, _, found, freshGeneration, fresh, resting, ?_, rfl⟩)
    exact numbered
  | pendingCancelled found => exact .inl ⟨.quiet, .setRotation found (.asked rfl)⟩
  | @worked task action teardown teardown' mid found works =>
    refine (works.cases found).imp (fun h => h) fun ⟨rest, rotation, inner, todo, process, h⟩ => ?_
    exact .inr ⟨task, teardown, rest, rotation, inner, found, todo, process, h⟩

/-- The rotation is accepted and has not decided. -/
def Pending (world : ScopeWorld) (process : Nat) (rotation : RotationProcess) : Prop :=
  world.rotations process = some rotation ∧
    ∃ teardown, world.tasks process = some teardown ∧ 0 < teardown.todo.count .decide

theorem Keeps.pending {process : Nat} {rotation' : RotationProcess}
    (keeps : world.Keeps action after) (pending : after.Pending process rotation') :
    ∃ rotation, world.Pending process rotation ∧
      rotation'.toRotationPlan = rotation.toRotationPlan := by
  obtain ⟨found', teardown', at_process', decides⟩ := pending
  obtain ⟨rotation, found, rewrites⟩ := keeps.rotations process rotation' found'
  rcases keeps.tasks process teardown' at_process' with ⟨teardown, at_process, less⟩ | ⟨-, none⟩
  · exact ⟨rotation, ⟨found, teardown, at_process, decides.trans_le less⟩,
      rewrites.plan⟩
  · omega

/-- What holds between the scopes and the rotations in every reachable world. -/
structure Ordered (world : ScopeWorld) : Prop where
  numbered : world.view.Numbered
  process : ∀ process rotation, world.rotations process = some rotation →
    ∃ teardown, world.tasks process = some teardown
  old : ∀ process rotation, world.rotations process = some rotation →
    ∃ shape, world.view.shape rotation.old = some shape ∧ shape.admissionOpen = false
  once : ∀ task teardown, world.tasks task = some teardown → teardown.todo.count .decide ≤ 1
  pending : ∀ process rotation, world.Pending process rotation →
    world.view.Holds rotation.toRotationPlan
  sole : ∀ process process' rotation rotation', world.Pending process rotation →
    world.Pending process' rotation' → rotation.family = rotation'.family → process = process'

namespace Ordered

theorem new : ScopeWorld.new.Ordered where
  numbered := .new
  process _ _ absurd := by cases absurd
  old _ _ absurd := by cases absurd
  once _ _ absurd := by cases absurd
  pending _ _ absurd := by cases absurd.1
  sole _ _ _ _ absurd := by cases absurd.1

theorem keep (ordered : world.Ordered) (write : world.view.Write after.view)
    (keeps : world.Keeps action after) : after.Ordered where
  numbered := ordered.numbered.write write
  process process rotation' found' := by
    obtain ⟨rotation, found, -⟩ := keeps.rotations process rotation' found'
    obtain ⟨teardown, at_process⟩ := ordered.process process rotation found
    exact keeps.persist process teardown at_process
  old process rotation' found' := by
    obtain ⟨rotation, found, rewrites⟩ := keeps.rotations process rotation' found'
    obtain ⟨shape, at_old, shut⟩ := ordered.old process rotation found
    obtain ⟨shape', at_old', -, -, kept⟩ := (ScopeView.Extends.of_write write).shape _ shape at_old
    exact ⟨shape', (congrArg RotationPlan.old rewrites.plan) ▸ at_old', kept shut⟩
  once task teardown' found' := by
    rcases keeps.tasks task teardown' found' with ⟨teardown, found, less⟩ | ⟨-, none⟩
    · exact less.trans (ordered.once task teardown found)
    · omega
  pending process rotation' pending' := by
    obtain ⟨rotation, pending, same⟩ := keeps.pending pending'
    exact same ▸ (ordered.pending process rotation pending).write write
  sole process other rotation' rotation'' pending' pending'' family := by
    obtain ⟨rotation, pending, same⟩ := keeps.pending pending'
    obtain ⟨rotation₂, pending₂, same₂⟩ := keeps.pending pending''
    refine ordered.sole process other rotation rotation₂ pending pending₂ ?_
    exact (congrArg RotationPlan.family same).symm.trans
      (family.trans (congrArg RotationPlan.family same₂))

section accept

variable {process family ticket nextGeneration : Nat} {inner : ScopeInner} {new : ScopeId}
  {policy : RotationPolicy} {path : List ExecutionId}

theorem accept_write (found : world.families family = some inner)
    (freshGeneration : world.generations new = none) (resting : inner.state.rotating = false)
    (numbered : Checked.add u64Max inner.state.nextGeneration 1 = some nextGeneration) :
    world.view.Write
      (world.accept process family inner new policy path ticket nextGeneration).view := by
  rw [view_accept]
  exact .accepted (Pool.map_of_eq_some found) (Pool.map_eq_none.2 freshGeneration) resting numbered

/-- The current generation of the scope is closed. -/
theorem accept_old (ordered : world.Ordered) (found : world.families family = some inner)
    (freshGeneration : world.generations new = none) :
    ∃ shape, world.view.shape inner.state.current = some shape ∧ shape.family = family ∧
      (world.view.accept family inner.state new policy ticket nextGeneration).shape
        inner.state.current = some { shape with admissionOpen := false } := by
  obtain ⟨shape, at_current, own⟩ := ordered.numbered.current family inner.state
    (Pool.map_of_eq_some found)
  have apart : inner.state.current ≠ new := by
    rintro rfl
    rw [show world.view.shape _ = none from Pool.map_eq_none.2 freshGeneration] at at_current
    cases at_current
  refine ⟨shape, at_current, own, ?_⟩
  exact (Pool.set_of_ne apart).trans (Pool.modify_self.trans (congrArg _ at_current))

/-- The scope is held for the rotation it has accepted. -/
theorem accept_holds (ordered : world.Ordered) (found : world.families family = some inner)
    (freshGeneration : world.generations new = none) :
    (world.accept process family inner new policy path ticket nextGeneration).view.Holds
      { family, old := inner.state.current, new, ticket, policy, path } := by
  have state : world.view.state family = some inner.state := Pool.map_of_eq_some found
  obtain ⟨shape, at_current, own, at_old⟩ := ordered.accept_old found freshGeneration
  rw [view_accept]
  constructor
  · exact ⟨_, Pool.modify_self.trans (congrArg _ state), rfl, rfl, rfl⟩
  · refine ⟨_, _, at_old, Pool.set_self, ?_, rfl⟩
    obtain ⟨state', at_family, below⟩ := ordered.numbered.below _ shape at_current
    rw [own, state] at at_family
    obtain rfl := Option.some.inj at_family
    exact below

theorem accept (ordered : world.Ordered) (found : world.families family = some inner)
    (freshGeneration : world.generations new = none) (fresh : world.tasks process = none)
    (resting : inner.state.rotating = false)
    (numbered : Checked.add u64Max inner.state.nextGeneration 1 = some nextGeneration) :
    (world.accept process family inner new policy path ticket nextGeneration).Ordered := by
  have write : world.view.Write
      (world.accept process family inner new policy path ticket nextGeneration).view :=
    accept_write found freshGeneration resting numbered
  have holds : (world.accept process family inner new policy path ticket nextGeneration).view.Holds
      { family, old := inner.state.current, new, ticket, policy, path } :=
    ordered.accept_holds found freshGeneration
  -- a rotation that was pending before is one of another scope
  have before : ∀ {other rotation}, other ≠ process →
      (world.accept process family inner new policy path ticket nextGeneration).Pending other
        rotation → world.Pending other rotation ∧ rotation.family ≠ family := by
    rintro other rotation apart ⟨at_other, teardown, running, decides⟩
    have pending : world.Pending other rotation :=
      ⟨(Pool.set_of_ne apart).symm.trans at_other, teardown,
        (Pool.set_of_ne apart).symm.trans running, decides⟩
    refine ⟨pending, fun same => ?_⟩
    obtain ⟨state, at_family, rotating, -⟩ := (ordered.pending other rotation pending).state
    rw [same, show world.view.state family = some inner.state from Pool.map_of_eq_some found]
      at at_family
    obtain rfl := Option.some.inj at_family
    exact absurd (resting.symm.trans rotating) (by simp)
  constructor
  · exact ordered.numbered.write write
  · intro other rotation at_other
    rcases Pool.of_set_eq_some at_other with ⟨rfl, -⟩ | ⟨apart, old⟩
    · exact ⟨_, Pool.set_self⟩
    · obtain ⟨teardown, running⟩ := ordered.process other rotation old
      exact ⟨teardown, (Pool.set_of_ne apart).trans running⟩
  · intro other rotation at_other
    rcases Pool.of_set_eq_some at_other with ⟨rfl, rfl⟩ | ⟨apart, old⟩
    · obtain ⟨shape, -, -, at_old⟩ := ordered.accept_old found freshGeneration
      exact ⟨_, view_accept ▸ at_old, rfl⟩
    · obtain ⟨shape, at_old, shut⟩ := ordered.old other rotation old
      obtain ⟨shape', at_old', -, -, kept⟩ :=
        (ScopeView.Extends.of_write write).shape _ shape at_old
      exact ⟨shape', at_old', kept shut⟩
  · intro task teardown at_task
    rcases Pool.of_set_eq_some at_task with ⟨-, rfl⟩ | ⟨-, old⟩
    · exact Nat.le_refl 1
    · exact ordered.once task teardown old
  · intro other rotation pending
    by_cases apart : other = process
    · subst apart
      obtain rfl := Option.some.inj (Pool.set_self.symm.trans pending.1)
      exact holds
    · exact (ordered.pending other rotation (before apart pending).1).write write
  · intro left right rotation rotation' pending pending' family'
    by_cases apart : left = process
    · subst apart
      obtain rfl := Option.some.inj (Pool.set_self.symm.trans pending.1)
      by_contra other
      exact (before (Ne.symm other) pending').2 family'.symm
    · by_cases apart' : right = process
      · subst apart'
        obtain rfl := Option.some.inj (Pool.set_self.symm.trans pending'.1)
        exact ((before apart pending).2 family').elim
      · exact ordered.sole left right rotation rotation' (before apart pending).1
          (before apart' pending').1 family'

end accept

/-! ### The decision -/

section decide

variable {task : Nat} {teardown : Teardown} {rest : List TeardownOp}
  {rotation : RotationProcess} {inner : ScopeInner}

theorem conclude_rotations : (world.conclude inner rotation).1.rotations = world.rotations := by
  unfold conclude
  split
  next => rfl
  next =>
    split
    next => rfl
    next => rfl

/-- With the ticket that matches there are two outcomes. -/
theorem conclude_cases (world : ScopeWorld)
    (ticket : inner.state.rotationTicket = rotation.ticket) :
    rotation.cancelled = true ∧
      (world.conclude inner rotation).1.view = world.view.abandon rotation.family rotation.new ∧
      (world.conclude inner rotation).2 = .cancelled rotation.old rotation.new ∨
    rotation.cancelled = false ∧
      (world.conclude inner rotation).1.view =
        world.view.conclude rotation.family rotation.new rotation.policy ∧
      (world.conclude inner rotation).2 = .rotated rotation.old rotation.new := by
  unfold conclude
  rw [if_neg (not_not.2 ticket)]
  split
  next cancelled =>
    refine .inl ⟨cancelled, ?_, rfl⟩
    refine (view_modifyFamily
      (g := fun state => { state with closed := true, rotating := false }) fun _ => rfl).trans ?_
    rw [view_closeAdmission]
    rfl
  next kept => exact .inr ⟨Bool.not_eq_true _ ▸ kept, view_modifyFamily fun _ => rfl, rfl⟩

theorem pending_of_todo (found : world.tasks task = some teardown)
    (todo : teardown.todo = .decide :: rest) (process : world.rotations task = some rotation) :
    world.Pending task rotation :=
  ⟨process, teardown, found, by simp [todo]⟩

theorem ticket_eq (ordered : world.Ordered) (pending : world.Pending task rotation)
    (scope : world.families rotation.family = some inner) :
    inner.state.rotationTicket = rotation.ticket ∧
      inner.state.current = rotation.policy.accepting rotation.old rotation.new := by
  obtain ⟨state, at_family, -, ticket, current⟩ := (ordered.pending task rotation pending).state
  rw [show world.view.state rotation.family = some inner.state from Pool.map_of_eq_some scope]
    at at_family
  obtain rfl := Option.some.inj at_family
  exact ⟨ticket, current⟩

theorem decide_effect (ordered : world.Ordered) (pending : world.Pending task rotation)
    (scope : world.families rotation.family = some inner) :
    world.view.Effect (world.conclude inner rotation).1.view := by
  obtain ⟨ticket, current⟩ := ordered.ticket_eq pending scope
  rcases conclude_cases world ticket with ⟨-, view, -⟩ | ⟨-, view, -⟩
  · rw [view]
    exact .abandoned
  · rw [view]
    refine .concluded fun state at_family changes => ?_
    rw [show world.view.state rotation.family = some inner.state from Pool.map_of_eq_some scope]
      at at_family
    obtain rfl := Option.some.inj at_family
    obtain ⟨old, new, at_old, at_new, less, own⟩ := (ordered.pending task rotation pending).later
    cases policy : rotation.policy with
    | strict =>
      rw [policy] at current
      exact ⟨old, new, current ▸ at_old, at_new, less, own⟩
    | availabilityFirst => exact (changes (policy ▸ rfl)).elim

theorem decide (ordered : world.Ordered) (found : world.tasks task = some teardown)
    (todo : teardown.todo = .decide :: rest) (process : world.rotations task = some rotation)
    (scope : world.families rotation.family = some inner) :
    ((world.conclude inner rotation).1.setTask task
      { teardown with todo := .publish (world.conclude inner rotation).2 :: rest }).Ordered := by
  have pending := pending_of_todo found todo process
  have effect := ordered.decide_effect pending scope
  have keeps : world.Keeps (.advance task) ((world.conclude inner rotation).1.setTask task
      { teardown with todo := .publish (world.conclude inner rotation).2 :: rest }) := by
    refine Keeps.setTask (.of_eq conclude_rotations conclude_tasks) conclude_tasks found ?_
    simp [todo]
  -- no decision is left of the task
  have decided : ∀ {other rotation'}, ((world.conclude inner rotation).1.setTask task
      { teardown with todo := .publish (world.conclude inner rotation).2 :: rest }).Pending other
        rotation' → other ≠ task := by
    rintro other rotation' ⟨-, teardown', at_other, decides⟩ rfl
    obtain rfl := Option.some.inj (Pool.set_self.symm.trans at_other)
    have once := ordered.once other teardown found
    rw [todo] at once
    simp only [List.count_cons_self, List.count_cons_of_ne, ne_eq, reduceCtorEq,
      not_false_eq_true] at once decides
    omega
  constructor
  · exact ordered.numbered.effect effect
  · intro other rotation' found'
    obtain ⟨before, at_other, -⟩ := keeps.rotations other rotation' found'
    obtain ⟨teardown', running⟩ := ordered.process other before at_other
    exact keeps.persist other teardown' running
  · intro other rotation' found'
    obtain ⟨before, at_other, rewrites⟩ := keeps.rotations other rotation' found'
    obtain ⟨shape, at_old, shut⟩ := ordered.old other before at_other
    obtain ⟨shape', at_old', -, -, kept⟩ :=
      (ScopeView.Extends.of_effect effect).shape _ shape at_old
    exact ⟨shape', (congrArg RotationPlan.old rewrites.plan) ▸ at_old', kept shut⟩
  · intro other teardown' found'
    rcases keeps.tasks other teardown' found' with ⟨before, at_other, less⟩ | ⟨-, none⟩
    · exact less.trans (ordered.once other before at_other)
    · omega
  · intro other rotation' pending'
    have apart := decided pending'
    obtain ⟨before, pending'', same⟩ := keeps.pending pending'
    have holds := ordered.pending other before pending''
    have elsewhere : before.family ≠ rotation.family := fun family =>
      apart (ordered.sole other task before rotation pending'' pending family)
    rw [same]
    rcases conclude_cases world (ordered.ticket_eq pending scope).1 with
      ⟨-, view, -⟩ | ⟨-, view, -⟩
    · rw [view_setTask, view]
      exact (holds.closeAdmission rotation.new).modifyState_of_ne elsewhere
    · rw [view_setTask, view]
      exact holds.modifyState_of_ne elsewhere
  · intro left right rotation' rotation'' pending' pending'' family
    obtain ⟨before, pending₁, same⟩ := keeps.pending pending'
    obtain ⟨before', pending₂, same'⟩ := keeps.pending pending''
    refine ordered.sole left right before before' pending₁ pending₂ ?_
    exact (congrArg RotationPlan.family same).symm.trans
      (family.trans (congrArg RotationPlan.family same'))

end decide

/-- Every step keeps the order. -/
theorem step (ordered : world.Ordered) (step : world.step action = some after) :
    after.Ordered := by
  rcases (Moved.of_step step).cases ordered.numbered with ⟨write, keeps⟩ |
    ⟨_, _, _, _, _, _, _, _, found, freshGeneration, fresh, resting, numbered, rfl⟩ |
    ⟨_, _, _, _, _, found, todo, process, scope, rfl⟩
  · exact ordered.keep write keeps
  · exact ordered.accept found freshGeneration fresh resting numbered
  · exact ordered.decide found todo process scope

theorem effect (ordered : world.Ordered) (step : world.step action = some after) :
    world.view.Effect after.view := by
  rcases (Moved.of_step step).cases ordered.numbered with ⟨write, -⟩ |
    ⟨_, _, _, _, _, _, _, _, found, freshGeneration, -, resting, numbered, rfl⟩ |
    ⟨_, _, _, _, _, found, todo, process, scope, rfl⟩
  · exact .write write
  · exact .write (accept_write found freshGeneration resting numbered)
  · exact ordered.decide_effect (pending_of_todo found todo process) scope

/-- An accepted rotation stays. -/
theorem rotation {process : Nat} {rotation : RotationProcess} (ordered : world.Ordered)
    (step : world.step action = some after) (found : world.rotations process = some rotation) :
    ∃ rotation', after.rotations process = some rotation' ∧
      world.Rewrites action process rotation rotation' := by
  rcases (Moved.of_step step).cases ordered.numbered with ⟨-, keeps⟩ |
    ⟨accepted, _, _, _, _, _, _, _, -, -, fresh, -, -, rfl⟩ |
    ⟨task, teardown, rest, decided, inner, -, -, -, -, rfl⟩
  · exact keeps.kept process rotation found
  · have apart : process ≠ accepted := by
      rintro rfl
      obtain ⟨teardown, at_process⟩ := ordered.process process rotation found
      exact absurd (fresh.symm.trans at_process) (by simp)
    exact ⟨rotation, (Pool.set_of_ne apart).trans found, .same⟩
  · have same : (world.conclude inner decided).1.rotations = world.rotations := conclude_rotations
    exact ⟨rotation, same ▸ found, .same⟩

/-- A rotation whose task was there was accepted before. -/
theorem rotation_back {process : Nat} {rotation' : RotationProcess} {teardown : Teardown}
    (ordered : world.Ordered) (step : world.step action = some after)
    (found' : after.rotations process = some rotation')
    (running : world.tasks process = some teardown) :
    ∃ rotation, world.rotations process = some rotation ∧
      world.Rewrites action process rotation rotation' := by
  rcases (Moved.of_step step).cases ordered.numbered with ⟨-, keeps⟩ |
    ⟨accepted, _, _, _, _, _, _, _, -, -, fresh, -, -, rfl⟩ |
    ⟨task, teardown, rest, decided, inner, -, -, -, -, rfl⟩
  · exact keeps.rotations process rotation' found'
  · rcases Pool.of_set_eq_some found' with ⟨rfl, -⟩ | ⟨-, old⟩
    · exact absurd (fresh.symm.trans running) (by simp)
    · exact ⟨rotation', old, .same⟩
  · have same : (world.conclude inner decided).1.rotations = world.rotations := conclude_rotations
    exact ⟨rotation', same ▸ found', .same⟩

theorem of_reaches {ok : ScopeWorld → ScopeAction → Prop} {world after : ScopeWorld}
    (reached : scopes.Reaches ok world after) (ordered : world.Ordered) : after.Ordered :=
  reached.invariant ordered fun ordered _ step => ordered.step step

theorem of_reachable (reached : scopes.Reachable world) : world.Ordered :=
  of_reaches reached .new

end Ordered

/-! ## Whole runs -/

variable {ok : ScopeWorld → ScopeAction → Prop}

theorem Ordered.extends (ordered : world.Ordered) (run : scopes.Reaches ok world after) :
    world.view.Extends after.view := by
  induction run with
  | refl => exact .refl _
  | tail before _ step ih =>
    exact ih.trans (.of_effect ((ordered.of_reaches before).effect step))

/-- The plan of a rotation stays, and its flag is not taken back. -/
theorem Ordered.rotation_kept {process : Nat} {rotation : RotationProcess}
    (ordered : world.Ordered) (run : scopes.Reaches ok world after)
    (found : world.rotations process = some rotation) :
    ∃ rotation', after.rotations process = some rotation' ∧
      rotation'.toRotationPlan = rotation.toRotationPlan ∧
      (rotation.cancelled = true → rotation'.cancelled = true) := by
  induction run with
  | refl => exact ⟨rotation, found, rfl, fun set => set⟩
  | tail before _ step ih =>
    obtain ⟨rotation', found', plan, kept⟩ := ih
    obtain ⟨rotation'', found'', rewrites⟩ := (ordered.of_reaches before).rotation step found'
    refine ⟨rotation'', found'', rewrites.plan.trans plan, fun set => ?_⟩
    cases rewrites with
    | same | published => exact kept set
    | asked => rfl

/-- The execution was admitted with the generation. -/
def Admitted (world : ScopeWorld) (generation : ScopeId) (executionId : ExecutionId) : Prop :=
  world.view.origin executionId = some (some generation)

/-- Executions are admitted with a generation by `try_spawn`, on it. -/
theorem Moved.trySpawn_of_admitted {generation : ScopeId} {executionId : ExecutionId}
    (moved : world.Moved action after) (before : ¬ world.Admitted generation executionId)
    (admitted : after.Admitted generation executionId) :
    action = .trySpawn generation (some executionId) := by
  obtain ⟨execution, found, origin⟩ := Pool.map_eq_some.1 admitted
  have earlier : ∀ {execution'}, world.executions executionId = some execution' →
      execution'.generation ≠ some generation := fun found same =>
    before (Pool.map_eq_some.2 ⟨_, found, same⟩)
  rcases moved.executions with same | ⟨finished, -, eq⟩ | ⟨fresh, generation', _, -, call, eq⟩
  · exact (earlier (same ▸ found) origin).elim
  · rcases Pool.of_modify_eq_some (eq ▸ found) with ⟨rfl, execution', old, rfl⟩ | ⟨-, old⟩
    · exact (earlier old origin).elim
    · exact (earlier old origin).elim
  · rcases Pool.of_set_eq_some (eq ▸ found) with ⟨rfl, rfl⟩ | ⟨-, old⟩
    · exact call generation origin
    · exact (earlier old origin).elim

/-- A sealed generation gains nothing. -/
theorem Ordered.sealed {generation : ScopeId} (ordered : world.Ordered)
    (run : scopes.Reaches ok world after) (sealed : world.view.Sealed generation) :
    (∀ executionId, after.Admitted generation executionId ↔
      world.Admitted generation executionId) ∧
    ∀ shape shape', world.view.shape generation = some shape →
      after.view.shape generation = some shape' → shape'.children = shape.children := by
  induction run with
  | refl =>
    refine ⟨fun _ => Iff.rfl, fun shape shape' found found' => ?_⟩
    rw [Option.some.inj (found.symm.trans found')]
  | @tail middle after action before _ step ih =>
    have effect := (ordered.of_reaches before).effect step
    have shut := ((ordered.extends before).sealed sealed).not_admits
    refine ⟨fun executionId => (Iff.trans ?_ (ih.1 executionId)),
      fun shape shape' found found' => ?_⟩
    · constructor
      · intro admitted
        by_contra earlier
        exact shut (effect.admits_of_origin earlier admitted)
      · exact (ScopeView.Extends.of_effect effect).origin executionId (some generation)
    · obtain ⟨between, at_generation, -⟩ := (ordered.extends before).shape generation shape found
      by_contra gained
      refine shut (effect.admits_of_children at_generation found' ?_)
      rwa [ih.2 shape between found at_generation]

/-- A step that changes the current generation publishes one with a larger number. -/
theorem Ordered.rising {family : Nat} {state state' : ScopeState} (ordered : world.Ordered)
    (step : world.step action = some after) (found : world.view.state family = some state)
    (found' : after.view.state family = some state') (changes : state'.current ≠ state.current) :
    ∃ shape shape', world.view.shape state.current = some shape ∧
      after.view.shape state'.current = some shape' ∧ shape.number < shape'.number := by
  have kept : ∀ {p : Prop}, world.view.state family = some state' → p := fun same =>
    (changes (congrArg _ (Option.some.inj (same.symm.trans found)))).elim
  have effect := ordered.effect step
  generalize after.view = view at effect found' ⊢
  cases effect with
  | abandoned =>
    rcases Pool.of_modify_eq_some found' with ⟨rfl, before, old, rfl⟩ | ⟨-, old⟩
    · obtain rfl := Option.some.inj (old.symm.trans found)
      exact (changes rfl).elim
    · exact kept old
  | concluded later =>
    rcases Pool.of_modify_eq_some found' with ⟨rfl, before, old, rfl⟩ | ⟨-, old⟩
    · obtain rfl := Option.some.inj (old.symm.trans found)
      obtain ⟨shape, shape', at_current, at_new, less, -⟩ := later before old changes
      refine ⟨shape, shape', at_current, ?_, less⟩
      rename RotationPolicy => policy
      cases policy with
      | strict => exact at_new
      | availabilityFirst => exact (changes rfl).elim
    · exact kept old
  | write write =>
    cases write with
    | quiet | spawned | submitted => exact kept found'
    | created freshFamily | adopted freshFamily =>
      rcases Pool.of_set_eq_some found' with ⟨rfl, -⟩ | ⟨-, old⟩
      · exact absurd (freshFamily.symm.trans found) (by simp)
      · exact kept old
    | shut =>
      rcases Pool.of_modify_eq_some found' with ⟨rfl, before, old, rfl⟩ | ⟨-, old⟩
      · obtain rfl := Option.some.inj (old.symm.trans found)
        exact (changes rfl).elim
      · exact kept old
    | @accepted family' state₀ new policy ticket nextGeneration scope =>
      rcases Pool.of_modify_eq_some found' with ⟨rfl, before, old, rfl⟩ | ⟨-, old⟩
      · obtain rfl := Option.some.inj (old.symm.trans found)
        obtain rfl := Option.some.inj (old.symm.trans scope)
        cases policy with
        | strict => exact (changes rfl).elim
        | availabilityFirst =>
          obtain ⟨shape, at_current, own⟩ := ordered.numbered.current family before found
          obtain ⟨state, at_family, below⟩ := ordered.numbered.below _ shape at_current
          rw [own, found] at at_family
          obtain rfl := Option.some.inj at_family
          exact ⟨shape, _, at_current, Pool.set_self, below⟩
      · exact kept old

/-- The current generation of a later world is the same, or has a larger number. -/
theorem Ordered.current_or_rises {family : Nat} {state state' : ScopeState}
    (ordered : world.Ordered) (run : scopes.Reaches ok world after)
    (found : world.view.state family = some state)
    (found' : after.view.state family = some state') :
    state'.current = state.current ∨
      ∃ shape shape', world.view.shape state.current = some shape ∧
        after.view.shape state'.current = some shape' ∧ shape.number < shape'.number := by
  induction run generalizing state' with
  | refl => exact .inl (congrArg _ (Option.some.inj (found'.symm.trans found)))
  | @tail middle after action before _ step ih =>
    obtain ⟨between, at_family, -⟩ := (ordered.extends before).state family state found
    have later := ordered.of_reaches before
    have extends_ := ScopeView.Extends.of_effect (later.effect step)
    by_cases same : state'.current = between.current
    · rw [same]
      refine (ih at_family).imp_right fun ⟨shape, shape', at_current, at_between, less⟩ => ?_
      obtain ⟨shape'', at_after, -, number, -⟩ := extends_.shape _ shape' at_between
      exact ⟨shape, shape'', at_current, at_after, by omega⟩
    · obtain ⟨shape, shape', at_between, at_after, less⟩ := later.rising step at_family found' same
      rcases ih at_family with eq | ⟨first, second, at_current, at_between', less'⟩
      · rw [eq] at at_between
        obtain ⟨first, at_current, -⟩ := ordered.numbered.current family state found
        obtain ⟨first', at_middle, -, number, -⟩ :=
          (ordered.extends before).shape _ first at_current
        obtain rfl := Option.some.inj (at_middle.symm.trans at_between)
        exact .inr ⟨first, shape', at_current, at_after, by omega⟩
      · obtain rfl := Option.some.inj (at_between.symm.trans at_between')
        exact .inr ⟨first, shape', at_current, at_after, by omega⟩

/-- What the generations of the scopes are good for. -/
structure GenerationSafe (world : ScopeWorld) : Prop where
  /-- An execution is admitted with a generation only while that is current and open and the
  scope is not closed. -/
  admission : ∀ action after generation executionId, scopes.step world action = some after →
    ¬ world.Admitted generation executionId → after.Admitted generation executionId →
    world.view.Admits generation
  /-- Nothing is added to the old generation of a rotation that was accepted. -/
  old : ∀ after process rotation, scopes.Reaches (fun _ _ => True) world after →
    world.rotations process = some rotation →
    (∀ executionId, after.Admitted rotation.old executionId ↔
      world.Admitted rotation.old executionId) ∧
    ∃ shape shape', world.view.shape rotation.old = some shape ∧
      after.view.shape rotation.old = some shape' ∧ shape'.children = shape.children
  /-- The numbers of successive current generations increase. -/
  increasing : ∀ after family state state', scopes.Reaches (fun _ _ => True) world after →
    world.view.state family = some state → after.view.state family = some state' →
    state'.current = state.current ∨
      ∃ shape shape', world.view.shape state.current = some shape ∧
        after.view.shape state'.current = some shape' ∧ shape.number < shape'.number
  /-- One generation of a scope admits at most. -/
  sole : ∀ generation generation' shape shape', world.view.shape generation = some shape →
    world.view.shape generation' = some shape' → shape.family = shape'.family →
    world.view.Admits generation → world.view.Admits generation' → generation = generation'
  /-- A closed scope stays closed, and none of its generations, then or later, admits. -/
  closed : ∀ after family state, scopes.Reaches (fun _ _ => True) world after →
    world.view.state family = some state → state.closed = true →
    ∀ generation shape, after.view.shape generation = some shape → shape.family = family →
      ¬ after.view.Admits generation

end ScopeWorld

/-- **Generation safety**, in every reachable world of scopes. -/
theorem scope_generations_safe {world : ScopeWorld} (reached : scopes.Reachable world) :
    world.GenerationSafe := by
  have ordered := ScopeWorld.Ordered.of_reachable reached
  constructor
  · intro action after generation executionId step before admitted
    exact (ordered.effect step).admits_of_origin before admitted
  · intro after process rotation run accepted
    obtain ⟨shape, at_old, shut⟩ := ordered.old process rotation accepted
    obtain ⟨shape', at_old', -⟩ := (ordered.extends run).shape _ shape at_old
    obtain ⟨executions, children⟩ := ordered.sealed run ⟨shape, at_old, .inl shut⟩
    exact ⟨executions, shape, shape', at_old, at_old', children shape shape' at_old at_old'⟩
  · intro after family state state' run found found'
    exact ordered.current_or_rises run found found'
  · rintro generation generation' shape shape' found found' same
      ⟨_, state, at_, at_family, -, rfl, -⟩ ⟨_, state', at_', at_family', -, rfl, -⟩
    obtain rfl := Option.some.inj (found.symm.trans at_)
    obtain rfl := Option.some.inj (found'.symm.trans at_')
    rw [same] at at_family
    rw [Option.some.inj (at_family.symm.trans at_family')]
  · intro after family state run found closed generation shape at_generation own
    obtain ⟨state', found', kept⟩ := (ordered.extends run).state family state found
    refine ScopeView.Sealed.not_admits ⟨shape, at_generation, .inr ⟨state', own ▸ found', ?_⟩⟩
    exact kept closed

/-- A scope whose reserved generation goes first: the old one tracks an execution and is shut. -/
theorem scope_generations_safe_rotating : ∃ world, scopes.Reachable world ∧
    world.GenerationSafe ∧ world.controls 0 = [0] ∧ world.admissionOpen 0 = false ∧
    world.admissionOpen 1 = true := by
  have run : (scopes.exec scopes.init [.create 0 0, .trySpawn 0 (some 0),
      .rotate 0 0 1 .availabilityFirst none, .trySpawn 0 (some 1)]).map (fun world =>
      (world.controls 0, world.admissionOpen 0, world.admissionOpen 1)) =
      some ([0], false, true) := by
    decide +kernel
  obtain ⟨world, exec, at_world⟩ := Option.map_eq_some_iff.1 run
  have reached := System.Reaches.of_schedule _ exec
  obtain ⟨controls, admissions⟩ := Prod.mk.inj at_world
  obtain ⟨old, new⟩ := Prod.mk.inj admissions
  exact ⟨world, reached, scope_generations_safe reached, controls, old, new⟩

end BusyBeaver
