import BusyBeaver.Scope.Moves

/-!
# What a scope is, apart from its tasks

The state of each scope, the shape of each generation and the generation that each
execution was admitted with.  `ScopeView.Effect` is what one step of the scopes does to
them: nothing, or one of the writes below with the condition it stands under.  Numbers,
families and origins never change, a closed generation and a closed scope stay so
(`ScopeView.Extends`), and a generation that is sealed gains nothing.
-/

namespace BusyBeaver

open Transition Checked

structure ScopeView : Type where
  state : Pool ScopeState
  shape : Pool GenerationShape
  origin : Pool (Option ScopeId)

namespace ScopeView

variable (view : ScopeView)

/-! ## The writes -/

def closeAdmission (generation : ScopeId) : ScopeView :=
  { view with
    shape := view.shape.modify generation fun shape => { shape with admissionOpen := false } }

def create (family : Nat) (generation : ScopeId) : ScopeView :=
  { view with
    state := view.state.set family (.new generation)
    shape := view.shape.set generation (GenerationCore.new family 1).shape }

def adopt (generation : ScopeId) (family : Nat) : ScopeView :=
  { view with
    shape := view.shape.modify generation fun shape =>
      { shape with children := shape.children ++ [family] } }

def register (executionId : ExecutionId) (generation : Option ScopeId) : ScopeView :=
  { view with origin := view.origin.set executionId generation }

def modifyState (family : Nat) (f : ScopeState → ScopeState) : ScopeView :=
  { view with state := view.state.modify family f }

def shut (family : Nat) (current : ScopeId) : ScopeView :=
  (view.modifyState family fun state => { state with closed := true }).closeAdmission current

/-- The acceptance of a rotation. -/
def accept (family : Nat) (state : ScopeState) (new : ScopeId) (policy : RotationPolicy)
    (ticket nextGeneration : Nat) : ScopeView :=
  let closed := view.closeAdmission state.current
  { closed with
    state := closed.state.modify family fun state =>
      { state with
        rotating := true
        rotationTicket := ticket
        nextGeneration := nextGeneration
        current := policy.accepting state.current new }
    shape := closed.shape.set new (GenerationCore.new family state.nextGeneration).shape }

/-- The end of a cancelled rotation. -/
def abandon (family : Nat) (new : ScopeId) : ScopeView :=
  (view.closeAdmission new).modifyState family fun state =>
    { state with closed := true, rotating := false }

/-- The end of a rotation. -/
def conclude (family : Nat) (new : ScopeId) (policy : RotationPolicy) : ScopeView :=
  view.modifyState family fun state =>
    { state with current := policy.concluding state.current new, rotating := false }

end ScopeView

namespace ScopeWorld

variable (world : ScopeWorld)

def view : ScopeView where
  state := world.families.map ScopeInner.state
  shape := world.generations.map GenerationCore.shape
  origin := world.executions.map ScopedExecution.generation

section

variable {world} {family : Nat} {generation : ScopeId} {inner : ScopeInner}

@[simp] theorem view_setTask {task : Nat} {teardown : Teardown} :
    (world.setTask task teardown).view = world.view := rfl

@[simp] theorem view_setRotation {process : Nat} {rotation : RotationProcess} :
    (world.setRotation process rotation).view = world.view := rfl

@[simp] theorem view_request {controls : List ExecutionId} :
    (world.request controls).view = world.view := rfl

theorem view_modifyFamily {f : ScopeInner → ScopeInner} {g : ScopeState → ScopeState}
    (same : ∀ inner, (f inner).state = g inner.state) :
    (world.modifyFamily family f).view = world.view.modifyState family g := by
  unfold view modifyFamily ScopeView.modifyState
  simp only [Pool.map_modify same]

theorem view_modifyFamily_same {f : ScopeInner → ScopeInner}
    (same : ∀ inner, (f inner).state = inner.state) :
    (world.modifyFamily family f).view = world.view := by
  unfold view modifyFamily
  simp only [Pool.map_modify_same same]

theorem view_modifyGeneration_same {f : GenerationCore → GenerationCore}
    (same : ∀ core, (f core).shape = core.shape) :
    (world.modifyGeneration generation f).view = world.view := by
  unfold view modifyGeneration
  simp only [Pool.map_modify_same same]

@[simp] theorem view_pin {families : List Nat} : (world.pin families).view = world.view := by
  induction families generalizing world with
  | nil => rfl
  | cons family families ih => exact ih.trans (view_modifyFamily_same fun _ => rfl)

@[simp] theorem view_unpin {families : List Nat} : (world.unpin families).view = world.view := by
  induction families generalizing world with
  | nil => rfl
  | cons family families ih => exact ih.trans (view_modifyFamily_same fun _ => rfl)

@[simp] theorem view_closeAdmission :
    (world.closeAdmission generation).view = world.view.closeAdmission generation := by
  unfold view closeAdmission modifyGeneration ScopeView.closeAdmission
  exact congrArg (ScopeView.mk _ · _) (Pool.map_modify fun _ => rfl)

@[simp] theorem view_create :
    (world.create family generation).view = world.view.create family generation := by
  unfold view create ScopeView.create
  simp only [Pool.map_set]

theorem view_adopt :
    (world.modifyGeneration generation fun core =>
      { core with children := core.children ++ [family] }).view =
      world.view.adopt generation family := by
  unfold view modifyGeneration ScopeView.adopt
  exact congrArg (ScopeView.mk _ · _) (Pool.map_modify fun _ => rfl)

@[simp] theorem view_register {executionId : ExecutionId} {origin : Option ScopeId}
    {ancestors : List ExecutionId} :
    (world.register executionId origin ancestors).view =
      world.view.register executionId origin := by
  unfold view register ScopeView.register
  simp only [Pool.map_set]

@[simp] theorem view_shut :
    (world.shut family inner).view = world.view.shut family inner.state.current := by
  unfold shut ScopeView.shut
  rw [view_closeAdmission]
  exact congrArg (ScopeView.closeAdmission · _) (view_modifyFamily fun _ => rfl)

theorem view_accept {process : Nat} {new : ScopeId} {policy : RotationPolicy}
    {path : List ExecutionId} {ticket nextGeneration : Nat} :
    (world.accept process family inner new policy path ticket nextGeneration).view =
      world.view.accept family inner.state new policy ticket nextGeneration := by
  unfold view accept ScopeView.accept closeAdmission modifyGeneration ScopeView.closeAdmission
  have state : (world.families.modify family fun inner =>
      { inner with
        state := { inner.state with
          rotating := true
          rotationTicket := ticket
          nextGeneration := nextGeneration
          current := policy.accepting inner.state.current new }
        pins := inner.pins + 1 }).map ScopeInner.state =
      (world.families.map ScopeInner.state).modify family fun state =>
        { state with
          rotating := true
          rotationTicket := ticket
          nextGeneration := nextGeneration
          current := policy.accepting state.current new } := Pool.map_modify fun _ => rfl
  have shape : (world.generations.modify inner.state.current fun core =>
      { core with admissionOpen := false }).map GenerationCore.shape =
      (world.generations.map GenerationCore.shape).modify inner.state.current fun shape =>
        { shape with admissionOpen := false } := Pool.map_modify fun _ => rfl
  simp only [Pool.map_set, state, shape]

end

end ScopeWorld

namespace ScopeView

variable {view after : ScopeView} {family : Nat} {generation : ScopeId}

/-- The generation takes executions and children: it is the current one of its scope and
open, and the scope is not closed. -/
def Admits (view : ScopeView) (generation : ScopeId) : Prop :=
  ∃ shape state, view.shape generation = some shape ∧ view.state shape.family = some state ∧
    state.closed = false ∧ state.current = generation ∧ shape.admissionOpen = true

/-- The generation is closed, or its scope is. -/
def Sealed (view : ScopeView) (generation : ScopeId) : Prop :=
  ∃ shape, view.shape generation = some shape ∧
    (shape.admissionOpen = false ∨
      ∃ state, view.state shape.family = some state ∧ state.closed = true)

theorem Sealed.not_admits (sealed : view.Sealed generation) : ¬ view.Admits generation := by
  obtain ⟨shape, at_generation, shut⟩ := sealed
  rintro ⟨shape', state, at_generation', at_family, opened, -, admits⟩
  obtain rfl : shape = shape' := Option.some.inj (at_generation.symm.trans at_generation')
  rcases shut with shut | ⟨state', at_family', closed⟩
  · exact absurd (shut.symm.trans admits) (by simp)
  · obtain rfl : state = state' := Option.some.inj (at_family.symm.trans at_family')
    exact absurd (opened.symm.trans closed) (by simp)

/-- What a call, or a task before it decides, writes. -/
inductive Write (view : ScopeView) : ScopeView → Prop
  | quiet : Write view view
  | created {family : Nat} {generation : ScopeId} (freshFamily : view.state family = none)
      (freshGeneration : view.shape generation = none) : Write view (view.create family generation)
  | adopted {family : Nat} {generation parent : ScopeId} (freshFamily : view.state family = none)
      (freshGeneration : view.shape generation = none) (admits : view.Admits parent) :
      Write view ((view.create family generation).adopt parent family)
  | spawned {executionId : ExecutionId} {generation : ScopeId} (admits : view.Admits generation)
      (fresh : view.origin executionId = none) :
      Write view (view.register executionId (some generation))
  | submitted {executionId : ExecutionId} (fresh : view.origin executionId = none) :
      Write view (view.register executionId none)
  | shut {family : Nat} {state : ScopeState} (found : view.state family = some state) :
      Write view (view.shut family state.current)
  | accepted {family : Nat} {state : ScopeState} {new : ScopeId} {policy : RotationPolicy}
      {ticket nextGeneration : Nat} (found : view.state family = some state)
      (freshGeneration : view.shape new = none) (resting : state.rotating = false)
      (numbered : Checked.add u64Max state.nextGeneration 1 = some nextGeneration) :
      Write view (view.accept family state new policy ticket nextGeneration)

theorem Write.congr {other : ScopeView} (same : other = after) (write : view.Write after) :
    view.Write other := same ▸ write

theorem Write.of_eq (same : after = view) : view.Write after := .congr same .quiet

/-- What one step does.  A generation that a decision publishes has the larger number. -/
inductive Effect (view : ScopeView) : ScopeView → Prop
  | write {after : ScopeView} (write : view.Write after) : Effect view after
  | abandoned {family : Nat} {new : ScopeId} : Effect view (view.abandon family new)
  | concluded {family : Nat} {new : ScopeId} {policy : RotationPolicy}
      (later : ∀ state, view.state family = some state →
        policy.concluding state.current new ≠ state.current →
        ∃ old shape, view.shape state.current = some old ∧ view.shape new = some shape ∧
          old.number < shape.number ∧ shape.family = family) :
      Effect view (view.conclude family new policy)

/-! ## What only grows -/

/-- What is kept by every step. -/
structure Extends (view after : ScopeView) : Prop where
  state : ∀ family state, view.state family = some state →
    ∃ state', after.state family = some state' ∧ (state.closed = true → state'.closed = true)
  shape : ∀ generation shape, view.shape generation = some shape →
    ∃ shape', after.shape generation = some shape' ∧ shape'.family = shape.family ∧
      shape'.number = shape.number ∧ (shape.admissionOpen = false → shape'.admissionOpen = false)
  origin : ∀ executionId generation, view.origin executionId = some generation →
    after.origin executionId = some generation

namespace Extends

theorem refl (view : ScopeView) : view.Extends view where
  state _ state found := ⟨state, found, fun h => h⟩
  shape _ shape found := ⟨shape, found, rfl, rfl, fun h => h⟩
  origin _ _ found := found

theorem trans {later : ScopeView} (first : view.Extends after) (second : after.Extends later) :
    view.Extends later where
  state family state found := by
    obtain ⟨state', found', closed⟩ := first.state family state found
    obtain ⟨state'', found'', closed'⟩ := second.state family state' found'
    exact ⟨state'', found'', fun h => closed' (closed h)⟩
  shape generation shape found := by
    obtain ⟨shape', found', family, number, kept⟩ := first.shape generation shape found
    obtain ⟨shape'', found'', family', number', kept'⟩ := second.shape generation shape' found'
    exact ⟨shape'', found'', family'.trans family, number'.trans number, fun h => kept' (kept h)⟩
  origin executionId generation found :=
    second.origin executionId generation (first.origin executionId generation found)

theorem closeAdmission (view : ScopeView) (generation : ScopeId) :
    view.Extends (view.closeAdmission generation) where
  state _ state found := ⟨state, found, fun h => h⟩
  shape other shape found := by
    by_cases same : other = generation
    · subst same
      refine ⟨{ shape with admissionOpen := false }, ?_, rfl, rfl, fun _ => rfl⟩
      exact Pool.modify_self.trans (congrArg _ found)
    · exact ⟨shape, (Pool.modify_of_ne same).trans found, rfl, rfl, fun h => h⟩
  origin _ _ found := found

theorem modifyState (view : ScopeView) (family : Nat) {f : ScopeState → ScopeState}
    (kept : ∀ state, state.closed = true → (f state).closed = true) :
    view.Extends (view.modifyState family f) where
  state other state found := by
    by_cases same : other = family
    · subst same
      exact ⟨f state, Pool.modify_self.trans (congrArg _ found), kept state⟩
    · exact ⟨state, (Pool.modify_of_ne same).trans found, fun h => h⟩
  shape _ shape found := ⟨shape, found, rfl, rfl, fun h => h⟩
  origin _ _ found := found

theorem adopt (view : ScopeView) (generation : ScopeId) (family : Nat) :
    view.Extends (view.adopt generation family) where
  state _ state found := ⟨state, found, fun h => h⟩
  shape other shape found := by
    by_cases same : other = generation
    · subst same
      exact ⟨_, Pool.modify_self.trans (congrArg _ found), rfl, rfl, fun h => h⟩
    · exact ⟨shape, (Pool.modify_of_ne same).trans found, rfl, rfl, fun h => h⟩
  origin _ _ found := found

theorem create (freshFamily : view.state family = none)
    (freshGeneration : view.shape generation = none) :
    view.Extends (view.create family generation) where
  state other state found := by
    have apart : other ≠ family := Pool.ne_of_none freshFamily found
    exact ⟨state, (Pool.set_of_ne apart).trans found, fun h => h⟩
  shape other shape found := by
    have apart : other ≠ generation := Pool.ne_of_none freshGeneration found
    exact ⟨shape, (Pool.set_of_ne apart).trans found, rfl, rfl, fun h => h⟩
  origin _ _ found := found

theorem register {executionId : ExecutionId} (fresh : view.origin executionId = none)
    (origin : Option ScopeId) : view.Extends (view.register executionId origin) where
  state _ state found := ⟨state, found, fun h => h⟩
  shape _ shape found := ⟨shape, found, rfl, rfl, fun h => h⟩
  origin other generation found := by
    have apart : other ≠ executionId := Pool.ne_of_none fresh found
    exact (Pool.set_of_ne apart).trans found

theorem accept {state : ScopeState} {new : ScopeId} {policy : RotationPolicy}
    {ticket nextGeneration : Nat} (fresh : view.shape new = none) :
    view.Extends (view.accept family state new policy ticket nextGeneration) where
  state other before found := by
    by_cases same : other = family
    · subst same
      exact ⟨_, Pool.modify_self.trans (congrArg _ found), fun h => h⟩
    · exact ⟨before, (Pool.modify_of_ne same).trans found, fun h => h⟩
  shape other shape found := by
    have apart : other ≠ new := Pool.ne_of_none fresh found
    obtain ⟨shape', found', kept⟩ := (closeAdmission view state.current).shape other shape found
    exact ⟨shape', (Pool.set_of_ne apart).trans found', kept⟩
  origin _ _ found := found

theorem of_write (write : view.Write after) : view.Extends after := by
  cases write with
  | quiet => exact .refl view
  | created freshFamily freshGeneration => exact .create freshFamily freshGeneration
  | adopted freshFamily freshGeneration =>
    exact (create freshFamily freshGeneration).trans (adopt _ _ _)
  | spawned _ fresh | submitted fresh => exact .register fresh _
  | shut => exact (modifyState view _ fun _ _ => rfl).trans (closeAdmission _ _)
  | accepted _ freshGeneration => exact .accept freshGeneration

theorem of_effect (effect : view.Effect after) : view.Extends after := by
  cases effect with
  | write write => exact .of_write write
  | abandoned => exact (closeAdmission view _).trans (modifyState _ _ fun _ _ => rfl)
  | concluded => exact modifyState view _ fun _ h => h

theorem sealed (extends_ : view.Extends after) (sealed : view.Sealed generation) :
    after.Sealed generation := by
  obtain ⟨shape, found, shut⟩ := sealed
  obtain ⟨shape', found', family, -, kept⟩ := extends_.shape generation shape found
  refine ⟨shape', found', shut.imp kept ?_⟩
  rintro ⟨state, at_family, closed⟩
  obtain ⟨state', at_family', kept'⟩ := extends_.state shape.family state at_family
  exact ⟨state', family ▸ at_family', kept' closed⟩

end Extends

/-! ## What a generation gains -/

theorem Write.admits_of_origin {executionId : ExecutionId} (write : view.Write after)
    (before : view.origin executionId ≠ some (some generation))
    (origin : after.origin executionId = some (some generation)) : view.Admits generation := by
  cases write with
  | @spawned executionId' generation' admits fresh =>
    rcases Pool.of_set_eq_some origin with ⟨-, eq⟩ | ⟨-, old⟩
    · obtain rfl := Option.some.inj eq
      exact admits
    · exact (before old).elim
  | @submitted executionId' fresh =>
    rcases Pool.of_set_eq_some origin with ⟨-, eq⟩ | ⟨-, old⟩
    · cases eq
    · exact (before old).elim
  | quiet | created | adopted | shut | accepted => exact (before origin).elim

/-- An execution is admitted with a generation only while it admits. -/
theorem Effect.admits_of_origin {executionId : ExecutionId} (effect : view.Effect after)
    (before : view.origin executionId ≠ some (some generation))
    (origin : after.origin executionId = some (some generation)) : view.Admits generation := by
  cases effect with
  | write write => exact write.admits_of_origin before origin
  | abandoned | concluded => exact (before origin).elim

theorem closeAdmission_children {other : ScopeId} {shape shape' : GenerationShape}
    (found : view.shape generation = some shape)
    (found' : (view.closeAdmission other).shape generation = some shape') :
    shape'.children = shape.children := by
  rcases Pool.of_modify_eq_some found' with ⟨rfl, before, old, rfl⟩ | ⟨-, old⟩
  · obtain rfl := Option.some.inj (old.symm.trans found)
    rfl
  · exact congrArg _ (Option.some.inj (old.symm.trans found))

/-- So is a child scope. -/
theorem Effect.admits_of_children {shape shape' : GenerationShape} (effect : view.Effect after)
    (found : view.shape generation = some shape) (found' : after.shape generation = some shape')
    (gained : shape'.children ≠ shape.children) : view.Admits generation := by
  have unchanged : ∀ {p : Prop}, view.shape generation = some shape' → p := fun old =>
    (gained (congrArg _ (Option.some.inj (old.symm.trans found)))).elim
  cases effect with
  | concluded => exact unchanged found'
  | abandoned => exact (gained (closeAdmission_children found found')).elim
  | write write =>
    cases write with
    | quiet | spawned | submitted => exact unchanged found'
    | @created family' generation' freshFamily freshGeneration =>
      rcases Pool.of_set_eq_some found' with ⟨rfl, -⟩ | ⟨-, old⟩
      · exact absurd (freshGeneration.symm.trans found) (by simp)
      · exact unchanged old
    | @adopted family' generation' parent freshFamily freshGeneration admits =>
      rcases Pool.of_modify_eq_some found' with ⟨rfl, -⟩ | ⟨-, old⟩
      · exact admits
      · rcases Pool.of_set_eq_some old with ⟨rfl, -⟩ | ⟨-, old⟩
        · exact absurd (freshGeneration.symm.trans found) (by simp)
        · exact unchanged old
    | shut => exact (gained (closeAdmission_children found found')).elim
    | @accepted family' state new policy ticket nextGeneration scope freshGeneration =>
      rcases Pool.of_set_eq_some found' with ⟨rfl, -⟩ | ⟨-, old⟩
      · exact absurd (freshGeneration.symm.trans found) (by simp)
      · exact (gained (closeAdmission_children found old)).elim

end ScopeView

end BusyBeaver
