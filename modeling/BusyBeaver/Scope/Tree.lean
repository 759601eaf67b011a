import BusyBeaver.Scope.Joins
import Mathlib.Logic.Relation

/-!
# The tree of scopes

A scope lies below another if it is a child of one of its generations, or of one of a scope
below it.  A scope that is closed, or has no handle left, is `Ended`: it never gets another
generation, child or execution.  So the tree grows at its open scopes only, and by scopes
that have nothing below them (`ScopeWorld.Moved.edge`).
-/

namespace BusyBeaver

open Transition Checked Relation

namespace ScopeWorld

variable {world after : ScopeWorld} {action : ScopeAction} {generation : ScopeId}
  {family child : Nat} {executionId : ExecutionId}

/-- The scope of a generation. -/
def familyOf (world : ScopeWorld) (generation : ScopeId) : Option Nat :=
  (world.generations generation).map GenerationCore.family

/-- `child` was made by `Scope::child` on `family`, with some generation of it. -/
def Edge (world : ScopeWorld) (family child : Nat) : Prop :=
  ∃ generation, world.familyOf generation = some family ∧ child ∈ world.children generation

/-- The scope takes executions, children and generations. -/
def Open (world : ScopeWorld) (family : Nat) : Prop :=
  ∃ inner, world.families family = some inner ∧ inner.state.closed = false ∧ 0 < inner.handles

/-- The scope is closed or dropped. -/
def Ended (world : ScopeWorld) (family : Nat) : Prop :=
  ∃ inner, world.families family = some inner ∧
    (inner.state.closed = true ∨ inner.alive = false)

theorem Ended.not_open (ended : world.Ended family) : ¬ world.Open family := by
  rintro ⟨inner, found, opened, held⟩
  obtain ⟨inner', found', closed | dead⟩ := ended
  · obtain rfl := Option.some.inj (found.symm.trans found')
    exact absurd (opened.symm.trans closed) (by simp)
  · obtain rfl := Option.some.inj (found.symm.trans found')
    simp only [ScopeInner.alive, decide_eq_false_iff_not] at dead
    omega

theorem alive_modifyFamily {other : Nat} {f : ScopeInner → ScopeInner}
    (kept : ∀ inner, inner.alive = true → (f inner).alive = true)
    (live : world.alive family = true) : (world.modifyFamily other f).alive family = true := by
  simp only [alive, modifyFamily] at live ⊢
  by_cases same : family = other
  · subst same
    rw [Pool.modify_self]
    cases found : world.families family with
    | none => simp [found] at live
    | some inner =>
      rw [found] at live
      exact kept inner live
  · rw [Pool.modify_of_ne same]
    exact live

/-! ## Dropped for good -/

/-- The scopes of `world` that are dropped are dropped in `after`. -/
def Buries (world after : ScopeWorld) : Prop :=
  ∀ family inner, world.families family = some inner → inner.alive = false →
    ∃ inner', after.families family = some inner' ∧ inner'.alive = false

namespace Buries

theorem of_eq (same : after.families = world.families) : world.Buries after :=
  fun _ inner found dead => ⟨inner, same ▸ found, dead⟩

theorem trans {later : ScopeWorld} (first : world.Buries after) (second : after.Buries later) :
    world.Buries later := by
  intro family inner found dead
  obtain ⟨inner', found', dead'⟩ := first family inner found dead
  exact second family inner' found' dead'

theorem modify {other : Nat} {f : ScopeInner → ScopeInner}
    (same : after.families = world.families.modify other f)
    (kept : ∀ inner, world.families other = some inner → inner.alive = false →
      (f inner).alive = false) : world.Buries after := by
  intro family inner found dead
  by_cases eq : family = other
  · subst eq
    exact ⟨f inner, same ▸ Pool.modify_self.trans (congrArg _ found), kept inner found dead⟩
  · exact ⟨inner, same ▸ (Pool.modify_of_ne eq).trans found, dead⟩

theorem set {other : Nat} {inner : ScopeInner} (fresh : world.families other = none)
    (same : after.families = world.families.set other inner) : world.Buries after := by
  intro family inner' found dead
  have apart : family ≠ other := Pool.ne_of_none fresh found
  exact ⟨inner', same ▸ (Pool.set_of_ne apart).trans found, dead⟩

/-- Only what is alive is pinned. -/
theorem pin {families : List Nat} (alive : ∀ family ∈ families, world.alive family = true) :
    world.Buries (world.pin families) := by
  induction families generalizing world with
  | nil => exact .of_eq rfl
  | cons head tail ih =>
    let pinned := world.modifyFamily head fun inner => { inner with pins := inner.pins + 1 }
    have step : world.Buries pinned := .modify rfl fun inner found dead => by
      have live := alive head List.mem_cons_self
      simp only [ScopeWorld.alive, found, Option.map_some, Option.getD_some, dead] at live
      cases live
    refine step.trans (ih fun family member => alive_modifyFamily (fun inner live => ?_) ?_)
    · simp only [ScopeInner.alive, decide_eq_true_eq] at live ⊢
      omega
    · exact alive family (List.mem_cons_of_mem _ member)

theorem unpin (families : List Nat) : world.Buries (world.unpin families) := by
  induction families generalizing world with
  | nil => exact .of_eq rfl
  | cons head tail ih =>
    let dropped := world.modifyFamily head fun inner => { inner with pins := inner.pins - 1 }
    have step : world.Buries dropped := .modify rfl fun inner found dead => by
      simp only [ScopeInner.alive, decide_eq_false_iff_not] at dead ⊢
      omega
    exact step.trans ih

/-- Writes of the state. -/
theorem state {other : Nat} {f : ScopeState → ScopeState}
    (same : after.families = world.families.modify other fun inner =>
      { inner with state := f inner.state }) : world.Buries after :=
  .modify same fun _ _ dead => dead

end Buries

theorem descendants_alive : ∀ family ∈ world.descendants generation, world.alive family = true :=
  fun _ member => (List.mem_filter.1 member).2

theorem Works.buries {task : Nat} {teardown teardown' : Teardown} {mid : ScopeWorld}
    (works : world.Works task teardown action mid teardown') : world.Buries mid := by
  cases works with
  | started | read | cancelled | joined | joinedOwn | published | returned | took | resumed =>
    exact .of_eq rfl
  | descended => exact .pin descendants_alive
  | @collected rest family inner =>
    have shut : world.Buries (world.shut family inner) :=
      .state (f := fun state => { state with closed := true }) rfl
    refine shut.trans (.pin fun child member => ?_)
    have live := descendants_alive child member
    exact alive_modifyFamily
      (f := fun inner => { inner with state := { inner.state with closed := true } })
      (fun _ live => live) live
  | released | lost => exact .unpin _
  | decided =>
    unfold conclude
    split
    next => exact .of_eq rfl
    next =>
      split
      next => exact .state (f := fun state => { state with closed := true, rotating := false }) rfl
      next => exact .modify rfl fun _ _ dead => dead

theorem Moved.buries (moved : world.Moved action after) : world.Buries after := by
  cases moved with
  | childRefused | submitted | spawnRefused | spawned | finished | untracked | rotateRefused
  | pendingCancelled => exact .of_eq rfl
  | created fresh => exact .set fresh rfl
  | adopted _ _ _ _ fresh => exact .set fresh rfl
  | upgraded found alive =>
    refine .modify rfl fun inner found' dead => ?_
    obtain rfl := Option.some.inj (found.symm.trans found')
    exact absurd (alive.symm.trans dead) (by simp)
  | dropped =>
    refine .modify rfl fun inner _ dead => ?_
    simp only [ScopeInner.alive, decide_eq_false_iff_not] at dead ⊢
    omega
  | closed => exact .state (f := fun state => { state with closed := true }) rfl
  | @cancelBegan task family wait inner found held =>
    refine Buries.trans (.pin fun child member => ?_) (.of_eq rfl)
    rw [List.mem_singleton.1 member]
    simp only [ScopeWorld.alive, found, Option.map_some, Option.getD_some, ScopeInner.alive,
      decide_eq_true_eq]
    omega
  | rotated found held =>
    refine .modify rfl fun inner found' dead => ?_
    obtain rfl := Option.some.inj (found.symm.trans found')
    simp only [ScopeInner.alive, decide_eq_false_iff_not] at dead
    omega
  | worked _ works => exact works.buries.trans (.of_eq rfl)

theorem Ordered.ended (ordered : world.Ordered) (step : world.step action = some after)
    (ended : world.Ended family) : after.Ended family := by
  obtain ⟨inner, found, closed | dead⟩ := ended
  · have extends_ := ScopeView.Extends.of_effect (ordered.effect step)
    obtain ⟨state, found', kept⟩ := extends_.state family inner.state (Pool.map_of_eq_some found)
    obtain ⟨inner', at_family, rfl⟩ := Pool.map_eq_some.1 found'
    exact ⟨inner', at_family, .inl (kept closed)⟩
  · obtain ⟨inner', found', dead'⟩ := (Moved.of_step step).buries family inner found dead
    exact ⟨inner', found', .inr dead'⟩

/-! ## Where the tree grows -/

/-- The generation belongs to the same scope and has the same children. -/
def SamePlace (world after : ScopeWorld) (generation : ScopeId) : Prop :=
  after.familyOf generation = world.familyOf generation ∧
    after.children generation = world.children generation

theorem SamePlace.of_eq (same : after.generations generation = world.generations generation) :
    world.SamePlace after generation := by
  unfold SamePlace familyOf children
  rw [same]
  exact ⟨rfl, rfl⟩

theorem SamePlace.trans {later : ScopeWorld} (first : world.SamePlace after generation)
    (second : after.SamePlace later generation) : world.SamePlace later generation :=
  ⟨second.1.trans first.1, second.2.trans first.2⟩

theorem SamePlace.modifyGeneration {other : ScopeId} {f : GenerationCore → GenerationCore}
    (family : ∀ core, (f core).family = core.family)
    (children : ∀ core, (f core).children = core.children) (generation : ScopeId) :
    world.SamePlace (world.modifyGeneration other f) generation := by
  unfold SamePlace familyOf ScopeWorld.children ScopeWorld.modifyGeneration
  by_cases same : generation = other
  · subst same
    simp only [Pool.modify_self]
    cases world.generations generation with
    | none => exact ⟨rfl, rfl⟩
    | some core => exact ⟨congrArg some (family core), children core⟩
  · simp only [Pool.modify_of_ne same]
    exact ⟨trivial, trivial⟩

theorem SamePlace.closeAdmission (generation other : ScopeId) :
    world.SamePlace (world.closeAdmission other) generation := by
  unfold ScopeWorld.closeAdmission
  exact .modifyGeneration (f := fun core => { core with admissionOpen := false })
    (fun _ => rfl) (fun _ => rfl) generation

theorem Works.samePlace {task : Nat} {teardown teardown' : Teardown} {mid : ScopeWorld}
    (works : world.Works task teardown action mid teardown') (generation : ScopeId) :
    world.SamePlace mid generation := by
  cases works with
  | started | read | cancelled | joined | joinedOwn | published | returned | took | resumed =>
    exact .of_eq rfl
  | descended => exact .of_eq (congrFun generations_pin generation)
  | @collected rest family inner =>
    have closed : world.SamePlace (world.closeAdmission inner.state.current) generation :=
      .closeAdmission generation _
    have pinned :
        ((world.shut family inner).pin (world.descendants inner.state.current)).generations
        generation = (world.closeAdmission inner.state.current).generations generation :=
      congrFun generations_pin generation
    exact closed.trans (.of_eq pinned)
  | released | lost => exact .of_eq (congrFun generations_unpin generation)
  | decided =>
    unfold conclude
    split
    next => exact .of_eq rfl
    next =>
      split
      next => exact .closeAdmission generation _
      next => exact .of_eq rfl

/-- A generation keeps its place, gains a fresh child while its scope is open, or is new in a
scope that is new or open. -/
theorem Moved.grows (moved : world.Moved action after) (numbered : world.view.Numbered)
    (generation : ScopeId) :
    world.SamePlace after generation ∨
    (∃ family child, world.familyOf generation = some family ∧ world.Open family ∧
      world.view.Admits generation ∧ world.families child = none ∧
      after.familyOf generation = some family ∧
      after.children generation = world.children generation ++ [child]) ∨
    ∃ family, world.generations generation = none ∧ after.familyOf generation = some family ∧
      after.children generation = [] ∧ (world.families family = none ∨ world.Open family) := by
  cases moved with
  | childRefused | upgraded | dropped | submitted | spawnRefused | finished | rotateRefused
  | pendingCancelled => exact .inl (.of_eq rfl)
  | closed => exact .inl (.closeAdmission generation _)
  | @cancelBegan task family wait =>
    have same : (world.cancel task family wait).generations = world.generations := generations_pin
    exact .inl (.of_eq (congrFun same generation))
  | worked _ works => exact .inl (works.samePlace generation)
  | @created family generation' freshFamily freshGeneration =>
    by_cases same : generation = generation'
    · subst same
      refine .inr (.inr ⟨family, freshGeneration, ?_, ?_, .inl freshFamily⟩)
      · exact congrArg (Option.map GenerationCore.family) Pool.set_self
      · exact congrArg (fun core => (core.map GenerationCore.children).getD []) Pool.set_self
    · exact .inl (.of_eq (Pool.set_of_ne same))
  | @adopted parent family generation' inner found held opened admits freshFamily freshGeneration =>
    obtain ⟨shape, at_current, open_⟩ := admissionOpen_eq_true.1 admits
    obtain ⟨shape', at_current', own⟩ :=
      numbered.current parent inner.state (Pool.map_of_eq_some found)
    obtain rfl : shape = shape' := Option.some.inj (at_current.symm.trans at_current')
    obtain ⟨core, at_core, rfl⟩ := Pool.map_eq_some.1 at_current
    have apart : inner.state.current ≠ generation' := by
      intro same
      rw [same, freshGeneration] at at_core
      cases at_core
    have kept : (world.create family generation').generations inner.state.current = some core :=
      (Pool.set_of_ne apart).trans at_core
    have gained : ((world.create family generation').modifyGeneration inner.state.current
        fun core => { core with children := core.children ++ [family] }).generations
        inner.state.current = some { core with children := core.children ++ [family] } :=
      Pool.modify_self.trans (congrArg _ kept)
    by_cases current : generation = inner.state.current
    · subst current
      refine .inr (.inl ⟨parent, family, ?_, ⟨inner, found, opened, held⟩, ?_, freshFamily, ?_, ?_⟩)
      · exact (congrArg (Option.map GenerationCore.family) at_core).trans (congrArg some own)
      · exact ⟨core.shape, inner.state, at_current, own.symm ▸ Pool.map_of_eq_some found, opened,
          rfl, open_⟩
      · exact (congrArg (Option.map GenerationCore.family) gained).trans (congrArg some own)
      · simp only [children, gained, at_core, Option.map_some, Option.getD_some]
    · have other : ((world.create family generation').modifyGeneration inner.state.current
          fun core => { core with children := core.children ++ [family] }).generations generation =
          (world.create family generation').generations generation := Pool.modify_of_ne current
      by_cases same : generation = generation'
      · subst same
        have fresh := other.trans Pool.set_self
        refine .inr (.inr ⟨family, freshGeneration, ?_, ?_, .inl freshFamily⟩)
        · exact congrArg (Option.map GenerationCore.family) fresh
        · exact congrArg (fun core => (core.map GenerationCore.children).getD []) fresh
      · exact .inl (.of_eq (other.trans (Pool.set_of_ne same)))
  | @spawned generation' executionId core inner =>
    have admitted : world.SamePlace (world.register executionId (some generation') []) generation :=
      .of_eq rfl
    exact .inl (admitted.trans (.modifyGeneration
      (f := fun core => { core with controls := core.controls ++ [executionId] })
      (fun _ => rfl) (fun _ => rfl) generation))
  | @untracked generation' executionId terminal =>
    exact .inl (.modifyGeneration (f := fun core =>
      { core with controls := core.controls.erase executionId }) (fun _ => rfl) (fun _ => rfl)
      generation)
  | @rotated process family new policy caller inner ticket nextGeneration found held
      freshGeneration fresh opened =>
    by_cases same : generation = new
    · subst same
      refine .inr (.inr ⟨family, freshGeneration, ?_, ?_, .inr ⟨inner, found, opened, held⟩⟩)
      · exact congrArg (Option.map GenerationCore.family) Pool.set_self
      · exact congrArg (fun core => (core.map GenerationCore.children).getD []) Pool.set_self
    · have closed : world.SamePlace (world.closeAdmission inner.state.current) generation :=
        .closeAdmission generation _
      have kept : (world.accept process family inner new policy (world.callerPath caller) ticket
          nextGeneration).generations generation =
          (world.closeAdmission inner.state.current).generations generation := Pool.set_of_ne same
      exact .inl (closed.trans (.of_eq kept))

theorem exists_family (numbered : world.view.Numbered)
    (place : world.familyOf generation = some family) : world.families family ≠ none := by
  intro fresh
  obtain ⟨core, found, rfl⟩ := Option.map_eq_some_iff.1 place
  obtain ⟨state, at_family, -⟩ := numbered.below generation core.shape (Pool.map_of_eq_some found)
  exact absurd ((Pool.map_eq_none.2 fresh).symm.trans at_family) (by simp)

theorem Open.found (opened : world.Open family) : world.families family ≠ none := by
  obtain ⟨inner, found, -⟩ := opened
  rw [found]
  exact Option.some_ne_none inner

namespace Ordered

variable (ordered : world.Ordered) (step : world.step action = some after)

include ordered step

/-- A generation stays with its scope. -/
theorem familyOf_kept (place : world.familyOf generation = some family) :
    after.familyOf generation = some family := by
  rcases (Moved.of_step step).grows ordered.numbered generation with ⟨same, -⟩ |
    ⟨family', _, place', -, -, -, after_place, -⟩ | ⟨_, fresh, -⟩
  · exact same.trans place
  · exact after_place.trans (place'.symm.trans place)
  · rw [familyOf, fresh] at place
    cases place

theorem children_kept (member : child ∈ world.children generation) :
    child ∈ after.children generation := by
  rcases (Moved.of_step step).grows ordered.numbered generation with ⟨-, children⟩ |
    ⟨_, _, -, -, -, -, -, children⟩ | ⟨_, fresh, -⟩
  · exact children ▸ member
  · exact children ▸ List.mem_append_left _ member
  · rw [children, fresh] at member
    exact (List.not_mem_nil member).elim

/-- An edge stays. -/
theorem edge_kept (edge : world.Edge family child) : after.Edge family child := by
  obtain ⟨generation, place, member⟩ := edge
  exact ⟨generation, ordered.familyOf_kept step place, ordered.children_kept step member⟩

/-- A new edge goes from an open scope to a fresh one. -/
theorem edge_back (edge : after.Edge family child) :
    world.Edge family child ∨ world.Open family ∧ world.families child = none := by
  obtain ⟨generation, place, member⟩ := edge
  rcases (Moved.of_step step).grows ordered.numbered generation with ⟨same, children⟩ |
    ⟨family', child', place', opened, -, fresh, after_place, children⟩ | ⟨_, -, -, children, -⟩
  · exact .inl ⟨generation, same.symm.trans place, children ▸ member⟩
  · obtain rfl := Option.some.inj (place.symm.trans after_place)
    rw [children] at member
    rcases List.mem_append.1 member with old | new
    · exact .inl ⟨generation, place', old⟩
    · exact .inr ⟨opened, List.mem_singleton.1 new ▸ fresh⟩
  · rw [children] at member
    exact (List.not_mem_nil member).elim

theorem below_kept (below : ReflTransGen world.Edge family child) :
    ReflTransGen after.Edge family child :=
  below.lift id fun _ _ edge => ordered.edge_kept step edge

/-- What is below a scope afterwards was so before, or it hangs fresh on an open one. -/
theorem below_back (below : ReflTransGen after.Edge family child) :
    ReflTransGen world.Edge family child ∨
      ∃ parent, ReflTransGen world.Edge family parent ∧ world.Open parent ∧
        world.families child = none ∧ after.Edge parent child := by
  induction below with
  | refl => exact .inl .refl
  | @tail parent child _ edge ih =>
    rcases ih with before | ⟨_, -, -, fresh, -⟩
    · rcases ordered.edge_back step edge with old | ⟨opened, fresh⟩
      · exact .inl (before.tail old)
      · exact .inr ⟨parent, before, opened, fresh, edge⟩
    · -- nothing leaves a scope that is fresh
      rcases ordered.edge_back step edge with ⟨generation, place, -⟩ | ⟨opened, -⟩
      · exact (exists_family ordered.numbered place fresh).elim
      · exact (opened.found fresh).elim

/-- The children of a generation. -/
theorem children_back (place : world.familyOf generation = some family)
    (member : child ∈ after.children generation) :
    child ∈ world.children generation ∨
      world.Open family ∧ world.view.Admits generation ∧ world.families child = none := by
  rcases (Moved.of_step step).grows ordered.numbered generation with ⟨-, children⟩ |
    ⟨family', child', place', opened, admits, fresh, -, children⟩ | ⟨_, fresh, -⟩
  · exact .inl (children ▸ member)
  · obtain rfl := Option.some.inj (place.symm.trans place')
    rw [children] at member
    rcases List.mem_append.1 member with old | new
    · exact .inl old
    · exact .inr ⟨opened, admits, List.mem_singleton.1 new ▸ fresh⟩
  · rw [familyOf, fresh] at place
    cases place

theorem familyOf_back (place : after.familyOf generation = some family) :
    world.familyOf generation = some family ∨
      world.generations generation = none ∧
        (world.families family = none ∨ world.Open family) := by
  rcases (Moved.of_step step).grows ordered.numbered generation with ⟨same, -⟩ |
    ⟨_, _, place', -, -, -, after_place, -⟩ | ⟨family', fresh, after_place, -, opened⟩
  · exact .inl (same.symm.trans place)
  · exact .inl (place'.trans (after_place.symm.trans place))
  · obtain rfl := Option.some.inj (place.symm.trans after_place)
    exact .inr ⟨fresh, opened⟩

/-- An execution is admitted while the scope of its generation is open. -/
theorem open_of_admitted (before : ¬ world.Admitted generation executionId)
    (admitted : after.Admitted generation executionId) :
    ∃ family, world.familyOf generation = some family ∧ world.Open family ∧
      world.view.Admits generation ∧ executionId ∈ after.controls generation := by
  have moved := Moved.of_step step
  have admits := (ordered.effect step).admits_of_origin before admitted
  have call := moved.trySpawn_of_admitted before admitted
  subst call
  cases moved with
  | spawnRefused => exact (before admitted).elim
  | @spawned _ _ core inner found scope held check =>
    obtain ⟨opened, -, -⟩ := checkCurrent_eq_none.1 check
    refine ⟨core.family, congrArg _ found, ⟨inner, scope, opened, held⟩, admits, ?_⟩
    simp [controls, register, modifyGeneration, found]
  | worked _ works => cases works

omit ordered in
theorem terminal_kept (terminal : world.terminal executionId = true) :
    after.terminal executionId = true := by
  unfold ScopeWorld.terminal at terminal ⊢
  rcases (Moved.of_step step).executions with same | ⟨finished, -, eq⟩ | ⟨fresh, _, _, none, -, eq⟩
  · rw [same]
    exact terminal
  · rw [eq]
    by_cases same : executionId = finished
    · subst same
      rw [Pool.modify_self]
      cases found : world.executions executionId with
      | none => simp [found] at terminal
      | some execution => rfl
    · rw [Pool.modify_of_ne same]
      exact terminal
  · rw [eq]
    have apart : executionId ≠ fresh := by
      rintro rfl
      simp [none] at terminal
    rw [Pool.set_of_ne apart]
    exact terminal

end Ordered

/-! ## Settled subtrees -/

/-- Everything that was admitted with a generation of the scope is terminal. -/
def Finished (world : ScopeWorld) (family : Nat) : Prop :=
  ∀ generation, world.familyOf generation = some family →
    ∀ executionId, world.Admitted generation executionId → world.terminal executionId = true

/-- The scope, and what is below it, is ended and finished. -/
def Settled (world : ScopeWorld) (family : Nat) : Prop :=
  ∀ child, ReflTransGen world.Edge family child → world.Ended child ∧ world.Finished child

theorem Ended.found (ended : world.Ended family) : world.families family ≠ none := by
  obtain ⟨inner, found, -⟩ := ended
  rw [found]
  exact Option.some_ne_none inner

/-- Nothing is admitted with a scope that is ended. -/
theorem Ordered.finished (ordered : world.Ordered) (step : world.step action = some after)
    (ended : world.Ended family) (finished : world.Finished family) : after.Finished family := by
  intro generation place executionId admitted
  have before : world.familyOf generation = some family := by
    rcases ordered.familyOf_back step place with before | ⟨-, fresh | opened⟩
    · exact before
    · exact (ended.found fresh).elim
    · exact (ended.not_open opened).elim
  by_cases earlier : world.Admitted generation executionId
  · exact Ordered.terminal_kept step (finished generation before executionId earlier)
  · obtain ⟨family', place', opened, -⟩ := ordered.open_of_admitted step earlier admitted
    obtain rfl := Option.some.inj (before.symm.trans place')
    exact (ended.not_open opened).elim

theorem Ordered.settled (ordered : world.Ordered) (step : world.step action = some after)
    (settled : world.Settled family) : after.Settled family := by
  intro child below
  rcases ordered.below_back step below with before | ⟨parent, before, opened, -⟩
  · obtain ⟨ended, finished⟩ := settled child before
    exact ⟨ordered.ended step ended, ordered.finished step ended finished⟩
  · exact ((settled parent before).1.not_open opened).elim

/-! ## Who is tracked -/

/-- A generation tracks the executions that were admitted with it, until they are terminal. -/
structure Tracked (world : ScopeWorld) : Prop where
  found : ∀ generation executionId, world.Admitted generation executionId →
    ∃ family, world.familyOf generation = some family
  tracked : ∀ generation executionId, world.Admitted generation executionId →
    world.terminal executionId = false → executionId ∈ world.controls generation

theorem Tracked.of_reachable (reached : scopes.Reachable world) : world.Tracked := by
  induction reached with
  | refl =>
    constructor
    · intro generation executionId admitted
      cases admitted
    · intro generation executionId admitted
      cases admitted
  | @tail world after action before _ step ih =>
    have ordered := Ordered.of_reachable before
    constructor
    · intro generation executionId admitted
      by_cases earlier : world.Admitted generation executionId
      · obtain ⟨family, place⟩ := ih.found generation executionId earlier
        exact ⟨family, ordered.familyOf_kept step place⟩
      · obtain ⟨family, place, -⟩ := ordered.open_of_admitted step earlier admitted
        exact ⟨family, ordered.familyOf_kept step place⟩
    · intro generation executionId admitted live
      by_cases earlier : world.Admitted generation executionId
      · have alive : world.terminal executionId = false := by
          by_contra terminal
          rw [Bool.not_eq_false] at terminal
          exact absurd ((Ordered.terminal_kept step terminal).symm.trans live) (by simp)
        have member := ih.tracked generation executionId earlier alive
        rcases (Moved.of_step step).controls generation with same | ⟨_, -, -, -, more⟩ |
          ⟨other, terminal, erased⟩ | ⟨none, -⟩
        · exact same ▸ member
        · exact more ▸ List.mem_append_left _ member
        · rw [erased]
          refine (List.mem_erase_of_ne ?_).2 member
          rintro rfl
          exact absurd (terminal.symm.trans alive) (by simp)
        · obtain ⟨family, place⟩ := ih.found generation executionId earlier
          rw [familyOf, none] at place
          cases place
      · obtain ⟨_, -, -, -, member⟩ := ordered.open_of_admitted step earlier admitted
        exact member

end ScopeWorld

end BusyBeaver
