import BusyBeaver.Scope.Reserved
import BusyBeaver.Scope.Tree

/-!
# Teardown of a tree of scopes

A strict rotation tears down the old generation, `cancel_and_wait` the current one.  The
walk visits a child only if it can upgrade its weak reference, and of a scope only the
current generation.  What it leaves out at a visit has to be settled
(`ScopeWorld.Thorough`); then all that was admitted in the torn-down tree is terminal when
the teardown reports (`scope_teardown_complete`).

`ScopeWorld.Sweeping` is the invariant of a walk: a scope below the torn-down generation is
ended or still to be visited, and an execution that is live is collected, awaited, or with a
generation that is still to be read.
-/

namespace BusyBeaver

open Transition Checked Relation

/-- The operation neither reports nor concludes. -/
def TeardownOp.silent : TeardownOp → Bool
  | .decide | .publish _ | .returns => false
  | _ => true

/-- A call of `cancel_and_wait` at its beginning. -/
def Teardown.cancelAndWait (family : Nat) : Teardown where
  target := none
  todo := [.collect family, .cancel, .join false, .returns, .release family]
  collected := []
  waiting := none
  returned := false

namespace ScopeWorld

variable {world after : ScopeWorld} {action : ScopeAction} {root generation : ScopeId}
  {family child : Nat} {executionId : ExecutionId} {task : Nat} {teardown teardown' : Teardown}

/-- The scope is below the generation. -/
def Below (world : ScopeWorld) (root : ScopeId) (family : Nat) : Prop :=
  ∃ child ∈ world.children root, ReflTransGen world.Edge child family

/-- The generation is `root`, or any generation of a scope below it. -/
def Under (world : ScopeWorld) (root generation : ScopeId) : Prop :=
  generation = root ∨ ∃ family, world.familyOf generation = some family ∧ world.Below root family

/-- The operation is still to visit the scope. -/
def Visits (world : ScopeWorld) (family : Nat) : TeardownOp → Prop
  | .start old _ | .descendants old => world.Below old family
  | .collect first => ReflTransGen world.Edge first family
  | _ => False

/-- The operation finds the execution, or visits the scope of its generation. -/
inductive Finds (world : ScopeWorld) (generation : ScopeId) (executionId : ExecutionId) :
    TeardownOp → Prop
  | own {controls : List ExecutionId} (member : executionId ∈ controls) :
      Finds world generation executionId (.joinOwn controls)
  | reads : Finds world generation executionId (.controls generation)
  | starts : Finds world generation executionId (.start generation .strict)
  | visits {op : TeardownOp} {family : Nat} (place : world.familyOf generation = some family)
      (visits : world.Visits family op) : Finds world generation executionId op

/-- The task knows the execution, or is still to find it. -/
def Covers (world : ScopeWorld) (teardown : Teardown) (generation : ScopeId)
    (executionId : ExecutionId) : Prop :=
  executionId ∈ teardown.collected ∨ teardown.waiting = some executionId ∨
    ∃ op ∈ teardown.todo, world.Finds generation executionId op

/-- Whatever is still to be collected is awaited after it. -/
def Awaits : List TeardownOp → Prop
  | [] => True
  | .collect _ :: rest | .controls _ :: rest =>
    (∃ cancelling, .join cancelling ∈ rest) ∧ Awaits rest
  | _ :: rest => Awaits rest

/-- The walk of a teardown, the scopes of `but` aside. -/
structure SweepingBut (world : ScopeWorld) (but : Nat → Prop) (root : ScopeId)
    (teardown : Teardown) : Prop where
  visits : ∀ family, world.Below root family →
    world.Ended family ∨ but family ∨ ∃ op ∈ teardown.todo, world.Visits family op
  covers : ∀ generation executionId, world.Under root generation →
    world.Admitted generation executionId → world.terminal executionId = false →
    world.Covers teardown generation executionId
  awaits : Awaits teardown.todo
  joins : teardown.collected ≠ [] ∨ teardown.waiting ≠ none →
    ∃ cancelling, .join cancelling ∈ teardown.todo

def Sweeping (world : ScopeWorld) : ScopeId → Teardown → Prop :=
  world.SweepingBut fun _ => False

/-- The children of the generation that are dropped are settled. -/
def Shed (world : ScopeWorld) (generation : ScopeId) : Prop :=
  ∀ child ∈ world.children generation, world.alive child = false → world.Settled child

/-- Everything that was admitted with the generation is terminal, its children are settled. -/
def Retired (world : ScopeWorld) (generation : ScopeId) : Prop :=
  (∀ executionId, world.Admitted generation executionId → world.terminal executionId = true) ∧
    ∀ child ∈ world.children generation, world.Settled child

/-- What a visit of the teardown `task` leaves out is settled: the children that are dropped,
and the other generations of a scope below the torn-down one. -/
def Thorough (task : Nat) (world : ScopeWorld) (action : ScopeAction) : Prop :=
  action = .advance task → ∀ teardown op rest, world.tasks task = some teardown →
    teardown.todo = op :: rest →
    (∀ old, op = .descendants old → world.Shed old) ∧
    ∀ family inner, op = .collect family → world.families family = some inner →
      world.Shed inner.state.current ∧
      (teardown.target ≠ none → ∀ generation, world.familyOf generation = some family →
        generation ≠ inner.state.current → world.Retired generation)

/-! ## The others move -/

theorem Sealed.place (sealed : world.view.Sealed root) :
    ∃ family, world.familyOf root = some family := by
  obtain ⟨shape, found, -⟩ := sealed
  obtain ⟨core, at_root, rfl⟩ := Pool.map_eq_some.1 found
  exact ⟨core.family, congrArg _ at_root⟩

namespace Ordered

variable (ordered : world.Ordered) (step : world.step action = some after)

include ordered step

theorem visits_kept {op : TeardownOp} (visits : world.Visits family op) :
    after.Visits family op := by
  cases op with
  | start | descendants =>
    obtain ⟨child, member, below⟩ := visits
    exact ⟨child, ordered.children_kept step member, ordered.below_kept step below⟩
  | collect => exact ordered.below_kept step visits
  | _ => exact visits

omit ordered step in
theorem visits_tail {op : TeardownOp} (visits : world.Visits family op)
    (edge : world.Edge family child) : world.Visits child op := by
  cases op with
  | start | descendants =>
    obtain ⟨first, member, below⟩ := visits
    exact ⟨first, member, below.tail edge⟩
  | collect => exact visits.tail edge
  | _ => exact visits

/-- A scope that comes to lie below a sealed generation is fresh, under an open scope. -/
theorem below_sealed_back (shut : world.view.Sealed root) (below : after.Below root family) :
    world.Below root family ∨
      ∃ parent, world.Below root parent ∧ world.Open parent ∧
        world.families family = none ∧ after.Edge parent family := by
  obtain ⟨child, member, below⟩ := below
  obtain ⟨rootFamily, place⟩ := Sealed.place shut
  rcases ordered.children_back step place member with old | ⟨-, admits, -⟩
  · rcases ordered.below_back step below with before | ⟨parent, before, fresh⟩
    · exact .inl ⟨child, old, before⟩
    · exact .inr ⟨parent, ⟨child, old, before⟩, fresh⟩
  · exact (shut.not_admits admits).elim

/-- Whatever the others do, the walk keeps up. -/
theorem sweeping (tracked : world.Tracked) (shut : world.view.Sealed root)
    (sweeping : world.Sweeping root teardown) : after.Sweeping root teardown := by
  have visits : ∀ family, world.Below root family → world.Open family →
      ∃ op ∈ teardown.todo, world.Visits family op := by
    intro family below opened
    rcases sweeping.visits family below with ended | absurd | visits
    · exact (ended.not_open opened).elim
    · exact absurd.elim
    · exact visits
  constructor
  · intro family below
    rcases ordered.below_sealed_back step shut below with before | ⟨parent, before, opened, -, edge⟩
    · rcases sweeping.visits family before with ended | absurd | ⟨op, member, visits⟩
      · exact .inl (ordered.ended step ended)
      · exact absurd.elim
      · exact .inr (.inr ⟨op, member, ordered.visits_kept step visits⟩)
    · obtain ⟨op, member, visits⟩ := visits parent before opened
      exact .inr (.inr ⟨op, member, visits_tail (ordered.visits_kept step visits) edge⟩)
  · intro generation executionId under admitted live
    by_cases earlier : world.Admitted generation executionId
    · have alive : world.terminal executionId = false := by
        by_contra terminal
        rw [Bool.not_eq_false] at terminal
        exact absurd ((terminal_kept step terminal).symm.trans live) (by simp)
      obtain ⟨family, place⟩ := tracked.found generation executionId earlier
      have was : world.Under root generation := by
        refine under.imp_right fun ⟨family', place', below⟩ => ?_
        rcases ordered.familyOf_back step place' with before | ⟨fresh, -⟩
        · rcases ordered.below_sealed_back step shut below with old | ⟨_, -, -, fresh, -⟩
          · exact ⟨family', before, old⟩
          · exact (exists_family ordered.numbered before fresh).elim
        · rw [familyOf, fresh] at place
          cases place
      rcases sweeping.covers generation executionId was earlier alive with
        member | awaited | ⟨op, member, finds⟩
      · exact .inl member
      · exact .inr (.inl awaited)
      refine .inr (.inr ⟨op, member, ?_⟩)
      cases finds with
      | own known => exact .own known
      | reads => exact .reads
      | starts => exact .starts
      | @visits op family' place' visits =>
        exact .visits (ordered.familyOf_kept step place') (ordered.visits_kept step visits)
    · obtain ⟨family, place, opened, admits, -⟩ := ordered.open_of_admitted step earlier admitted
      rcases under with rfl | ⟨family', place', below⟩
      · exact (shut.not_admits admits).elim
      · have same : family' = family := by
          rcases ordered.familyOf_back step place' with before | ⟨fresh, -⟩
          · exact Option.some.inj (before.symm.trans place)
          · rw [familyOf, fresh] at place
            cases place
        subst same
        rcases ordered.below_sealed_back step shut below with old | ⟨_, -, -, fresh, -⟩
        · obtain ⟨op, member, visits⟩ := visits family' old opened
          exact .inr (.inr ⟨op, member, .visits place' (ordered.visits_kept step visits)⟩)
        · exact (opened.found fresh).elim
  · exact sweeping.awaits
  · exact sweeping.joins

end Ordered

/-! ## The task itself moves -/

/-- Places, children and executions are as they were, and nothing that is ended opens. -/
structure Still (world after : ScopeWorld) : Prop where
  place : after.familyOf = world.familyOf
  children : after.children = world.children
  executions : after.executions = world.executions
  ended : ∀ family, world.Ended family → after.Ended family

theorem Ordered.still {mid : ScopeWorld} (ordered : world.Ordered)
    (step : world.step action = some (mid.setTask task teardown'))
    (works : world.Works task teardown action mid teardown') :
    world.Still (mid.setTask task teardown') where
  place := funext fun generation => (works.samePlace generation).1
  children := funext fun generation => (works.samePlace generation).2
  executions := works.executions
  ended _ ended := ordered.ended step ended

/-- What the visit has closed is ended. -/
theorem SweepingBut.still {but : Nat → Prop} (sweeping : world.SweepingBut but root teardown)
    (still : world.Still after)
    (closed : ∀ family, but family → after.Ended family) : after.Sweeping root teardown := by
  have edge : after.Edge = world.Edge := by
    unfold Edge
    rw [still.place, still.children]
  have visits : after.Visits = world.Visits := by
    unfold Visits Below
    rw [edge, still.children]
  constructor
  · intro family below
    unfold Below at below
    rw [edge, still.children] at below
    rcases sweeping.visits family below with ended | aside | later
    · exact .inl (still.ended family ended)
    · exact .inl (closed family aside)
    · exact .inr (.inr (visits ▸ later))
  · intro generation executionId under admitted live
    have origin : after.view.origin = world.view.origin :=
      congrArg (fun pool => pool.map ScopedExecution.generation) still.executions
    unfold Under Below at under
    unfold Admitted at admitted
    unfold terminal at live
    rw [edge, still.place, still.children] at under
    rw [origin] at admitted
    rw [still.executions] at live
    rcases sweeping.covers generation executionId under admitted live with
      member | awaited | ⟨op, member, finds⟩
    · exact .inl member
    · exact .inr (.inl awaited)
    refine .inr (.inr ⟨op, member, ?_⟩)
    cases finds with
    | own known => exact .own known
    | reads => exact .reads
    | starts => exact .starts
    | visits place visited => exact .visits (still.place ▸ place) (visits ▸ visited)
  · exact sweeping.awaits
  · exact sweeping.joins

/-- An operation is performed, and leaves the operations `ops` in its place. -/
theorem Sweeping.advance {but : Nat → Prop} {op : TeardownOp} {rest : List TeardownOp}
    (sweeping : world.Sweeping root teardown) (ops : List TeardownOp)
    (todo : teardown.todo = op :: rest) (todo' : teardown'.todo = ops ++ rest)
    (collected : ∀ executionId ∈ teardown.collected, executionId ∈ teardown'.collected)
    (waiting : teardown'.waiting = teardown.waiting)
    (visits : ∀ family, world.Visits family op →
      world.Ended family ∨ but family ∨ ∃ op' ∈ ops, world.Visits family op')
    (finds : ∀ generation executionId, world.Admitted generation executionId →
      world.terminal executionId = false → world.Finds generation executionId op →
      world.Covers teardown' generation executionId)
    (awaits : Awaits teardown'.todo)
    (joins : teardown'.collected ≠ [] ∨ teardown'.waiting ≠ none →
      ∃ cancelling, .join cancelling ∈ teardown'.todo) :
    world.SweepingBut but root teardown' where
  visits family below := by
    rcases sweeping.visits family below with ended | absurd | ⟨op', member, visited⟩
    · exact .inl ended
    · exact absurd.elim
    · rw [todo] at member
      rcases List.mem_cons.1 member with rfl | later
      · refine (visits family visited).imp_right (Or.imp_right ?_)
        rintro ⟨op', member, visited⟩
        exact ⟨op', todo' ▸ List.mem_append_left _ member, visited⟩
      · exact .inr (.inr ⟨op', todo' ▸ List.mem_append_right _ later, visited⟩)
  covers generation executionId under admitted live := by
    rcases sweeping.covers generation executionId under admitted live with
      member | awaited | ⟨op', member, found⟩
    · exact .inl (collected executionId member)
    · exact .inr (.inl (waiting.trans awaited))
    · rw [todo] at member
      rcases List.mem_cons.1 member with rfl | later
      · exact finds generation executionId admitted live found
      · exact .inr (.inr ⟨op', todo' ▸ List.mem_append_right _ later, found⟩)
  awaits := awaits
  joins := joins

/-! ### One operation -/

theorem Awaits.tail {op : TeardownOp} {rest : List TeardownOp} (awaits : Awaits (op :: rest)) :
    Awaits rest := by
  cases op with
  | collect | controls => exact awaits.2
  | _ => exact awaits

theorem Awaits.joinEach {rest : List TeardownOp} (awaits : Awaits rest) (children : List Nat) :
    Awaits (joinEach children ++ rest) := by
  induction children with
  | nil => exact awaits
  | cons child children ih => exact ⟨⟨true, List.mem_cons_self⟩, ih⟩

theorem Awaits.collectEach {rest : List TeardownOp} (awaits : Awaits rest)
    (joins : ∃ cancelling, .join cancelling ∈ rest) (children : List Nat) :
    Awaits (collectEach children ++ rest) := by
  induction children with
  | nil => exact awaits
  | cons child children ih =>
    obtain ⟨cancelling, member⟩ := joins
    refine ⟨⟨cancelling, ?_⟩, ih⟩
    exact List.mem_cons_of_mem _ (List.mem_append_right _ member)

theorem collect_mem_joinEach {children : List Nat} (member : child ∈ children) :
    .collect child ∈ joinEach children :=
  List.mem_flatMap.2 ⟨child, member, List.mem_cons_self⟩

theorem collect_mem_collectEach {children : List Nat} (member : child ∈ children) :
    .collect child ∈ collectEach children :=
  List.mem_flatMap.2 ⟨child, member, List.mem_cons_self⟩

/-- What is below a child is visited with it, or it is settled. -/
theorem Shed.descendant (shed : world.Shed generation) (member : child ∈ world.children generation)
    (below : ReflTransGen world.Edge child family) :
    child ∈ world.descendants generation ∨ world.Ended family ∧ world.Finished family := by
  cases alive : world.alive child with
  | true => exact .inl (List.mem_filter.2 ⟨member, alive⟩)
  | false => exact .inr (shed child member alive family below)

/-- Of a scope and what is below it: the current generation of the scope, what is below the
live children of this generation, and the rest, which is settled. -/
theorem collect_cases {inner : ScopeInner} (shed : world.Shed inner.state.current)
    (retired : ∀ generation, world.familyOf generation = some family →
      generation ≠ inner.state.current → world.Retired generation)
    (below : ReflTransGen world.Edge family child) :
    child = family ∨ (∃ first ∈ world.descendants inner.state.current,
      ReflTransGen world.Edge first child) ∨ world.Ended child ∧ world.Finished child := by
  rcases ReflTransGen.cases_head below with rfl | ⟨first, ⟨generation, place, member⟩, below⟩
  · exact .inl rfl
  · by_cases current : generation = inner.state.current
    · subst current
      rcases shed.descendant member below with alive | settled
      · exact .inr (.inl ⟨first, alive, below⟩)
      · exact .inr (.inr settled)
    · exact .inr (.inr ((retired generation place current).2 first member child below))

theorem ended_of_view {state : ScopeState} (found : world.view.state family = some state)
    (closed : state.closed = true) : world.Ended family := by
  obtain ⟨inner, at_family, rfl⟩ := Pool.map_eq_some.1 found
  exact ⟨inner, at_family, .inl closed⟩

theorem ended_shut {inner : ScopeInner} (found : world.families family = some inner)
    (children : List Nat) : ((world.shut family inner).pin children).Ended family := by
  have closed : ((world.shut family inner).pin children).view.state family =
      some { inner.state with closed := true } := by
    rw [view_pin, view_shut]
    exact Pool.modify_self.trans (congrArg _ (Pool.map_of_eq_some found))
  exact ended_of_view closed rfl

/-- A join that is still to come is not the operation at the head, unless it is one. -/
theorem join_tail {op : TeardownOp} {rest : List TeardownOp}
    (joins : ∃ cancelling, .join cancelling ∈ op :: rest)
    (other : ∀ cancelling, op ≠ .join cancelling) : ∃ cancelling, .join cancelling ∈ rest := by
  obtain ⟨cancelling, member⟩ := joins
  rcases List.mem_cons.1 member with eq | later
  · exact (other cancelling eq.symm).elim
  · exact ⟨cancelling, later⟩

/-- The walk goes on; a scope that is visited now is closed by the visit. -/
theorem Sweeping.works {mid : ScopeWorld} (sweeping : world.Sweeping root teardown)
    (tracked : world.Tracked) (thorough : world.Thorough task action)
    (found : world.tasks task = some teardown) (target : teardown.target ≠ none)
    (works : world.Works task teardown action mid teardown') (stays : action ≠ .lose task) :
    world.SweepingBut mid.Ended root teardown' := by
  -- the next join is behind an operation that is none
  have joins : ∀ {op rest}, teardown.todo = op :: rest → (∀ cancelling, op ≠ .join cancelling) →
      teardown.collected ≠ [] ∨ teardown.waiting ≠ none → ∃ cancelling, .join cancelling ∈ rest :=
    fun todo other known => join_tail (todo ▸ sweeping.joins known) other
  have awaits : ∀ {op rest}, teardown.todo = op :: rest → Awaits (op :: rest) :=
    fun todo => todo ▸ sweeping.awaits
  cases works with
  | @started rest old policy todo =>
    refine sweeping.advance (.descendants old :: ownJoin policy (world.controls old))
      todo rfl (fun _ known => known) rfl ?_ ?_ ?_ ?_
    · exact fun family below => .inr (.inr ⟨.descendants old, List.mem_cons_self, below⟩)
    · intro generation executionId admitted live finds
      cases finds with
      | starts =>
        have member := tracked.tracked _ executionId admitted live
        exact .inr (.inr ⟨_, List.mem_cons_of_mem _ List.mem_cons_self, .own member⟩)
      | visits place below => exact .inr (.inr ⟨_, List.mem_cons_self, .visits place below⟩)
    · have later : Awaits rest := awaits todo
      cases policy <;> exact later
    · intro known
      obtain ⟨cancelling, member⟩ := joins todo (fun _ => by simp) known
      exact ⟨cancelling, List.mem_cons_of_mem _ (List.mem_append_right _ member)⟩
  | @descended rest old todo =>
    have shed := (thorough rfl teardown _ _ found todo).1 old rfl
    refine sweeping.advance _ todo rfl (fun _ known => known) rfl ?_ ?_ ?_ ?_
    · rintro family ⟨child, member, below⟩
      rcases shed.descendant member below with alive | ⟨ended, -⟩
      · exact .inr (.inr ⟨_, collect_mem_joinEach alive, below⟩)
      · exact .inl ended
    · intro generation executionId admitted live finds
      cases finds with
      | visits place visited =>
        obtain ⟨child, member, below⟩ := visited
        rcases shed.descendant member below with alive | ⟨-, finished⟩
        · have visit := collect_mem_joinEach alive
          exact .inr (.inr ⟨_, List.mem_append_left _ visit, .visits place below⟩)
        · have terminal := finished generation place executionId admitted
          exact absurd (terminal.symm.trans live) (by simp)
    · exact (awaits todo).tail.joinEach _
    · intro known
      obtain ⟨cancelling, member⟩ := joins todo (fun _ => by simp) known
      exact ⟨cancelling, List.mem_append_right _ member⟩
  | @collected rest family inner todo scope =>
    obtain ⟨shed, retired⟩ := (thorough rfl teardown _ _ found todo).2 family inner rfl scope
    have retired := retired target
    refine sweeping.advance
      (.controls inner.state.current :: collectEach (world.descendants inner.state.current))
      todo rfl (fun _ known => known) rfl ?_ ?_ ?_ ?_
    · intro child below
      rcases collect_cases shed retired below with rfl | ⟨first, alive, below⟩ | ⟨ended, -⟩
      · exact .inr (.inl (ended_shut scope _))
      · refine .inr (.inr ⟨_, List.mem_cons_of_mem _ (collect_mem_collectEach alive), below⟩)
      · exact .inl ended
    · intro generation executionId admitted live finds
      cases finds with
      | @visits _ child place below =>
        rcases collect_cases shed retired below with rfl | ⟨first, alive, below⟩ | ⟨-, finished⟩
        · by_cases current : generation = inner.state.current
          · subst current
            exact .inr (.inr ⟨_, List.mem_cons_self, .reads⟩)
          · have terminal := (retired generation place current).1 executionId admitted
            exact absurd (terminal.symm.trans live) (by simp)
        · have visit := collect_mem_collectEach alive
          refine .inr (.inr ⟨_, List.mem_cons_of_mem _ (List.mem_append_left _ visit), ?_⟩)
          exact .visits place below
        · have terminal := finished generation place executionId admitted
          exact absurd (terminal.symm.trans live) (by simp)
    · obtain ⟨⟨cancelling, member⟩, later⟩ := awaits todo
      exact ⟨⟨cancelling, List.mem_append_right _ member⟩, later.collectEach ⟨cancelling, member⟩ _⟩
    · intro known
      obtain ⟨cancelling, member⟩ := joins todo (fun _ => by simp) known
      exact ⟨cancelling, List.mem_cons_of_mem _ (List.mem_append_right _ member)⟩
  | @read rest read todo =>
    obtain ⟨joined, later⟩ := awaits todo
    refine sweeping.advance [] todo rfl (fun _ => List.mem_append_left _) rfl ?_ ?_ later
      fun _ => joined
    · exact fun _ absurd => absurd.elim
    · intro generation executionId admitted live finds
      cases finds with
      | reads =>
        exact .inl (List.mem_append_right _ (tracked.tracked _ executionId admitted live))
      | visits _ visited => exact visited.elim
  | @joinedOwn rest controls todo =>
    refine sweeping.advance [.join false] todo rfl (fun _ => List.mem_append_left _) rfl
      ?_ ?_ (awaits todo).tail fun _ => ⟨false, List.mem_cons_self⟩
    · exact fun _ absurd => absurd.elim
    · intro generation executionId admitted live finds
      cases finds with
      | own member => exact .inl (List.mem_append_right _ member)
      | visits _ visited => exact visited.elim
  | @joined rest cancelling todo empty awake =>
    refine sweeping.advance [] todo rfl (fun _ known => known) rfl ?_ ?_
      (awaits todo).tail ?_
    · exact fun _ absurd => absurd.elim
    · intro generation executionId admitted live finds
      cases finds with
      | visits _ visited => exact visited.elim
    · rintro (some | waits)
      · exact (some empty).elim
      · exact (waits awake).elim
  | released todo | cancelled todo | published todo | returned todo =>
    refine sweeping.advance [] todo rfl (fun _ known => known) rfl ?_ ?_
      (awaits todo).tail (joins todo fun _ => by simp)
    · exact fun _ absurd => absurd.elim
    · intro generation executionId admitted live finds
      cases finds with
      | visits _ visited => exact visited.elim
  | @decided rest rotation inner todo =>
    refine sweeping.advance [.publish _] todo rfl (fun _ known => known) rfl ?_ ?_
      (awaits todo).tail ?_
    · exact fun _ absurd => absurd.elim
    · intro generation executionId admitted live finds
      cases finds with
      | visits _ visited => exact visited.elim
    · intro known
      obtain ⟨cancelling, member⟩ := joins todo (fun _ => by simp) known
      exact ⟨cancelling, List.mem_cons_of_mem _ member⟩
  | @took rest cancelling executionId todo member awake =>
    have joined : ∃ cancelling, .join cancelling ∈ teardown.todo :=
      ⟨cancelling, todo ▸ List.mem_cons_self⟩
    refine ⟨fun family below => ?_, fun generation other under admitted live => ?_,
      sweeping.awaits, fun _ => joined⟩
    · exact (sweeping.visits family below).imp_right (Or.imp_left False.elim)
    · rcases sweeping.covers generation other under admitted live with known | awaited | finds
      · by_cases same : other = executionId
        · exact .inr (.inl (congrArg some same.symm))
        · exact .inl ((List.mem_erase_of_ne same).2 known)
      · exact absurd (awake.symm.trans awaited) (by simp)
      · exact .inr (.inr finds)
  | @resumed executionId waiting terminal =>
    refine ⟨fun family below => ?_, fun generation other under admitted live => ?_,
      sweeping.awaits, fun known => ?_⟩
    · exact (sweeping.visits family below).imp_right (Or.imp_left False.elim)
    · rcases sweeping.covers generation other under admitted live with known | awaited | finds
      · exact .inl known
      · obtain rfl := Option.some.inj (waiting.symm.trans awaited)
        exact absurd (terminal.symm.trans live) (by simp)
      · exact .inr (.inr finds)
    · exact sweeping.joins (known.imp_right fun absurd => (absurd rfl).elim)
  | lost => exact (stays rfl).elim

/-! ## A teardown until it reports -/

/-- The rotation `task` has reported `Rotated`, or the call `task` has returned. -/
def Reported (world : ScopeWorld) (task : Nat) : Prop :=
  (∃ rotation old new, world.rotations task = some rotation ∧
    rotation.wait = some (.rotated old new)) ∨
  ∃ teardown, world.tasks task = some teardown ∧ teardown.returned = true

/-- The teardown walks the generation `root` of the scope. -/
structure Walk (world : ScopeWorld) (family : Nat) (root : ScopeId) (teardown : Teardown) :
    Prop where
  target : teardown.target = some root
  place : world.familyOf root = some family
  shut : world.view.Sealed root
  sweeping : world.Sweeping root teardown

/-- Nothing is reported before the operation that concludes. -/
inductive Course : List TeardownOp → Prop
  | last {op : TeardownOp} {rest : List TeardownOp} (concludes : op = .decide ∨ op = .returns)
      (releases : ∀ later ∈ rest, later.released ≠ none) : Course (op :: rest)
  | cons {op : TeardownOp} {rest : List TeardownOp} (silent : op.silent = true)
      (course : Course rest) : Course (op :: rest)

/-- What is left after the conclusion. -/
def Concluded (todo : List TeardownOp) : Prop :=
  ∀ op ∈ todo, op.released ≠ none ∨ ∃ outcome, op = .publish outcome

/-- The teardown has returned or reported nothing. -/
def Unreported (world : ScopeWorld) (task : Nat) (teardown : Teardown) : Prop :=
  teardown.returned = false ∧
    ∀ rotation, world.rotations task = some rotation → rotation.result = none

/-- How far a teardown of the scope has come. -/
inductive Progress (world : ScopeWorld) (task family : Nat) : Teardown → Prop
  | begun (unreported : world.Unreported task (.cancelAndWait family)) :
      Progress world task family (.cancelAndWait family)
  | walking {root : ScopeId} {teardown : Teardown} (walk : world.Walk family root teardown)
      (course : Course teardown.todo) (unreported : world.Unreported task teardown) :
      Progress world task family teardown
  | concluded {root : ScopeId} {teardown : Teardown} (walk : world.Walk family root teardown)
      (concluded : Concluded teardown.todo) : Progress world task family teardown
  | lost {teardown : Teardown} (todo : teardown.todo = [])
      (unreported : world.Unreported task teardown) : Progress world task family teardown

section course

variable {op : TeardownOp} {rest : List TeardownOp}

theorem Course.tail (course : Course (op :: rest)) (silent : op.silent = true) : Course rest := by
  cases course with
  | last concludes =>
    rcases concludes with rfl | rfl
    · cases silent
    · cases silent
  | cons _ course => exact course

theorem Course.append {ops : List TeardownOp} (silent : ∀ op ∈ ops, op.silent = true)
    (course : Course rest) : Course (ops ++ rest) := by
  induction ops with
  | nil => exact course
  | cons op ops ih =>
    rw [List.forall_mem_cons] at silent
    exact .cons silent.1 (ih silent.2)

/-- What follows the conclusion. -/
theorem Course.releases (course : Course (op :: rest)) (concludes : op.silent = false) :
    ∀ later ∈ rest, later.released ≠ none := by
  cases course with
  | last _ releases => exact releases
  | cons silent => exact absurd (silent.symm.trans concludes) (by simp)

theorem Course.publish_notMem {todo : List TeardownOp} {outcome : RotationOutcome}
    (course : Course todo) : .publish outcome ∉ todo := by
  induction course with
  | last concludes releases =>
    rw [List.mem_cons, not_or]
    refine ⟨?_, fun later => releases _ later rfl⟩
    rcases concludes with rfl | rfl <;> simp
  | cons silent _ ih =>
    rw [List.mem_cons, not_or]
    refine ⟨?_, ih⟩
    rintro rfl
    cases silent

theorem silent_ownJoin (policy : RotationPolicy) (controls : List ExecutionId) :
    ∀ op ∈ ownJoin policy controls, op.silent = true := by
  cases policy <;> simp [ownJoin, TeardownOp.silent]

theorem silent_joinEach (children : List Nat) : ∀ op ∈ joinEach children, op.silent = true := by
  intro op member
  obtain ⟨child, -, member⟩ := List.mem_flatMap.1 member
  simp only [List.mem_cons, List.not_mem_nil, or_false] at member
  rcases member with rfl | rfl | rfl <;> rfl

theorem silent_collectEach (children : List Nat) :
    ∀ op ∈ collectEach children, op.silent = true := by
  intro op member
  obtain ⟨child, -, member⟩ := List.mem_flatMap.1 member
  simp only [List.mem_cons, List.not_mem_nil, or_false] at member
  rcases member with rfl | rfl <;> rfl

/-- Either the conclusion is still to come, or it is this step. -/
theorem Course.works {mid : ScopeWorld} (course : Course teardown.todo)
    (works : world.Works task teardown action mid teardown') (stays : action ≠ .lose task) :
    Course teardown'.todo ∧ teardown'.returned = teardown.returned ∨
      Concluded teardown'.todo := by
  cases works with
  | started todo =>
    have later := (todo ▸ course).tail rfl
    exact .inl ⟨.cons rfl (later.append (silent_ownJoin _ _)), rfl⟩
  | descended todo =>
    exact .inl ⟨((todo ▸ course).tail rfl).append (silent_joinEach _), rfl⟩
  | collected todo =>
    have later := (todo ▸ course).tail rfl
    exact .inl ⟨.cons rfl (later.append (silent_collectEach _)), rfl⟩
  | read todo | released todo | cancelled todo | joined todo =>
    exact .inl ⟨(todo ▸ course).tail rfl, rfl⟩
  | joinedOwn todo => exact .inl ⟨.cons rfl ((todo ▸ course).tail rfl), rfl⟩
  | decided todo =>
    have releases := (todo ▸ course).releases rfl
    refine .inr (List.forall_mem_cons.2 ⟨.inr ⟨_, rfl⟩, ?_⟩)
    exact fun op later => .inl (releases op later)
  | published todo => exact (course.publish_notMem (todo ▸ List.mem_cons_self)).elim
  | returned todo =>
    have releases := (todo ▸ course).releases rfl
    exact .inr fun op later => .inl (releases op later)
  | took | resumed => exact .inl ⟨course, rfl⟩
  | lost => exact (stays rfl).elim

end course

/-! ### The walk and the report -/

theorem Walk.step (walk : world.Walk family root teardown) (ordered : world.Ordered)
    (tracked : world.Tracked) (step : world.step action = some after) :
    after.Walk family root teardown where
  target := walk.target
  place := ordered.familyOf_kept step walk.place
  shut := (ScopeView.Extends.of_effect (ordered.effect step)).sealed walk.shut
  sweeping := ordered.sweeping step tracked walk.shut walk.sweeping

theorem Works.target {mid : ScopeWorld} (works : world.Works task teardown action mid teardown')
    (target : teardown.target = some root) : teardown'.target = some root := by
  cases works with
  | collected =>
    show teardown.target.or _ = some root
    rw [target]
    rfl
  | _ => exact target

theorem Walk.works {mid : ScopeWorld} (walk : world.Walk family root teardown)
    (ordered : world.Ordered) (tracked : world.Tracked) (thorough : world.Thorough task action)
    (step : world.step action = some (mid.setTask task teardown'))
    (found : world.tasks task = some teardown)
    (works : world.Works task teardown action mid teardown') (stays : action ≠ .lose task) :
    (mid.setTask task teardown').Walk family root teardown' where
  target := works.target walk.target
  place := ordered.familyOf_kept step walk.place
  shut := (ScopeView.Extends.of_effect (ordered.effect step)).sealed walk.shut
  sweeping := by
    have known : teardown.target ≠ none := by simp [walk.target]
    have but := walk.sweeping.works tracked thorough found known works stays
    exact but.still (ordered.still step works) fun _ ended => ended

/-- The first visit of `cancel_and_wait` finds the generation that is torn down. -/
theorem Walk.of_collect {inner : ScopeInner} (ordered : world.Ordered)
    (shed : world.Shed inner.state.current) (scope : world.families family = some inner)
    (step : world.step action =
      some (((world.shut family inner).pin (world.descendants inner.state.current)).setTask task
        teardown'))
    (works : world.Works task (.cancelAndWait family) action
      ((world.shut family inner).pin (world.descendants inner.state.current)) teardown')
    (target : teardown'.target = some inner.state.current)
    (todo : teardown'.todo = .controls inner.state.current ::
      collectEach (world.descendants inner.state.current) ++
        [.cancel, .join false, .returns, .release family])
    (collected : teardown'.collected = []) (waiting : teardown'.waiting = none) :
    (((world.shut family inner).pin (world.descendants inner.state.current)).setTask task
      teardown').Walk family inner.state.current teardown' := by
  obtain ⟨shape, at_current, own⟩ :=
    ordered.numbered.current family inner.state (Pool.map_of_eq_some scope)
  have place : world.familyOf inner.state.current = some family := by
    obtain ⟨core, found, rfl⟩ := Pool.map_eq_some.1 at_current
    exact (congrArg (Option.map GenerationCore.family) found).trans (congrArg some own)
  have visit : ∀ {first}, first ∈ world.descendants inner.state.current →
      .collect first ∈ teardown'.todo := fun alive =>
    todo ▸ List.mem_cons_of_mem _ (List.mem_append_left _ (collect_mem_collectEach alive))
  have sweeping : world.Sweeping inner.state.current teardown' := by
    constructor
    · rintro child ⟨first, member, below⟩
      rcases shed.descendant member below with alive | ⟨ended, -⟩
      · exact .inr (.inr ⟨_, visit alive, below⟩)
      · exact .inl ended
    · intro generation executionId under admitted live
      refine .inr (.inr ?_)
      rcases under with rfl | ⟨child, place, first, member, below⟩
      · exact ⟨_, todo ▸ List.mem_cons_self, .reads⟩
      · rcases shed.descendant member below with alive | ⟨-, finished⟩
        · exact ⟨_, visit alive, .visits place below⟩
        · have terminal := finished generation place executionId admitted
          exact absurd (terminal.symm.trans live) (by simp)
    · have joins : TeardownOp.join false ∈
          [.cancel, .join false, .returns, .release family] := by simp
      have awaits : Awaits [.cancel, .join false, .returns, .release family] := trivial
      rw [todo]
      exact ⟨⟨false, List.mem_append_right _ joins⟩, awaits.collectEach ⟨false, joins⟩ _⟩
    · rintro (some | waits)
      · exact (some collected).elim
      · exact (waits waiting).elim
  refine ⟨target, ordered.familyOf_kept step place, ?_,
    sweeping.still (ordered.still step works) fun _ absurd => absurd.elim⟩
  refine ⟨{ shape with admissionOpen := false }, ?_, .inl rfl⟩
  rw [view_setTask, view_pin, view_shut]
  exact Pool.modify_self.trans (congrArg _ at_current)

/-- A rotation has no outcome before its task sends one. -/
theorem Ordered.unreported (ordered : world.Ordered) (step : world.step action = some after)
    (found : world.tasks task = some teardown)
    (quiet : ∀ outcome, .publish outcome ∉ teardown.todo)
    (unreported : world.Unreported task teardown)
    (returned : teardown'.returned = teardown.returned) : after.Unreported task teardown' := by
  refine ⟨returned.trans unreported.1, fun rotation' found' => ?_⟩
  obtain ⟨rotation, before, rewrites⟩ := ordered.rotation_back step found' found
  have none := unreported.2 rotation before
  cases rewrites with
  | same | asked => exact none
  | published running member =>
    obtain rfl := Option.some.inj (found.symm.trans running)
    exact (quiet _ member).elim

/-- A teardown that has concluded waits for nothing. -/
theorem Walk.idle (walk : world.Walk family root teardown) (concluded : Concluded teardown.todo) :
    teardown.collected = [] ∧ teardown.waiting = none := by
  by_contra busy
  have known : teardown.collected ≠ [] ∨ teardown.waiting ≠ none := by
    rwa [not_and_or] at busy
  obtain ⟨cancelling, member⟩ := walk.sweeping.joins known
  rcases concluded _ member with absurd | ⟨_, absurd⟩
  · exact absurd rfl
  · cases absurd

theorem Walk.terminal (walk : world.Walk family root teardown)
    (concluded : Concluded teardown.todo) {generation : ScopeId}
    (under : world.Under root generation) (admitted : world.Admitted generation executionId) :
    world.terminal executionId = true := by
  by_contra live
  rw [Bool.not_eq_true] at live
  obtain ⟨empty, awake⟩ := walk.idle concluded
  rcases walk.sweeping.covers generation executionId under admitted live with
    member | awaited | ⟨op, member, finds⟩
  · rw [empty] at member
    exact List.not_mem_nil member
  · exact absurd (awake.symm.trans awaited) (by simp)
  · rcases concluded op member with releases | ⟨outcome, rfl⟩
    · cases finds with
      | own | reads | starts => exact releases rfl
      | visits _ visited =>
        cases op with
        | release => exact visited
        | _ => exact releases rfl
    · cases finds with
      | visits _ visited => exact visited

theorem Walk.concluded {mid : ScopeWorld} (walk : world.Walk family root teardown)
    (concluded : Concluded teardown.todo)
    (works : world.Works task teardown action mid teardown') :
    Concluded teardown'.todo ∧ action ≠ .lose task := by
  obtain ⟨empty, awake⟩ := walk.idle concluded
  have head : ∀ {op rest}, teardown.todo = op :: rest →
      op.released ≠ none ∨ ∃ outcome, op = .publish outcome :=
    fun todo => concluded _ (todo ▸ List.mem_cons_self)
  cases works with
  | started todo | descended todo | collected todo | read todo | cancelled todo | joined todo
  | joinedOwn todo | decided todo | returned todo | took todo =>
    rcases head todo with absurd | ⟨_, absurd⟩
    · exact (absurd rfl).elim
    · cases absurd
  | released todo | published todo =>
    exact ⟨fun op later => concluded op (todo ▸ List.mem_cons_of_mem _ later), by simp⟩
  | resumed waiting => exact absurd (awake.symm.trans waiting) (by simp)
  | lost suspended =>
    unfold Teardown.suspended at suspended
    split at suspended
    next todo =>
      rcases head todo with absurd | ⟨_, absurd⟩
      · exact (absurd rfl).elim
      · cases absurd
    next => simp [awake] at suspended

namespace Progress

variable (ordered : world.Ordered) (tracked : world.Tracked)
  (step : world.step action = some after)

include ordered tracked step

/-- The others move. -/
theorem keep (progress : world.Progress task family teardown)
    (found : world.tasks task = some teardown) : after.Progress task family teardown := by
  cases progress with
  | begun unreported =>
    exact .begun (ordered.unreported step found (fun _ => by simp [Teardown.cancelAndWait])
      unreported rfl)
  | walking walk course unreported =>
    exact .walking (walk.step ordered tracked step) course
      (ordered.unreported step found (fun _ => course.publish_notMem) unreported rfl)
  | concluded walk concluded => exact .concluded (walk.step ordered tracked step) concluded
  | lost todo unreported =>
    exact .lost todo (ordered.unreported step found (fun _ => by simp [todo]) unreported rfl)

omit step in
/-- The task moves. -/
theorem works {mid : ScopeWorld} (step : world.step action = some (mid.setTask task teardown'))
    (progress : world.Progress task family teardown) (thorough : world.Thorough task action)
    (found : world.tasks task = some teardown)
    (works : world.Works task teardown action mid teardown') :
    (mid.setTask task teardown').Progress task family teardown' := by
  cases progress with
  | begun unreported =>
    have quiet : ∀ outcome, .publish outcome ∉ (Teardown.cancelAndWait family).todo :=
      fun _ => by simp [Teardown.cancelAndWait]
    have works₀ := works
    cases works with
    | @collected rest family' inner todo scope =>
      obtain ⟨rfl, rfl⟩ : family = family' ∧
          [.cancel, .join false, .returns, .release family] = rest := by
        simpa [Teardown.cancelAndWait] using todo
      have shed := ((thorough rfl _ _ _ found todo).2 family inner rfl scope).1
      refine .walking (Walk.of_collect ordered shed scope step works₀ rfl rfl rfl rfl) ?_
        (ordered.unreported step found quiet unreported rfl)
      refine .cons rfl (Course.append (silent_collectEach _) (.cons rfl (.cons rfl (.last ?_ ?_))))
      · exact .inr rfl
      · simp [TeardownOp.released]
    | lost suspended => simp [Teardown.cancelAndWait, Teardown.suspended] at suspended
    | resumed waiting => cases waiting
    | started todo | descended todo | read todo | released todo | cancelled todo | joined todo
    | joinedOwn todo | decided todo | published todo | returned todo | took todo => cases todo
  | @walking root _ walk course unreported =>
    by_cases stays : action = .lose task
    · subst stays
      cases works with
      | lost =>
        exact .lost rfl (ordered.unreported step found (fun _ => course.publish_notMem)
          unreported rfl)
    · have walk' := walk.works ordered tracked thorough step found works stays
      rcases course.works works stays with ⟨course', returned⟩ | todo
      · exact .walking walk' course' (ordered.unreported step found
          (fun _ => course.publish_notMem) unreported returned)
      · exact .concluded walk' todo
  | @concluded root _ walk concluded =>
    obtain ⟨concluded', stays⟩ := walk.concluded concluded works
    exact .concluded (walk.works ordered tracked thorough step found works stays) concluded'
  | lost todo unreported =>
    have quiet : ∀ outcome, .publish outcome ∉ teardown.todo := fun _ => by simp [todo]
    cases works with
    | lost => exact .lost rfl (ordered.unreported step found quiet unreported rfl)
    | resumed => exact .lost todo (ordered.unreported step found quiet unreported rfl)
    | _ todo' => exact absurd (todo.symm.trans todo') (by simp)

omit ordered tracked step in
/-- A strict rotation that is accepted. -/
theorem of_accept {new : ScopeId} {inner : ScopeInner} {path : List ExecutionId}
    {ticket nextGeneration : Nat} (ordered : world.Ordered)
    (step : world.step action =
      some (world.accept task family inner new .strict path ticket nextGeneration))
    (found : world.families family = some inner) :
    ∃ teardown,
      (world.accept task family inner new .strict path ticket nextGeneration).tasks task =
        some teardown ∧
      (world.accept task family inner new .strict path ticket nextGeneration).Progress task family
        teardown := by
  refine ⟨_, Pool.set_self, .walking ⟨rfl, ?_, ?_, ?_, ?_, ?_, ?_⟩ ?_ ⟨rfl, ?_⟩⟩
  · obtain ⟨shape, at_current, own⟩ :=
      ordered.numbered.current family inner.state (Pool.map_of_eq_some found)
    obtain ⟨core, at_core, rfl⟩ := Pool.map_eq_some.1 at_current
    refine ordered.familyOf_kept step ?_
    exact (congrArg (Option.map GenerationCore.family) at_core).trans (congrArg some own)
  · obtain ⟨shape, at_old, closed⟩ := (ordered.step step).old task _ Pool.set_self
    exact ⟨shape, at_old, .inl closed⟩
  · exact fun child below => .inr (.inr ⟨_, List.mem_cons_self, below⟩)
  · intro generation executionId under _ _
    refine .inr (.inr ⟨_, List.mem_cons_self, ?_⟩)
    rcases under with rfl | ⟨child, place, below⟩
    · exact .starts
    · exact .visits place below
  · trivial
  · rintro (absurd | absurd)
    · exact (absurd rfl).elim
    · exact (absurd rfl).elim
  · refine .cons rfl (.last (.inl rfl) ?_)
    simp [TeardownOp.released]
  · intro rotation at_process
    obtain rfl := Option.some.inj (Pool.set_self.symm.trans at_process)
    rfl

omit ordered tracked step in
/-- A call of `cancel_and_wait`, or one of `rotate` that is accepted. -/
theorem of_call {call : ScopeAction} (ordered : world.Ordered)
    (called : call = .cancel task family true ∨
      ∃ new caller, call = .rotate task family new .strict caller)
    (step : world.step call = some after) (accepted : after.tasks task ≠ none) :
    ∃ teardown, after.tasks task = some teardown ∧ after.Progress task family teardown := by
  have moved := Moved.of_step step
  rcases called with rfl | ⟨new, caller, rfl⟩
  · cases moved with
    | cancelBegan found held fresh =>
      refine ⟨_, Pool.set_self, .begun ⟨rfl, fun rotation at_task => ?_⟩⟩
      have same : (world.cancel task family true).rotations = world.rotations := rotations_pin
      have before : world.rotations task = some rotation := (congrFun same task).symm.trans at_task
      obtain ⟨teardown, running⟩ := ordered.process task rotation before
      exact absurd (fresh.symm.trans running) (by simp)
    | worked _ works => cases works
  · cases moved with
    | rotateRefused =>
      -- the task that is there is not of this call
      obtain ⟨inner, -, called⟩ := Option.bind_eq_some_iff.1 step
      split at called
      next fresh => exact (accepted (Option.isNone_iff_eq_none.1 fresh.2.2)).elim
      next => cases called
    | rotated found => exact of_accept ordered step found
    | worked _ works => cases works

omit ordered tracked step in
theorem of_reaches (reached : scopes.Reachable world)
    (progress : world.Progress task family teardown)
    (found : world.tasks task = some teardown)
    (run : scopes.Reaches (Thorough task) world after) :
    ∃ teardown', after.tasks task = some teardown' ∧ after.Progress task family teardown' := by
  induction run with
  | refl => exact ⟨teardown, found, progress⟩
  | @tail middle after action before thorough step ih =>
    obtain ⟨teardown₁, found₁, progress₁⟩ := ih
    have reached₁ : scopes.Reachable middle :=
      reached.trans (before.mono fun _ _ _ => trivial)
    have ordered := Ordered.of_reachable reached₁
    have tracked := Tracked.of_reachable reached₁
    have moved := Moved.of_step step
    obtain ⟨teardown', found'⟩ := moved.task_kept found₁
    refine ⟨teardown', found', ?_⟩
    rcases moved.task found' with same | ⟨teardown₂, mid, found₂, works, rfl⟩ | ⟨fresh, -⟩
    · obtain rfl := Option.some.inj (found₁.symm.trans same)
      exact progress₁.keep ordered tracked step found₁
    · obtain rfl := Option.some.inj (found₁.symm.trans found₂)
      exact .works ordered tracked step progress₁ thorough found₁ works
    · exact absurd (fresh.symm.trans found₁) (by simp)

end Progress

/-- A teardown that has reported walked a generation of its scope to the end. -/
theorem Progress.of_reported (progress : world.Progress task family teardown)
    (found : world.tasks task = some teardown) (reported : world.Reported task) :
    ∃ root, world.Walk family root teardown ∧ Concluded teardown.todo := by
  have absurd : ¬ world.Unreported task teardown := by
    rintro ⟨silent, none⟩
    rcases reported with ⟨rotation, old, new, at_task, sent⟩ | ⟨teardown', found', returned⟩
    · exact Option.some_ne_none _ (sent.symm.trans (none rotation at_task))
    · obtain rfl := Option.some.inj (found.symm.trans found')
      exact Bool.false_ne_true (silent.symm.trans returned)
  cases progress with
  | begun unreported => exact (absurd unreported).elim
  | walking _ _ unreported => exact (absurd unreported).elim
  | concluded walk concluded => exact ⟨_, walk, concluded⟩
  | lost _ unreported => exact (absurd unreported).elim

end ScopeWorld

/-- **Teardown is complete** in every run whose visits leave out only what is settled: when a
strict rotation of the scope has reported `Rotated`, or `cancel_and_wait` on it has returned,
whatever was admitted with the torn-down generation, or with a generation of a scope below
it, is terminal. -/
theorem scope_teardown_complete {world after later : ScopeWorld} {task family : Nat}
    {call : ScopeAction} (reached : scopes.Reachable world)
    (called : call = .cancel task family true ∨
      ∃ new caller, call = .rotate task family new .strict caller)
    (step : scopes.step world call = some after) (accepted : after.tasks task ≠ none)
    (run : scopes.Reaches (ScopeWorld.Thorough task) after later)
    (reported : later.Reported task) :
    ∃ teardown root, later.tasks task = some teardown ∧ teardown.target = some root ∧
      later.familyOf root = some family ∧
      ∀ generation, later.Under root generation → ∀ executionId,
        later.Admitted generation executionId → later.terminal executionId = true := by
  have ordered := ScopeWorld.Ordered.of_reachable reached
  obtain ⟨teardown, found, progress⟩ := ScopeWorld.Progress.of_call ordered called step accepted
  have next : scopes.Reachable after := reached.tail trivial step
  obtain ⟨teardown', found', progress'⟩ := ScopeWorld.Progress.of_reaches next progress found run
  obtain ⟨root, walk, concluded⟩ := progress'.of_reported found' reported
  refine ⟨teardown', root, found', walk.target, walk.place, fun generation under executionId => ?_⟩
  exact walk.terminal concluded under

/-- The next visit of the task is the first, or to an old generation, and it upgrades every
child. -/
def ScopeWorld.Upgrades (task : Nat) (world : ScopeWorld) (action : ScopeAction) : Bool :=
  action != .advance task ||
    ((world.tasks task).map fun teardown =>
      match teardown.todo with
      | .descendants old :: _ => (world.children old).all world.alive
      | .collect family :: _ => teardown.target.isNone &&
          ((world.families family).map fun inner =>
            (world.children inner.state.current).all world.alive) == some true
      | _ => true) == some true

theorem ScopeWorld.Shed.of_alive {world : ScopeWorld} {generation : ScopeId}
    (alive : (world.children generation).all world.alive = true) : world.Shed generation := by
  intro child member dropped
  have upgraded := List.all_eq_true.1 alive child member
  exact absurd (dropped.symm.trans upgraded) (by simp)

theorem ScopeWorld.Thorough.of_upgrades {world : ScopeWorld} {task : Nat} {action : ScopeAction}
    (upgrades : world.Upgrades task action = true) : world.Thorough task action := by
  intro advance teardown op rest found todo
  subst advance
  simp only [Upgrades, bne_self_eq_false, Bool.false_or, found, Option.map_some, todo] at upgrades
  refine ⟨fun old eq => ?_, fun family inner eq scope => ?_⟩
  · subst eq
    exact .of_alive (by simpa using upgrades)
  · subst eq
    simp only [scope, Option.map_some, beq_iff_eq, Option.some.injEq, Bool.and_eq_true,
      Option.isNone_iff_eq_none] at upgrades
    exact ⟨.of_alive upgrades.2, fun known => (known upgrades.1).elim⟩

/-- The visit of a scope that has one generation. -/
theorem ScopeWorld.Thorough.of_sole {world : ScopeWorld} {task family : Nat} {inner : ScopeInner}
    {teardown : Teardown} {rest : List TeardownOp} (found : world.tasks task = some teardown)
    (todo : teardown.todo = .collect family :: rest) (scope : world.families family = some inner)
    (alive : (world.children inner.state.current).all world.alive = true)
    (sole : ∀ generation, world.familyOf generation = some family →
      generation = inner.state.current) : world.Thorough task (.advance task) := by
  intro _ teardown' op rest' found' todo'
  obtain rfl := Option.some.inj (found.symm.trans found')
  obtain ⟨same, -⟩ := List.cons.inj (todo.symm.trans todo')
  subst same
  constructor
  · intro old eq
    cases eq
  · intro family' inner' eq scope'
    obtain rfl := TeardownOp.collect.inj eq
    obtain rfl := Option.some.inj (scope.symm.trans scope')
    exact ⟨.of_alive alive, fun _ generation place apart => (apart (sole generation place)).elim⟩

theorem ScopeWorld.tasks_of_cancel {world after : ScopeWorld} {task family : Nat} {wait : Bool}
    (call : scopes.step world (.cancel task family wait) = some after) :
    after.tasks task ≠ none := by
  have moved : world.Moved (.cancel task family wait) after := .of_step call
  cases moved with
  | cancelBegan => simp [ScopeWorld.cancel, ScopeWorld.setTask]
  | worked _ works => cases works

/-- A child scope holds a live execution: `cancel_and_wait` on the parent returns when it is
terminal. -/
theorem scope_teardown_complete_child : ∃ world after later teardown root,
    scopes.Reachable world ∧ scopes.step world (.cancel 0 0 true) = some after ∧
    scopes.Reaches (ScopeWorld.Thorough 0) after later ∧ later.Reported 0 ∧
    (world.children 0 = [1] ∧ world.familyOf 1 = some 1 ∧ world.view.origin 0 = some (some 1) ∧
      world.terminal 0 = false) ∧
    later.tasks 0 = some teardown ∧ teardown.target = some root ∧
    later.familyOf root = some 0 ∧
    ∀ generation, later.Under root generation → ∀ executionId,
      later.Admitted generation executionId → later.terminal executionId = true := by
  let before : List ScopeAction := [.create 0 0, .child 0 1 1, .trySpawn 1 (some 0)]
  let reads : List ScopeAction := [.advance 0, .advance 0]
  let rest : List ScopeAction := [.advance 0, .advance 0, .advance 0, .next 0 0, .finish 0,
    .resume 0, .advance 0, .advance 0]
  let whole : List ScopeAction := before ++ .cancel 0 0 true :: reads
  have upgrades : scopes.Meets (fun world action => world.Upgrades 0 action = true) scopes.init
      whole := by
    decide +kernel
  have visits : (scopes.exec scopes.init whole).map (fun world =>
      (((world.tasks 0).map Teardown.todo).bind List.head?,
        (world.families 1).map fun inner => inner.state.current,
        world.children 1, world.familyOf 0)) = some (some (.collect 1), some 1, [], some 0) := by
    decide +kernel
  -- the child scope has the one generation `1`
  have others : ∀ other, (scopes.exec scopes.init whole).map (fun world =>
      world.familyOf (other + 2)) = some none := fun _ => rfl
  have goes_on : (scopes.exec scopes.init (whole ++ [.advance 0])).map (fun world =>
      decide (scopes.Meets (fun world action => world.Upgrades 0 action = true) world rest)) =
      some true := by
    decide +kernel
  have holds : (scopes.exec scopes.init before).map (fun world =>
      (world.children 0, world.familyOf 1, world.view.origin 0, world.terminal 0)) =
      some ([1], some 1, some (some 1), false) := by
    decide +kernel
  have returned : (scopes.exec scopes.init (whole ++ .advance 0 :: rest)).map
      (fun world => (world.tasks 0).map Teardown.returned) = some (some true) := by
    decide +kernel
  obtain ⟨visit, to_visit, at_visit⟩ := Option.map_eq_some_iff.1 visits
  obtain ⟨next, to_next, meets⟩ := Option.map_eq_some_iff.1 goes_on
  obtain ⟨later, to_later, at_later⟩ := Option.map_eq_some_iff.1 returned
  obtain ⟨world, after, at_world, reached, -, call, run⟩ := System.Reaches.split to_visit
    (upgrades.mono fun _ _ => ScopeWorld.Thorough.of_upgrades)
  have thorough : visit.Thorough 0 (.advance 0) := by
    obtain ⟨first, at_visit⟩ := Prod.mk.inj at_visit
    obtain ⟨scope, at_visit⟩ := Prod.mk.inj at_visit
    obtain ⟨childless, parent⟩ := Prod.mk.inj at_visit
    obtain ⟨todo, found, first⟩ := Option.bind_eq_some_iff.1 first
    obtain ⟨teardown, at_task, rfl⟩ := Option.map_eq_some_iff.1 found
    obtain ⟨ops, todo⟩ := List.head?_eq_some_iff.1 first
    obtain ⟨inner, scope, current⟩ := Option.map_eq_some_iff.1 scope
    refine .of_sole at_task todo scope (by simp [current, childless]) fun generation place => ?_
    match generation with
    | 0 => exact absurd (parent.symm.trans place) (by decide)
    | 1 => exact current.symm
    | other + 2 =>
      have none := others other
      simp only [to_visit, Option.map_some, Option.some.injEq] at none
      exact absurd (none.symm.trans place) (by simp)
  rw [System.exec_append, to_visit, Option.bind_some] at to_next to_later
  obtain ⟨next', step, stop⟩ := System.exec_cons_eq_some.1 to_next
  obtain rfl := Option.some.inj stop
  obtain ⟨next, step', to_end⟩ := System.exec_cons_eq_some.1 to_later
  obtain rfl := Option.some.inj (step.symm.trans step')
  have ends := System.Reaches.of_exec to_end
    ((of_decide_eq_true meets).mono fun _ _ => ScopeWorld.Thorough.of_upgrades)
  have walked : scopes.Reaches (ScopeWorld.Thorough 0) after later :=
    (run.tail thorough step).trans ends
  obtain ⟨teardown, running, answer⟩ := Option.map_eq_some_iff.1 at_later
  have begun := ScopeWorld.tasks_of_cancel call
  have reported : later.Reported 0 := .inr ⟨teardown, running, answer⟩
  obtain ⟨teardown', root, complete⟩ := scope_teardown_complete reached.reachable (.inl rfl) call
    begun walked reported
  simp only [at_world, Option.map_some, Option.some.injEq, Prod.mk.injEq] at holds
  exact ⟨world, after, later, teardown', root, reached.reachable, call, walked, reported, holds,
    complete⟩

/-- A child scope is dropped while its execution runs: `cancel_and_wait` on the parent returns,
and the execution goes on. -/
theorem scope_teardown_misses_dropped :
    ¬ ∀ (world after later : ScopeWorld) (task family : Nat) (call : ScopeAction),
      scopes.Reachable world →
      (call = .cancel task family true ∨
        ∃ new caller, call = .rotate task family new .strict caller) →
      scopes.step world call = some after → after.tasks task ≠ none →
      scopes.Reaches (fun _ _ => True) after later → later.Reported task →
      ∃ teardown root, later.tasks task = some teardown ∧ teardown.target = some root ∧
        later.familyOf root = some family ∧
        ∀ generation, later.Under root generation → ∀ executionId,
          later.Admitted generation executionId → later.terminal executionId = true := by
  intro complete
  let before : List ScopeAction :=
    [.create 0 0, .child 0 1 1, .trySpawn 1 (some 0), .drop 1]
  let rest : List ScopeAction := [.advance 0, .advance 0, .advance 0, .advance 0, .advance 0]
  have returned : (scopes.exec scopes.init (before ++ .cancel 0 0 true :: rest)).map
      (fun world => (world.tasks 0).map fun teardown => (teardown.target, teardown.returned)) =
      some (some (some 0, true)) := by
    decide +kernel
  have runs : (scopes.exec scopes.init (before ++ .cancel 0 0 true :: rest)).map
      (fun world => (world.familyOf 1, world.children 0, world.view.origin 0, world.terminal 0)) =
      some (some 1, [1], some (some 1), false) := by
    decide +kernel
  obtain ⟨later, to_later, at_later⟩ := Option.map_eq_some_iff.1 returned
  have facts := Option.some.inj ((congrArg (Option.map _) to_later).symm.trans runs)
  obtain ⟨place, facts⟩ := Prod.mk.inj facts
  obtain ⟨children, facts⟩ := Prod.mk.inj facts
  obtain ⟨admitted, live⟩ := Prod.mk.inj facts
  obtain ⟨teardown, running, answer⟩ := Option.map_eq_some_iff.1 at_later
  obtain ⟨target, answer⟩ := Prod.mk.inj answer
  obtain ⟨world, after, -, reached, -, call, run⟩ :=
    System.Reaches.split to_later (.of_forall (fun _ _ => trivial) _ _)
  have begun := ScopeWorld.tasks_of_cancel call
  obtain ⟨teardown', root, running', target', -, terminal⟩ := complete world after later 0 0 _
    reached (.inl rfl) call begun run (.inr ⟨teardown, running, answer⟩)
  obtain rfl := Option.some.inj (running.symm.trans running')
  obtain rfl := Option.some.inj (target.symm.trans target')
  have under : later.Under 0 1 := .inr ⟨1, place, 1, by simp [children], .refl⟩
  exact Bool.false_ne_true (live.symm.trans (terminal 1 under 0 admitted))

end BusyBeaver
