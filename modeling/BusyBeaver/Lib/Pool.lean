import Mathlib.Tactic.Common
import Mathlib.Logic.Function.Basic

/-!
# Pools of concurrent callers

A pool assigns to each caller number the record of its call, or `none` before
the call is made.  `Nobody p P` says that no record satisfies `P`, `Sole p P i`
that exactly caller `i` does: the two shapes of "at most one" that survive
interleaving.  The lemmas say how each changes when one caller moves.
-/

namespace Transition

universe u

/-- Callers `0, 1, ...`, each with the record of its call once it is made. -/
abbrev Pool (κ : Type u) : Type u := Nat → Option κ

namespace Pool

variable {κ : Type u} {p : Pool κ} {P : κ → Prop} {i j : Nat} {c d : κ}

/-- Caller `i` moves to record `c`. -/
def set (p : Pool κ) (i : Nat) (c : κ) : Pool κ := Function.update p i (some c)

@[simp] theorem set_self : p.set i c i = some c := Function.update_self ..

@[simp] theorem set_of_ne (other : j ≠ i) : p.set i c j = p j := Function.update_of_ne other ..

theorem of_set_eq_some (eq : p.set i c j = some d) :
    (j = i ∧ c = d) ∨ (j ≠ i ∧ p j = some d) := by
  by_cases same : j = i
  · subst same
    rw [set_self, Option.some.injEq] at eq
    exact .inl ⟨rfl, eq⟩
  · rw [set_of_ne same] at eq
    exact .inr ⟨same, eq⟩

theorem ne_of_none (fresh : p i = none) (found : p j = some c) : j ≠ i := by
  rintro rfl
  exact absurd (fresh.symm.trans found) (by simp)

/-- The record of caller `i`, if there is one, is rewritten. -/
def modify (p : Pool κ) (i : Nat) (f : κ → κ) : Pool κ := Function.update p i ((p i).map f)

@[simp] theorem modify_self {f : κ → κ} : p.modify i f i = (p i).map f := Function.update_self ..

@[simp] theorem modify_of_ne {f : κ → κ} (other : j ≠ i) : p.modify i f j = p j :=
  Function.update_of_ne other ..

theorem of_modify_eq_some {f : κ → κ} (eq : p.modify i f j = some d) :
    (j = i ∧ ∃ c, p i = some c ∧ f c = d) ∨ (j ≠ i ∧ p j = some d) := by
  by_cases same : j = i
  · subst same
    rw [modify_self] at eq
    exact .inl ⟨rfl, Option.map_eq_some_iff.1 eq⟩
  · rw [modify_of_ne same] at eq
    exact .inr ⟨same, eq⟩

/-- The pool of a view of the records. -/
def map {β : Type*} (p : Pool κ) (view : κ → β) : Pool β := fun i => (p i).map view

section map

variable {β : Type*} {view : κ → β}

theorem map_eq_some {b : β} : p.map view i = some b ↔ ∃ c, p i = some c ∧ view c = b :=
  Option.map_eq_some_iff

theorem map_eq_none : p.map view i = none ↔ p i = none := Option.map_eq_none_iff

theorem map_of_eq_some (found : p i = some c) : p.map view i = some (view c) :=
  map_eq_some.2 ⟨c, found, rfl⟩

theorem map_set : (p.set i c).map view = (p.map view).set i (view c) := by
  funext j
  by_cases same : j = i
  · subst same
    exact (map_of_eq_some set_self).trans set_self.symm
  · rw [set_of_ne same]
    exact congrArg (Option.map view) (set_of_ne same)

theorem map_modify {f : κ → κ} {g : β → β} (same : ∀ c, view (f c) = g (view c)) :
    (p.modify i f).map view = (p.map view).modify i g := by
  funext j
  by_cases eq : j = i
  · subst eq
    rw [modify_self]
    show ((p.modify j f) j).map view = ((p j).map view).map g
    rw [modify_self, Option.map_map, Option.map_map]
    exact congrArg (fun h => (p j).map h) (funext same)
  · rw [modify_of_ne eq]
    exact congrArg (Option.map view) (modify_of_ne eq)

/-- A rewriting that the view does not see. -/
theorem map_modify_same {f : κ → κ} (same : ∀ c, view (f c) = view c) :
    (p.modify i f).map view = p.map view := by
  funext j
  by_cases eq : j = i
  · subst eq
    show ((p.modify j f) j).map view = (p j).map view
    rw [modify_self, Option.map_map]
    exact congrArg (fun h => (p j).map h) (funext same)
  · exact congrArg (Option.map view) (modify_of_ne eq)

end map

/-- No record satisfies `P`. -/
def Nobody (p : Pool κ) (P : κ → Prop) : Prop := ∀ i c, p i = some c → ¬ P c

/-- Caller `i`, and no other, has a record that satisfies `P`. -/
structure Sole (p : Pool κ) (P : κ → Prop) (i : Nat) : Prop where
  holds : ∃ c, p i = some c ∧ P c
  only : ∀ j c, p j = some c → P c → j = i

theorem Nobody.set (nobody : p.Nobody P) (fails : ¬ P c) : (p.set i c).Nobody P := by
  intro j d eq
  rcases of_set_eq_some eq with ⟨-, rfl⟩ | ⟨-, old⟩
  · exact fails
  · exact nobody j d old

theorem Nobody.set_sole (nobody : p.Nobody P) (holds : P c) : (p.set i c).Sole P i := by
  refine ⟨⟨c, set_self, holds⟩, fun j d eq satisfied => ?_⟩
  rcases of_set_eq_some eq with ⟨rfl, -⟩ | ⟨-, old⟩
  · rfl
  · exact (nobody j d old satisfied).elim

/-- A call that begins outside `P` leaves the sole holder alone. -/
theorem Sole.set_new (sole : p.Sole P i) (fresh : p j = none) (fails : ¬ P c) :
    (p.set j c).Sole P i := by
  obtain ⟨d, at_i, satisfied⟩ := sole.holds
  have other : i ≠ j := by
    rintro rfl
    simp [fresh] at at_i
  refine ⟨⟨d, by rw [set_of_ne other, at_i], satisfied⟩, fun k e eq holds => ?_⟩
  rcases of_set_eq_some eq with ⟨-, rfl⟩ | ⟨-, old⟩
  · exact (fails holds).elim
  · exact sole.only k e old holds

/-- A move that neither enters nor leaves `P` keeps the sole holder. -/
theorem Sole.set_iff (sole : p.Sole P i) (before : p j = some d) (same : P c ↔ P d) :
    (p.set j c).Sole P i := by
  refine ⟨?_, fun k e eq holds => ?_⟩
  · by_cases eq : i = j
    · subst eq
      obtain ⟨e, at_i, satisfied⟩ := sole.holds
      obtain rfl : d = e := Option.some.inj (before.symm.trans at_i)
      exact ⟨c, set_self, same.2 satisfied⟩
    · obtain ⟨e, at_i, satisfied⟩ := sole.holds
      exact ⟨e, by rw [set_of_ne eq, at_i], satisfied⟩
  · rcases of_set_eq_some eq with ⟨rfl, rfl⟩ | ⟨-, old⟩
    · exact sole.only k d before (same.1 holds)
    · exact sole.only k e old holds

theorem Nobody.set_iff (nobody : p.Nobody P) (before : p j = some d) (same : P c ↔ P d) :
    (p.set j c).Nobody P :=
  nobody.set fun holds => nobody j d before (same.1 holds)

theorem Sole.unique (sole : p.Sole P i) (at_j : p j = some c) (at_k : p k = some d)
    (left : P c) (right : P d) : j = k :=
  (sole.only j c at_j left).trans (sole.only k d at_k right).symm

end Pool

end Transition
