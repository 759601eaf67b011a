import Mathlib.Tactic.Common

/-!
# Iterators with a variant

An `Iter` is a `next` function on a state with a bound on the items that are left.  `collect`
yields them all: the bound is the fuel, and any fuel from it on gives the same list
(`collect_eq`).

Items may be results.  `gather` is the list of the values, or the first error, as the loop
`for item in iter { item? }` meets it.
-/

namespace Iterators

universe u v w

/-- An iterator that ends: a step leaves fewer items than there were. -/
structure Iter (σ : Type u) (α : Type v) where
  next : σ → Option (α × σ)
  remaining : σ → Nat
  next_lt : ∀ {s t : σ} {a : α}, next s = some (a, t) → remaining t < remaining s

namespace Iter

variable {σ : Type u} {α : Type v} (I : Iter σ α)

/-- At most `fuel` items. -/
def take : Nat → σ → List α
  | 0, _ => []
  | fuel + 1, s =>
    match I.next s with
    | none => []
    | some (a, t) => a :: take fuel t

/-- All items. -/
def collect (s : σ) : List α := I.take (I.remaining s) s

variable {I}

theorem take_eq {s : σ} {fuel : Nat} (enough : I.remaining s ≤ fuel) :
    I.take fuel s = I.collect s := by
  unfold collect
  generalize rem : I.remaining s = n at enough ⊢
  induction n using Nat.strongRecOn generalizing s fuel with
  | ind n ih =>
    cases step : I.next s with
    | none => cases fuel <;> cases n <;> simp [take, step]
    | some item =>
      obtain ⟨a, t⟩ := item
      have fewer := I.next_lt step
      obtain ⟨fuel, rfl⟩ : ∃ m, fuel = m + 1 := ⟨fuel - 1, by omega⟩
      obtain ⟨n, rfl⟩ : ∃ m, n = m + 1 := ⟨n - 1, by omega⟩
      simp only [take, step]
      rw [ih (I.remaining t) (by omega) rfl (by omega : I.remaining t ≤ fuel),
        ih (I.remaining t) (by omega) rfl (by omega : I.remaining t ≤ n)]

/-- The first item, and the others. -/
theorem collect_eq (s : σ) :
    I.collect s = match I.next s with
      | none => []
      | some (a, t) => a :: I.collect t := by
  cases step : I.next s with
  | none =>
    unfold collect
    cases I.remaining s <;> simp [take, step]
  | some item =>
    obtain ⟨a, t⟩ := item
    have fewer := I.next_lt step
    rw [← take_eq (Nat.le_succ (I.remaining s))]
    simp only [take, step]
    rw [take_eq (Nat.le_of_lt fewer)]

theorem collect_of_none {s : σ} (step : I.next s = none) : I.collect s = [] := by
  rw [collect_eq, step]

theorem collect_of_some {s t : σ} {a : α} (step : I.next s = some (a, t)) :
    I.collect s = a :: I.collect t := by
  rw [collect_eq, step]

theorem next_of_collect_nil {s : σ} (items : I.collect s = []) : I.next s = none := by
  rw [collect_eq] at items
  split at items
  · assumption
  · cases items

theorem next_of_collect_cons {s : σ} {a : α} {rest : List α} (items : I.collect s = a :: rest) :
    ∃ t, I.next s = some (a, t) ∧ I.collect t = rest := by
  rw [collect_eq] at items
  split at items
  · cases items
  · rename_i b t step
    obtain ⟨rfl, others⟩ := List.cons.inj items
    exact ⟨t, step, others⟩

end Iter

/-! ## Items that may fail -/

section Sequence

variable {ε : Type u} {α : Type v} {items : List (Except ε α)} {values : List α}

/-- The values, or the first error. -/
def gather : List (Except ε α) → Except ε (List α)
  | [] => .ok []
  | item :: rest => do
    let value ← item
    let values ← gather rest
    return value :: values

/-- `for item in items { item? }`. -/
def check (items : List (Except ε α)) : Except ε Unit := items.forM fun item => item.map fun _ => ()

@[simp] theorem gather_ok_cons (value : α) :
    gather (.ok value :: items) = (gather items).map (value :: ·) := by
  cases rest : gather items <;>
    simp [gather, rest, bind, Except.bind, pure, Except.pure, Except.map]

@[simp] theorem gather_error_cons (error : ε) :
    gather (.error error :: items) = .error error := rfl

@[simp] theorem gather_map_ok : gather (values.map (Except.ok (ε := ε))) = .ok values := by
  induction values with
  | nil => rfl
  | cons value values ih => simp [ih, Except.map]

/-- The gather succeeds when every item does. -/
theorem gather_eq_ok : gather items = .ok values ↔ items = values.map Except.ok := by
  constructor
  · intro all
    induction items generalizing values with
    | nil =>
      cases all
      rfl
    | cons item items ih =>
      cases item with
      | error error => cases all
      | ok value =>
        rw [gather_ok_cons] at all
        cases rest : gather items with
        | error error =>
          rw [rest] at all
          cases all
        | ok others =>
          rw [rest] at all
          cases all
          rw [List.map_cons, ih rest]
  · rintro rfl
    exact gather_map_ok

theorem length_of_gather (all : gather items = .ok values) : values.length = items.length := by
  rw [gather_eq_ok.1 all, List.length_map]

theorem check_eq_gather : check items = (gather items).map fun _ => () := by
  induction items with
  | nil => rfl
  | cons item items ih =>
    cases item with
    | error error => rfl
    | ok value =>
      rw [gather_ok_cons]
      have rest : check (.ok value :: items) = check items := rfl
      rw [rest, ih]
      cases gather items <;> rfl

end Sequence

end Iterators
