import Mathlib.Tactic.Common

/-!
# A watch channel

A channel that keeps its newest value and counts the values sent.  A receiver remembers how
far it has seen, and a call that waits for a value is a loop: look, and if the value gives no
answer, sleep until there is one not seen.  How it sleeps is a parameter, of which only what is
`Documented` is used.  `Listens` is what holds of such a call whatever is sent around it: one
that sleeps on has looked at the newest value (`Listens.eq_none`), so a value that gives an
answer is not slept through.
-/

namespace Wakeup

universe u v

/-- The newest value, and the number of values sent. -/
structure Watch (α : Type u) : Type u where
  value : α
  version : Nat
  deriving DecidableEq, Repr

/-- A call that waits: about to look, asleep, or with its answer.  To look `marks` the value
as seen, or does not. -/
inductive Waiter (β : Type v) : Type v
  | looking (seen : Nat) (marks : Bool)
  | asleep (seen : Nat)
  | answered (answer : β)
  deriving DecidableEq, Repr

/-- What `changed` answers a receiver that has seen so many of the values sent: `none` while it
waits, and else how many it has seen then. -/
abbrev Changed : Type := Nat → Nat → Option Nat

/-- What is documented of `changed`: it waits if the newest value is marked as seen, and else
marks it and returns at once. -/
structure Changed.Documented (changed : Changed) : Prop where
  waits : ∀ version, changed version version = none
  marks : ∀ {seen version}, seen ≠ version → changed seen version = some version

theorem Changed.Documented.eq_none {changed : Changed} (documented : changed.Documented)
    {seen version : Nat} : changed seen version = none ↔ seen = version := by
  constructor
  · intro waiting
    by_contra unseen
    rw [documented.marks unseen] at waiting
    cases waiting
  · rintro rfl
    exact documented.waits seen

theorem Changed.Documented.eq_some {changed : Changed} (documented : changed.Documented)
    {seen version now : Nat} (woken : changed seen version = some now) : now = version := by
  by_cases same : seen = version
  · rw [same, documented.waits] at woken
    cases woken
  · exact Option.some.inj (woken.symm.trans (documented.marks same))

/-- A receiver that compares versions. -/
def Changed.comparing : Changed := fun seen version => if seen = version then none else some version

theorem Changed.documented_comparing : Changed.comparing.Documented where
  waits _ := if_pos rfl
  marks unseen := if_neg unseen

namespace Watch

variable {α : Type u} {β : Type v}

def new (value : α) : Watch α := ⟨value, 0⟩

/-- A value is sent, whether or not anybody listens. -/
def send (w : Watch α) (value : α) : Watch α := ⟨value, w.version + 1⟩

/-- A new receiver has seen the newest value, and looks at it first. -/
def subscribe (w : Watch α) : Waiter β := .looking w.version false

/-- The next step of a call that takes its answer from `accept`; `none` while it sleeps. -/
def poll (changed : Changed) (w : Watch α) (marks : Bool) (accept : α → Option β) :
    Waiter β → Option (Waiter β)
  | .looking seen marking =>
    match accept w.value with
    | some answer => some (.answered answer)
    | none => some (.asleep (if marking then w.version else seen))
  | .asleep seen => (changed seen w.version).map fun now => .looking now marks
  | .answered _ => none

end Watch

namespace Waiter

variable {α : Type u} {β : Type v} {w : Watch α} {marks : Bool} {accept : α → Option β}
  {c c' : Waiter β} {answer : β} {changed : Changed}

/-- A call that has slept through nothing. -/
def Listens (w : Watch α) (accept : α → Option β) : Waiter β → Prop
  | .looking seen _ => seen ≤ w.version
  | .asleep seen => seen ≤ w.version ∧ (seen = w.version → accept w.value = none)
  | .answered _ => True

theorem Listens.subscribe : (w.subscribe : Waiter β).Listens w accept := Nat.le_refl _

theorem Listens.send (listens : c.Listens w accept) (value : α) :
    c.Listens (w.send value) accept := by
  cases c with
  | looking seen marking => exact Nat.le_succ_of_le listens
  | asleep seen =>
    refine ⟨Nat.le_succ_of_le listens.1, fun same => ?_⟩
    have newer : seen = w.version + 1 := same
    have older := listens.1
    omega
  | answered answer => trivial

theorem Listens.poll (listens : c.Listens w accept) (documented : changed.Documented)
    (step : w.poll changed marks accept c = some c') : c'.Listens w accept := by
  cases c with
  | looking seen marking =>
    simp only [Watch.poll] at step
    split at step
    · obtain rfl := Option.some.inj step
      trivial
    · next refused =>
      obtain rfl := Option.some.inj step
      refine ⟨?_, fun _ => refused⟩
      split
      · exact Nat.le_refl _
      · exact listens
  | asleep seen =>
    obtain ⟨now, woken, rfl⟩ := Option.map_eq_some_iff.1 step
    exact Nat.le_of_eq (documented.eq_some woken)
  | answered answer => cases step

/-- Who cannot go on has its answer, or sleeps with nothing unseen. -/
theorem poll_eq_none (documented : changed.Documented) : w.poll changed marks accept c = none ↔
    (∃ answer, c = .answered answer) ∨ c = .asleep w.version := by
  cases c with
  | looking seen marking =>
    simp only [Watch.poll]
    split <;> simp
  | asleep seen => simp [Watch.poll, documented.eq_none]
  | answered answer => simp [Watch.poll]

/-- An answer is taken from the newest value. -/
theorem accept_of_poll (step : w.poll changed marks accept c = some (.answered answer)) :
    accept w.value = some answer := by
  cases c with
  | looking seen marking =>
    simp only [Watch.poll] at step
    split at step
    · next accepted =>
      cases step
      exact accepted
    · cases step
  | asleep seen =>
    obtain ⟨now, -, absurd⟩ := Option.map_eq_some_iff.1 step
    cases absurd
  | answered answer => cases step

/-- Who sleeps has looked at the newest value in vain. -/
theorem Listens.eq_none (listens : c.Listens w accept) (documented : changed.Documented)
    (asleep : w.poll changed marks accept c = none) (waits : ∀ answer, c ≠ .answered answer) :
    accept w.value = none := by
  rcases (poll_eq_none documented).1 asleep with ⟨answer, same⟩ | rfl
  · exact absurd same (waits answer)
  · exact listens.2 rfl

end Waiter

end Wakeup
