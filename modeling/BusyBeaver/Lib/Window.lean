import Mathlib.Data.List.Basic
import Mathlib.Data.List.Pairwise
import Mathlib.Tactic.Common

/-!
# A sliding window limiter

`accept` keeps the admissions of the last `window`, oldest first: it drops from the front what
is older, refuses when `limit` are left, and appends the present otherwise.  `Keeps` ties what it
keeps to all admissions there were, on a clock that does not run backwards.  What is left at a
decision are then exactly the admissions within the window (`Keeps.prune_eq`), and two admissions
that are `limit` apart in the history are more than the window apart in time (`Keeps.spaced`).
-/

namespace Window

variable {window limit now : Nat} {recent times after : List Nat}

/-- What is left of the admissions at `now`. -/
def prune (window now : Nat) (recent : List Nat) : List Nat :=
  recent.dropWhile fun time => decide (window < now - time)

def accept (window limit now : Nat) (recent : List Nat) : Option (List Nat) :=
  if limit ≤ (prune window now recent).length then none
  else some (prune window now recent ++ [now])

/-- The admissions that lie within the window. -/
def within (window now : Nat) (times : List Nat) : List Nat :=
  times.filter fun time => decide (now ≤ time + window)

/-- Admissions that are `limit` apart in the history are more than the window apart in time. -/
def Spaced (window limit : Nat) (times : List Nat) : Prop :=
  ∀ n a b, times[n]? = some a → times[n + limit]? = some b → a + window < b

/-- The limiter keeps `recent` of the admissions `times`: what it has dropped is older than the
window, and was so when the last one was admitted. -/
structure Keeps (window limit : Nat) (times recent : List Nat) : Prop where
  sorted : times.Pairwise (· ≤ ·)
  held : ∃ old, times = old ++ recent ∧ ∀ t ∈ old, ∃ last ∈ times, t + window < last
  spaced : Spaced window limit times

theorem keeps_nil (window limit : Nat) : Keeps window limit [] [] where
  sorted := List.Pairwise.nil
  held := ⟨[], rfl, fun t member => absurd member List.not_mem_nil⟩
  spaced := by
    intro n a b at_
    cases at_

/-- A sorted list is cut where its entries come within the window. -/
theorem prune_split (window now : Nat) (sorted : recent.Pairwise (· ≤ ·)) :
    ∃ gone, recent = gone ++ prune window now recent ∧ (∀ t ∈ gone, t + window < now) ∧
      ∀ t ∈ prune window now recent, now ≤ t + window := by
  induction recent with
  | nil => exact ⟨[], rfl, by simp, by simp [prune]⟩
  | cons t recent ih =>
    obtain ⟨least, sorted⟩ := List.pairwise_cons.1 sorted
    by_cases old : window < now - t
    · obtain ⟨gone, split, dropped, kept⟩ := ih sorted
      have drops : prune window now (t :: recent) = prune window now recent := by
        simp only [prune, List.dropWhile_cons, decide_eq_true old, if_true]
      rw [drops]
      refine ⟨t :: gone, congrArg (t :: ·) split, ?_, kept⟩
      rintro u (_ | ⟨_, member⟩)
      · omega
      · exact dropped u member
    · have stays : prune window now (t :: recent) = t :: recent := by
        rw [prune, List.dropWhile_cons_of_neg (by simpa using old)]
      rw [stays]
      refine ⟨[], rfl, by simp, ?_⟩
      rintro u (_ | ⟨_, member⟩)
      · omega
      · have := least u member
        omega

namespace Keeps

/-- What is left at a decision are the admissions within the window. -/
theorem prune_eq (keeps : Keeps window limit times recent) (passed : ∀ t ∈ times, t ≤ now) :
    prune window now recent = within window now times := by
  obtain ⟨old, rfl, aged⟩ := keeps.held
  obtain ⟨gone, split, dropped, kept⟩ :=
    prune_split window now (List.pairwise_append.1 keeps.sorted).2.1
  have none_old : within window now old = [] := by
    refine List.filter_eq_nil_iff.2 fun t member => ?_
    obtain ⟨last, there, later⟩ := aged t member
    have := passed last there
    simp only [decide_eq_true_eq]
    omega
  have none_gone : within window now gone = [] := by
    refine List.filter_eq_nil_iff.2 fun t member => ?_
    have := dropped t member
    simp only [decide_eq_true_eq]
    omega
  have all_kept : within window now (prune window now recent) = prune window now recent :=
    List.filter_eq_self.2 fun t member => decide_eq_true (kept t member)
  calc prune window now recent = within window now (prune window now recent) := all_kept.symm
    _ = within window now (gone ++ prune window now recent) := by
      rw [within, within, List.filter_append]
      exact (congrArg (· ++ _) none_gone).symm
    _ = within window now (old ++ recent) := by
      rw [← split, within, within, List.filter_append]
      exact (congrArg (· ++ _) none_old).symm

/-- A refusal finds the limit reached within the window, and only a refusal does. -/
theorem accept_eq_none (keeps : Keeps window limit times recent) (passed : ∀ t ∈ times, t ≤ now) :
    accept window limit now recent = none ↔ limit ≤ (within window now times).length := by
  rw [accept, keeps.prune_eq passed]
  exact ⟨fun refused => by_contra fun room => by simp [room] at refused, fun full => if_pos full⟩

theorem admitted (keeps : Keeps window limit times recent) (passed : ∀ t ∈ times, t ≤ now)
    (accepts : accept window limit now recent = some after) :
    Keeps window limit (times ++ [now]) after := by
  obtain ⟨room, same⟩ := Option.ite_none_left_eq_some.1 accepts
  obtain rfl := Option.some.inj same
  obtain ⟨old, rfl, aged⟩ := keeps.held
  obtain ⟨gone, split, dropped, -⟩ :=
    prune_split window now (List.pairwise_append.1 keeps.sorted).2.1
  have past : ∀ t ∈ old ++ gone, t + window < now := by
    intro t member
    rcases List.mem_append.1 member with member | member
    · obtain ⟨last, there, later⟩ := aged t member
      exact Nat.lt_of_lt_of_le later (passed last there)
    · exact dropped t member
  refine ⟨?_, ⟨old ++ gone, ?_, ?_⟩, ?_⟩
  · refine List.pairwise_append.2 ⟨keeps.sorted, List.pairwise_singleton _ _, ?_⟩
    intro t member u last
    rw [List.mem_singleton.1 last]
    exact passed t member
  · rw [List.append_assoc, List.append_assoc, ← List.append_assoc gone, ← split]
  · exact fun t member =>
      ⟨now, List.mem_append_right _ (List.mem_singleton_self _), past t member⟩
  · intro n a b first second
    have bound := (List.getElem?_eq_some_iff.1 second).1
    rw [List.length_append, List.length_singleton] at bound
    rcases Nat.lt_or_ge (n + limit) (old ++ recent).length with inside | last
    · rw [List.getElem?_append_left inside] at second
      rw [List.getElem?_append_left (by omega)] at first
      exact keeps.spaced n a b first second
    · -- fewer than `limit` are left, so number `n` was dropped
      have whole : old ++ recent = (old ++ gone) ++ prune window now recent := by
        rw [List.append_assoc, ← split]
      have lengths := (congrArg List.length whole).trans List.length_append
      have here : n < (old ++ gone).length := by omega
      have end_ : n + limit = (old ++ recent).length := by omega
      rw [end_, List.getElem?_concat_length] at second
      rw [whole, List.append_assoc, List.getElem?_append_left here] at first
      exact Option.some.inj second ▸ past a (List.mem_of_getElem? first)

end Keeps

end Window
