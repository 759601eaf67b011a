import Mathlib.Order.Bounds.Basic
import Mathlib.Tactic.Ring
import Mathlib.Algebra.Order.Ring.Nat

/-!
# Grids

The points `anchor + m * interval` of a periodic grid, and the first of them after an instant
(`Grid.next`).  Rounding up from any point that the instant has reached gives the same point
(`next_of_le`), so the first point after an instant does not depend on where one counts from.
-/

namespace Grid

variable {anchor interval now m t : Nat}

/-- The points of the grid after `now`. -/
def After (anchor interval now : Nat) : Set Nat := {t | now < t ∧ ∃ m, t = anchor + m * interval}

/-- The first point after `now`. -/
def next (anchor interval now : Nat) : Nat :=
  if now < anchor then anchor else anchor + ((now - anchor) / interval + 1) * interval

theorem lt_div_add_one_mul (positive : 0 < interval) (n : Nat) :
    n < (n / interval + 1) * interval := by
  rw [Nat.mul_comm]
  exact Nat.lt_mul_div_succ n positive

theorem isLeast_next (positive : 0 < interval) (anchor now : Nat) :
    IsLeast (After anchor interval now) (next anchor interval now) := by
  unfold next
  by_cases early : now < anchor
  · rw [if_pos early]
    refine ⟨⟨early, 0, by omega⟩, ?_⟩
    rintro t ⟨-, m, rfl⟩
    exact Nat.le_add_right _ _
  · rw [if_neg early]
    have beyond := lt_div_add_one_mul positive (now - anchor)
    refine ⟨⟨by omega, _, rfl⟩, ?_⟩
    rintro t ⟨later, m, rfl⟩
    refine Nat.add_le_add_left (Nat.mul_le_mul_right _ ?_) _
    refine Nat.div_lt_of_lt_mul ?_
    rw [Nat.mul_comm]
    omega

/-- The point that rounding up from the point number `m` gives. -/
theorem next_of_le (positive : 0 < interval) (reached : anchor + m * interval ≤ now) :
    next anchor interval now =
      anchor + m * interval + ((now - (anchor + m * interval)) / interval + 1) * interval := by
  have split : now - anchor = now - (anchor + m * interval) + m * interval := by omega
  rw [next, if_neg (by omega), split, Nat.add_mul_div_right _ _ positive]
  ring

/-- The point after the point number `m` is the next one, as long as it is not reached. -/
theorem next_of_lt (since : anchor + m * interval ≤ now)
    (before : now < anchor + (m + 1) * interval) :
    next anchor interval now = anchor + (m + 1) * interval := by
  have positive : 0 < interval := by
    rcases Nat.eq_zero_or_pos interval with rfl | positive
    · simp only [Nat.mul_zero] at since before
      omega
    · exact positive
  have within : (now - (anchor + m * interval)) / interval = 0 := by
    refine Nat.div_eq_of_lt ?_
    rw [Nat.add_mul] at before
    omega
  rw [next_of_le positive since, within]
  ring

end Grid
