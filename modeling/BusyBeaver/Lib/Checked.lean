import Mathlib.Tactic.Common

/-!
# Checked machine arithmetic

`checked_add` and `checked_sub` on unsigned integers of a given maximum.
-/

namespace Checked

/-- `u32::MAX`. -/
def u32Max : Nat := 4294967295

/-- `u64::MAX`. -/
def u64Max : Nat := 18446744073709551615

/-- `usize::MAX` of a 64-bit target. -/
def usizeMax : Nat := 18446744073709551615

theorem one_le_usizeMax : 1 ≤ usizeMax := Nat.le_of_ble_eq_true rfl

/-- `a.checked_add(b)` at the maximum `max`. -/
def add (max a b : Nat) : Option Nat := if a + b ≤ max then some (a + b) else none

/-- `a.checked_sub(b)`. -/
def sub (a b : Nat) : Option Nat := if b ≤ a then some (a - b) else none

/-- `a.checked_mul(b)` at the maximum `max`. -/
def mul (max a b : Nat) : Option Nat := if a * b ≤ max then some (a * b) else none

theorem add_eq_some {max a b c : Nat} : add max a b = some c ↔ a + b ≤ max ∧ c = a + b := by
  unfold add
  by_cases fits : a + b ≤ max
  · simp [fits, eq_comm]
  · simp [fits]

theorem add_eq_none {max a b : Nat} : add max a b = none ↔ max < a + b := by
  simp [add]

theorem sub_eq_some {a b c : Nat} : sub a b = some c ↔ b ≤ a ∧ c = a - b := by
  unfold sub
  by_cases fits : b ≤ a
  · simp [fits, eq_comm]
  · simp [fits]

end Checked
