import Mathlib.Data.List.DropRight
import Mathlib.Data.List.Pairwise
import Mathlib.Tactic.Common

/-!
# A bounded record that forgets what is stale

A queue of at most `n` records: a new one goes to the back, and pushes the front out when the
queue is full (`push`); records that are stale are dropped from the front (`expire`), whenever
somebody looks.  What is left (`Keeps`) differs from the last `n` of all records by stale
records at the front, so that an `expire` shows exactly those of the last `n` that are not
stale (`Keeps.expire_eq`).  `stale` is any predicate that stays true as time passes and that
holds of a record only if it holds of the earlier ones.
-/

namespace Recency

universe u v

variable {τ : Type u} {α : Type v} {stale : τ → α → Bool} {n : Nat} {now later : τ}
  {all recent : List α} {x : α}

/-- What is left when the stale records at the front are dropped. -/
def expire (stale : τ → α → Bool) (now : τ) (recent : List α) : List α :=
  recent.dropWhile (stale now)

/-- A new record comes in, and the oldest one leaves a full queue. -/
def push (n : Nat) (recent : List α) (x : α) : List α :=
  if n = 0 then recent
  else (if recent.length = n then recent.tail else recent) ++ [x]

/-- A record is stale only after those before it. -/
def Orderly (stale : τ → α → Bool) (xs : List α) : Prop :=
  xs.Pairwise fun a b => ∀ now, stale now b = true → stale now a = true

/-- The queue is what is left of the last `n` records: those in front of it are stale. -/
def Keeps (stale : τ → α → Bool) (n : Nat) (now : τ) (all recent : List α) : Prop :=
  ∃ gone, all.rtake n = gone ++ recent ∧ ∀ x ∈ gone, stale now x = true

theorem keeps_nil (stale : τ → α → Bool) (n : Nat) (now : τ) : Keeps stale n now [] [] :=
  ⟨[], List.rtake_nil n, fun _ member => absurd member List.not_mem_nil⟩

/-- In order, the stale records are those at the front. -/
theorem expire_eq_filter (orderly : Orderly stale recent) :
    expire stale now recent = recent.filter fun x => !stale now x := by
  induction recent with
  | nil => rfl
  | cons x recent ih =>
    obtain ⟨first, rest⟩ := List.pairwise_cons.1 orderly
    cases old : stale now x with
    | true =>
      rw [expire, List.dropWhile_cons_of_pos old, List.filter_cons_of_neg (by simp [old])]
      exact ih rest
    | false =>
      rw [expire, List.dropWhile_cons_of_neg (by simp [old]),
        List.filter_cons_of_pos (by simp [old]), List.filter_eq_self.2]
      intro y member
      cases fresh : stale now y with
      | false => rfl
      | true =>
        rw [first y member now fresh] at old
        cases old

theorem Orderly.rtake (orderly : Orderly stale all) : Orderly stale (all.rtake n) :=
  orderly.sublist (List.drop_sublist _ _)

/-- The last `n` of a longer record: the front leaves when there were `n` before. -/
theorem rtake_push : (all ++ [x]).rtake n = push n (all.rtake n) x := by
  cases n with
  | zero => rw [List.rtake_zero, push, if_pos rfl, List.rtake_zero]
  | succ n =>
    rw [List.rtake_concat_succ, push, if_neg (Nat.succ_ne_zero n)]
    refine congrArg (· ++ [x]) ?_
    rw [List.rtake, List.rtake, List.length_drop]
    by_cases full : n + 1 ≤ all.length
    · rw [if_pos (by omega), List.tail_drop]
      congr 1
      omega
    · rw [if_neg (by omega), show all.length - n = 0 by omega,
        show all.length - (n + 1) = 0 by omega]

namespace Keeps

theorem mono (keeps : Keeps stale n now all recent)
    (ages : ∀ x, stale now x = true → stale later x = true) : Keeps stale n later all recent := by
  obtain ⟨gone, split, old⟩ := keeps
  exact ⟨gone, split, fun x member => ages x (old x member)⟩

/-- An expiry keeps what is left. -/
theorem expire (keeps : Keeps stale n now all recent) :
    Keeps stale n now all (expire stale now recent) := by
  obtain ⟨gone, split, old⟩ := keeps
  refine ⟨gone ++ recent.takeWhile (stale now), ?_, fun x member => ?_⟩
  · rw [split, List.append_assoc, Recency.expire, List.takeWhile_append_dropWhile]
  · rcases List.mem_append.1 member with before | dropped
    · exact old x before
    · exact List.mem_takeWhile_imp dropped

/-- A new record pushes out one that is stale already, or the oldest of the last `n`. -/
theorem push (keeps : Keeps stale n now all recent) :
    Keeps stale n now (all ++ [x]) (push n recent x) := by
  obtain ⟨gone, split, old⟩ := keeps
  rw [Keeps, rtake_push, split, Recency.push, Recency.push]
  by_cases none : n = 0
  · rw [if_pos none, if_pos none]
    exact ⟨gone, rfl, old⟩
  · have bound : (gone ++ recent).length ≤ n := by
      rw [← split, List.rtake, List.length_drop]
      omega
    rw [if_neg none, if_neg none]
    rw [List.length_append] at bound
    cases gone with
    | nil => exact ⟨[], rfl, fun x member => absurd member List.not_mem_nil⟩
    | cons y gone =>
      have room : recent.length ≠ n := by
        rw [List.length_cons] at bound
        omega
      rw [if_neg room]
      by_cases full : (y :: gone ++ recent).length = n
      · rw [if_pos full, List.cons_append, List.tail_cons, List.append_assoc]
        exact ⟨gone, rfl, fun x member => old x (List.mem_cons_of_mem y member)⟩
      · rw [if_neg full, List.append_assoc]
        exact ⟨y :: gone, rfl, old⟩

/-- What is shown after an expiry are those of the last `n` records that are not stale. -/
theorem expire_eq (keeps : Keeps stale n now all recent) (orderly : Orderly stale all) :
    Recency.expire stale now recent = (all.rtake n).filter fun x => !stale now x := by
  obtain ⟨gone, split, old⟩ := keeps
  have ordered : Orderly stale recent := by
    have whole : Orderly stale (all.rtake n) := orderly.rtake
    rw [split] at whole
    exact (List.pairwise_append.1 whole).2.1
  have none : (gone.filter fun x => !stale now x) = [] :=
    List.filter_eq_nil_iff.2 fun x member => by simp [old x member]
  rw [split, List.filter_append, none, List.nil_append, expire_eq_filter ordered]

end Keeps

end Recency
