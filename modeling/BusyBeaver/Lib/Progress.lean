import BusyBeaver.Lib.Transition

/-!
# Runs that come to rest

`Works allowed` are the runs of allowed actions in which every step changes the state,
with their length; a state is `AtRest` when no allowed action changes it.  A `Variant` is
a number that every such step lowers, given an invariant of the allowed steps.  It bounds
the length of every such run (`Variant.length_le`), and from every state that has the
invariant one of them ends at rest (`Variant.exists_rest`): however the allowed actions
are scheduled, after boundedly many changes nothing is left to do.
-/

namespace Transition

universe u v

namespace System

variable {σ : Type u} {α : Type v}

/-- `t` is reached from `s` by `length` allowed steps, each of which changes the state. -/
inductive Works (A : System σ α) (allowed : α → Prop) (s : σ) : Nat → σ → Prop
  | refl : Works A allowed s 0 s
  | tail {t u : σ} {a : α} {length : Nat} : Works A allowed s length t → allowed a →
    A.step t a = some u → u ≠ t → Works A allowed s (length + 1) u

/-- No allowed action changes the state. -/
def AtRest (A : System σ α) (allowed : α → Prop) (s : σ) : Prop :=
  ∀ a t, allowed a → A.step s a = some t → t = s

/-- Every allowed step that changes the state lowers `rank`. -/
structure Variant (A : System σ α) (allowed : α → Prop) (I : σ → Prop) (rank : σ → Nat) :
    Prop where
  kept : ∀ {s t : σ} {a : α}, I s → allowed a → A.step s a = some t → I t
  lowered : ∀ {s t : σ} {a : α}, I s → allowed a → A.step s a = some t → t ≠ s →
    rank t < rank s

variable {A : System σ α} {allowed : α → Prop} {I : σ → Prop} {rank : σ → Nat} {s t : σ}
  {length : Nat}

theorem Works.reaches (run : A.Works allowed s length t) :
    A.Reaches (fun _ _ => True) s t := by
  induction run with
  | refl => exact .refl
  | tail _ _ step _ ih => exact ih.tail trivial step

theorem Works.single {a : α} (admitted : allowed a) (step : A.step s a = some t)
    (changed : t ≠ s) : A.Works allowed s 1 t :=
  Works.refl.tail admitted step changed

theorem Works.head {a : α} {u : σ} (admitted : allowed a) (step : A.step s a = some t)
    (changed : t ≠ s) (run : A.Works allowed t length u) :
    A.Works allowed s (length + 1) u := by
  induction run with
  | refl => exact .single admitted step changed
  | tail _ admitted' step' changed' ih => exact ih.tail admitted' step' changed'

namespace Variant

/-- The invariant holds along every run of allowed steps. -/
theorem invariant (variant : A.Variant allowed I rank) (run : A.Works allowed s length t)
    (start : I s) : I t := by
  induction run with
  | refl => exact start
  | tail _ admitted step _ ih => exact variant.kept ih admitted step

/-- **Bound.**  The rank pays for every step of the run. -/
theorem length_le (variant : A.Variant allowed I rank) (run : A.Works allowed s length t)
    (start : I s) : length + rank t ≤ rank s := by
  induction run with
  | refl => omega
  | tail before admitted step changed ih =>
    have lower := variant.lowered (variant.invariant before start) admitted step changed
    omega

/-- **Progress.**  Some run of allowed steps ends at rest. -/
theorem exists_rest (variant : A.Variant allowed I rank) (start : I s) :
    ∃ length t, A.Works allowed s length t ∧ A.AtRest allowed t := by
  induction bound : rank s using Nat.strongRecOn generalizing s with
  | ind n ih =>
    by_cases rest : A.AtRest allowed s
    · exact ⟨0, s, .refl, rest⟩
    · unfold AtRest at rest
      push Not at rest
      obtain ⟨a, t, admitted, step, changed⟩ := rest
      have lower := variant.lowered start admitted step changed
      obtain ⟨length, u, run, rested⟩ :=
        ih (rank t) (bound ▸ lower) (variant.kept start admitted step) rfl
      exact ⟨length + 1, u, .head admitted step changed run, rested⟩

end Variant

end System

end Transition
