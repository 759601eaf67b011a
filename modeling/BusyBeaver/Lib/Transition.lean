import Mathlib.Tactic.Common

/-!
# Labelled transition systems with a partial step function

A `System` is an initial state and a step function that answers `none` when an
action is not enabled.  `exec` runs a list of actions, so a concrete schedule
can be evaluated; `Reaches ok` is the inductive form, restricted to the runs
whose every step meets a condition `ok` on the state it is taken in.  `Meets`
says the same of one list of actions; `Reaches.exists_exec` and `Reaches.of_exec`
are the two directions between them.

The rules: `Reaches.invariant` (a property kept by every admitted step holds
along every admitted run), `Reaches.map` (a state map that turns steps into runs
turns runs into runs) and `Meets.mono` / `Meets.exists_bad_step` for the
conditions themselves.
-/

namespace Transition

universe u v w

/-- An initial state and a partial step function. -/
structure System (σ : Type u) (α : Type v) where
  init : σ
  step : σ → α → Option σ

namespace System

variable {σ : Type u} {α : Type v} (A : System σ α)

/-- Run a list of actions; `none` as soon as one of them is not enabled. -/
def exec : σ → List α → Option σ
  | s, [] => some s
  | s, a :: as =>
    match A.step s a with
    | none => none
    | some t => exec t as

/-- Every action of the run meets `ok` in the state it is taken in. -/
def Meets (ok : σ → α → Prop) : σ → List α → Prop
  | _, [] => True
  | s, a :: as =>
    ok s a ∧
      match A.step s a with
      | none => True
      | some t => Meets ok t as

instance decidableMeets (ok : σ → α → Prop) [∀ s a, Decidable (ok s a)] :
    ∀ s as, Decidable (A.Meets ok s as)
  | _, [] => inferInstanceAs (Decidable True)
  | s, a :: as =>
    match h : A.step s a with
    | none => decidable_of_iff (ok s a) (by simp [Meets, h])
    | some t =>
      have := decidableMeets ok t as
      decidable_of_iff (ok s a ∧ A.Meets ok t as) (by simp [Meets, h])

/-- `t` is reached from `s` by steps that all meet `ok`. -/
inductive Reaches (ok : σ → α → Prop) (s : σ) : σ → Prop
  | refl : Reaches ok s s
  | tail {t u : σ} {a : α} :
    Reaches ok s t → ok t a → A.step t a = some u → Reaches ok s u

/-- Reached from the initial state, with no condition on the steps. -/
abbrev Reachable (s : σ) : Prop := A.Reaches (fun _ _ => True) A.init s

variable {A}

theorem exec_cons_eq_some {s t : σ} {a : α} {as : List α} :
    A.exec s (a :: as) = some t ↔ ∃ u, A.step s a = some u ∧ A.exec u as = some t := by
  simp only [exec]
  cases A.step s a with
  | none => simp
  | some u => simp

theorem exec_append {s : σ} {as bs : List α} :
    A.exec s (as ++ bs) = (A.exec s as).bind fun t => A.exec t bs := by
  induction as generalizing s with
  | nil => rfl
  | cons a as ih =>
    simp only [List.cons_append, exec]
    cases A.step s a with
    | none => rfl
    | some t => exact ih

theorem exec_snoc {s t u : σ} {as : List α} {a : α} (run : A.exec s as = some t)
    (step : A.step t a = some u) : A.exec s (as ++ [a]) = some u := by
  rw [exec_append, run]
  simp [exec, step]

theorem Meets.append {ok : σ → α → Prop} {s t : σ} {as bs : List α}
    (run : A.exec s as = some t) :
    A.Meets ok s (as ++ bs) ↔ A.Meets ok s as ∧ A.Meets ok t bs := by
  induction as generalizing s with
  | nil =>
    simp only [exec, Option.some.injEq] at run
    subst run
    simp [Meets]
  | cons a as ih =>
    simp only [exec] at run
    simp only [List.cons_append, Meets]
    cases step : A.step s a with
    | none => simp [step] at run
    | some u =>
      simp only [step] at run
      simp only [ih run, and_assoc]

theorem Meets.of_forall_mem {ok : σ → α → Prop} {as : List α} (all : ∀ a ∈ as, ∀ s, ok s a)
    (s : σ) : A.Meets ok s as := by
  induction as generalizing s with
  | nil => trivial
  | cons a as ih =>
    refine ⟨all a List.mem_cons_self s, ?_⟩
    split
    · trivial
    · exact ih (fun b member => all b (List.mem_cons_of_mem a member)) _

theorem Meets.of_forall {ok : σ → α → Prop} (all : ∀ s a, ok s a) (s : σ) (as : List α) :
    A.Meets ok s as :=
  .of_forall_mem (fun a _ s => all s a) s

theorem Meets.mono {ok ok' : σ → α → Prop} (weaker : ∀ s a, ok s a → ok' s a) {s : σ}
    {as : List α} (meets : A.Meets ok s as) : A.Meets ok' s as := by
  induction as generalizing s with
  | nil => trivial
  | cons a as ih =>
    refine ⟨weaker s a meets.1, ?_⟩
    have rest := meets.2
    split
    · trivial
    · rename_i t step
      simp only [step] at rest
      exact ih rest

namespace Reaches

variable {ok ok' : σ → α → Prop} {s t u : σ}

theorem trans (first : A.Reaches ok s t) (second : A.Reaches ok t u) : A.Reaches ok s u := by
  induction second with
  | refl => exact first
  | tail _ admitted step ih => exact ih.tail admitted step

theorem single {a : α} (admitted : ok s a) (step : A.step s a = some t) : A.Reaches ok s t :=
  Reaches.refl.tail admitted step

theorem mono (weaker : ∀ s a, ok s a → ok' s a) (run : A.Reaches ok s t) :
    A.Reaches ok' s t := by
  induction run with
  | refl => exact .refl
  | tail _ admitted step ih => exact ih.tail (weaker _ _ admitted) step

/-- A conditioned run from the initial state is a run. -/
theorem reachable (run : A.Reaches ok A.init t) : A.Reachable t :=
  run.mono fun _ _ _ => trivial

/-- **Invariant rule.**  What holds at the start and is kept by every admitted
step holds along every admitted run. -/
theorem invariant {I : σ → Prop} (run : A.Reaches ok s t) (start : I s)
    (kept : ∀ {x y : σ} {a : α}, I x → ok x a → A.step x a = some y → I y) : I t := by
  induction run with
  | refl => exact start
  | tail _ admitted step ih => exact kept ih admitted step

/-- Every admitted run is a list of actions that meets the condition. -/
theorem of_exec {as : List α} (run : A.exec s as = some t) (meets : A.Meets ok s as) :
    A.Reaches ok s t := by
  induction as generalizing s with
  | nil =>
    simp only [exec, Option.some.injEq] at run
    exact run ▸ .refl
  | cons a as ih =>
    simp only [exec] at run
    cases step : A.step s a with
    | none => simp [step] at run
    | some x =>
      simp only [step] at run
      simp only [Meets, step] at meets
      exact (single meets.1 step).trans (ih run meets.2)

theorem exists_exec (run : A.Reaches ok s t) :
    ∃ as, A.exec s as = some t ∧ A.Meets ok s as := by
  induction run with
  | refl => exact ⟨[], rfl, trivial⟩
  | @tail x y a _ admitted step ih =>
    obtain ⟨as, reached, meets⟩ := ih
    refine ⟨as ++ [a], exec_snoc reached step, (Meets.append reached).2 ⟨meets, ?_⟩⟩
    simp [Meets, admitted, step]

/-- A schedule that runs through reaches its last state. -/
theorem of_schedule (as : List α) (run : A.exec s as = some t) :
    A.Reaches (fun _ _ => True) s t :=
  of_exec run (Meets.of_forall (fun _ _ => trivial) _ _)

/-- A run that is split at one of its actions. -/
theorem split {as bs : List α} {a : α} (run : A.exec s (as ++ a :: bs) = some t)
    (meets : A.Meets ok s (as ++ a :: bs)) :
    ∃ x y, A.exec s as = some x ∧ A.Reaches ok s x ∧ ok x a ∧ A.step x a = some y ∧
      A.Reaches ok y t := by
  rw [exec_append] at run
  obtain ⟨x, before, run⟩ := Option.bind_eq_some_iff.1 run
  obtain ⟨first, admitted, rest⟩ := (Meets.append before).1 meets
  obtain ⟨y, step, run⟩ := exec_cons_eq_some.1 run
  simp only [step] at rest
  exact ⟨x, y, before, of_exec before first, admitted, step, of_exec run rest⟩

end Reaches

/-- **Simulation rule.**  If every admitted step is matched by an admitted run
of `B` between the images, then runs are matched by runs. -/
theorem Reaches.map {τ : Type w} {β : Type*} {B : System τ β} {f : σ → τ}
    {ok : σ → α → Prop} {ok' : τ → β → Prop} {s t : σ} (run : A.Reaches ok s t)
    (matched : ∀ {x y : σ} {a : α}, A.Reaches ok s x → ok x a → A.step x a = some y →
      B.Reaches ok' (f x) (f y)) : B.Reaches ok' (f s) (f t) := by
  induction run with
  | refl => exact .refl
  | tail before admitted step ih => exact ih.trans (matched before admitted step)

/-- Conditions that agree on the reachable states are met by the same runs. -/
theorem Meets.congr_of_reachable {ok ok' : σ → α → Prop} {s : σ} {as : List α}
    (same : ∀ {t : σ} {a : α}, A.Reachable t → (ok t a ↔ ok' t a)) (reached : A.Reachable s) :
    A.Meets ok s as ↔ A.Meets ok' s as := by
  induction as generalizing s with
  | nil => exact Iff.rfl
  | cons a as ih =>
    simp only [Meets]
    cases step : A.step s a with
    | none => simp only [and_true, same reached]
    | some t => simp only [same reached, ih (reached.tail trivial step)]

/-- A run that breaks the condition has a first step that does. -/
theorem Meets.exists_bad_step {ok : σ → α → Prop} {s t : σ} {as : List α}
    (run : A.exec s as = some t) (bad : ¬ A.Meets ok s as) :
    ∃ x y a before after, A.Reaches ok s x ∧ ¬ ok x a ∧ A.step x a = some y ∧
      A.exec y after = some t ∧ as = before ++ a :: after := by
  induction as generalizing s with
  | nil => exact (bad trivial).elim
  | cons a as ih =>
    simp only [exec] at run
    cases step : A.step s a with
    | none => simp [step] at run
    | some x =>
      simp only [step] at run
      by_cases admitted : ok s a
      · have rest : ¬ A.Meets ok x as := by
          intro meets
          exact bad ⟨admitted, by simpa only [step] using meets⟩
        obtain ⟨y, z, b, before, after, reached, broken, taken, tail, rfl⟩ := ih run rest
        exact ⟨y, z, b, a :: before, after, (Reaches.single admitted step).trans reached,
          broken, taken, tail, rfl⟩
      · exact ⟨s, x, a, [], as, .refl, admitted, step, run, rfl⟩

end System

end Transition
