import BusyBeaver.Lib.Transition
import Mathlib.Data.List.Basic
import Mathlib.Data.List.Induction

/-!
# What has happened in a run

`Happened P s as` says that one of the actions of a run was taken in a state that, with the
action, satisfies `P`.  A longer run has the same history and its last step
(`happened_snoc`), so what a state records of its history is an invariant of the run
together with its actions (`exec_invariant`).  `outputs` is the list of what the actions put
out, and a log of it is `Lawful` if each entry is valid after the entries before it; two
entries of a log are ordered by `split_cases`.
-/

namespace Transition

universe u v w

namespace System

variable {σ : Type u} {α : Type v} {β : Type w} (A : System σ α)

/-- One of the actions was taken in a state where `P` holds of it. -/
def Happened (P : σ → α → Prop) (s : σ) (as : List α) : Prop :=
  ∃ before a after x, as = before ++ a :: after ∧ A.exec s before = some x ∧ P x a

/-- What the actions put out, each in the state it is taken in. -/
def outputs (f : σ → α → Option β) : σ → List α → List β
  | _, [] => []
  | s, a :: as =>
    (f s a).toList ++
      match A.step s a with
      | none => []
      | some t => outputs f t as

variable {A} {P Q : σ → α → Prop} {s t : σ} {as : List α} {a : α}

theorem outputs_append {f : σ → α → Option β} {bs : List α} (run : A.exec s as = some t) :
    A.outputs f s (as ++ bs) = A.outputs f s as ++ A.outputs f t bs := by
  induction as generalizing s with
  | nil =>
    obtain rfl := Option.some.inj run
    rfl
  | cons b as ih =>
    simp only [exec] at run
    simp only [List.cons_append, outputs]
    cases step : A.step s b with
    | none => simp [step] at run
    | some u =>
      simp only [step] at run
      simp only [ih run, List.append_assoc]

theorem outputs_snoc {f : σ → α → Option β} (run : A.exec s as = some t) :
    A.outputs f s (as ++ [a]) = A.outputs f s as ++ (f t a).toList := by
  rw [outputs_append run, outputs]
  cases A.step t a <;> simp [outputs]

theorem not_happened_nil : ¬ A.Happened P s [] := by
  rintro ⟨before, a, after, x, split, -⟩
  simp at split

theorem Happened.mono (weaker : ∀ x a, P x a → Q x a) (happened : A.Happened P s as) :
    A.Happened Q s as := by
  obtain ⟨before, a, after, x, split, run, holds⟩ := happened
  exact ⟨before, a, after, x, split, run, weaker x a holds⟩

theorem Happened.append (happened : A.Happened P s as) (bs : List α) :
    A.Happened P s (as ++ bs) := by
  obtain ⟨before, a, after, x, rfl, run, holds⟩ := happened
  exact ⟨before, a, after ++ bs, x, by simp, run, holds⟩

theorem Happened.last (run : A.exec s as = some t) (holds : P t a) :
    A.Happened P s (as ++ [a]) :=
  ⟨as, a, [], t, rfl, run, holds⟩

theorem happened_snoc (run : A.exec s as = some t) :
    A.Happened P s (as ++ [a]) ↔ A.Happened P s as ∨ P t a := by
  constructor
  · rintro ⟨before, b, after, x, split, reached, holds⟩
    rcases List.eq_nil_or_concat' after with rfl | ⟨rest, c, rfl⟩
    · obtain ⟨rfl, same⟩ := List.append_inj' split rfl
      obtain rfl := List.singleton_inj.1 same
      obtain rfl := Option.some.inj (run.symm.trans reached)
      exact Or.inr holds
    · rw [← List.cons_append, ← List.append_assoc] at split
      obtain ⟨rfl, -⟩ := List.append_inj' split rfl
      exact Or.inl ⟨before, b, rest, x, rfl, reached, holds⟩
  · rintro (earlier | holds)
    · exact earlier.append [a]
    · exact .last run holds

/-- **Invariant rule, with the history.** -/
theorem exec_invariant {I : List α → σ → Prop} (start : I [] s)
    (kept : ∀ {as : List α} {x y : σ} {a : α}, A.exec s as = some x → I as x →
      A.step x a = some y → I (as ++ [a]) y)
    (run : A.exec s as = some t) : I as t := by
  induction as using List.reverseRecOn generalizing t with
  | nil =>
    obtain rfl := Option.some.inj run
    exact start
  | append_singleton as a ih =>
    rw [exec_append] at run
    obtain ⟨x, reached, last⟩ := Option.bind_eq_some_iff.1 run
    simp only [exec] at last
    split at last
    · cases last
    · rename_i y step
      obtain rfl := Option.some.inj last
      exact kept reached (ih reached) step

end System

/-! ## Logs -/

section Log

variable {ε : Type u} {valid : List ε → ε → Prop} {log before after before' after' : List ε}
  {e e' : ε}

/-- Each entry of the log is valid after the entries before it. -/
def Lawful (valid : List ε → ε → Prop) (log : List ε) : Prop :=
  ∀ before e after, log = before ++ e :: after → valid before e

theorem lawful_nil : Lawful valid [] := by
  intro before e after split
  simp at split

theorem lawful_snoc : Lawful valid (log ++ [e]) ↔ Lawful valid log ∧ valid log e := by
  constructor
  · intro lawful
    refine ⟨fun before e' after split => lawful before e' (after ++ [e]) (by simp [split]), ?_⟩
    exact lawful log e [] rfl
  · rintro ⟨lawful, last⟩ before e' after split
    rcases List.eq_nil_or_concat' after with rfl | ⟨rest, e'', rfl⟩
    · obtain ⟨rfl, same⟩ := List.append_inj' split rfl
      obtain rfl := List.singleton_inj.1 same
      exact last
    · rw [← List.cons_append, ← List.append_assoc] at split
      obtain ⟨rfl, -⟩ := List.append_inj' split rfl
      exact lawful before e' rest rfl

theorem Lawful.take (lawful : Lawful valid (before ++ after)) : Lawful valid before :=
  fun first e rest split => lawful first e (rest ++ after) (by simp [split])

/-- Of two entries of a log one comes first, or they are the same. -/
theorem split_cases (split : log = before ++ e :: after) (split' : log = before' ++ e' :: after') :
    before ++ [e] <+: before' ∨ before' ++ [e'] <+: before ∨
      before = before' ∧ e = e' ∧ after = after' := by
  have ofSplit {first rest : List ε} {x : ε} (split : log = first ++ x :: rest) :
      first ++ [x] <+: log := ⟨rest, by simp [split]⟩
  rcases Nat.lt_trichotomy before.length before'.length with shorter | same | longer
  · refine Or.inl (List.prefix_of_prefix_length_le (ofSplit split) ⟨_, split'.symm⟩ ?_)
    rw [List.length_append, List.length_singleton]
    exact shorter
  · obtain ⟨rfl, rest⟩ := List.append_inj (split.symm.trans split') same
    obtain ⟨rfl, rfl⟩ := List.cons.inj rest
    exact Or.inr (Or.inr ⟨rfl, rfl, rfl⟩)
  · refine Or.inr (Or.inl (List.prefix_of_prefix_length_le (ofSplit split') ⟨_, split.symm⟩ ?_))
    rw [List.length_append, List.length_singleton]
    exact longer

/-- What an entry `e'` found before it, but `e` did not, came after `e`. -/
theorem append_prefix_of_mem {x : ε} (split : log = before ++ e :: after)
    (split' : log = before' ++ e' :: after') (there : x ∈ before') (new : x ∉ before) :
    before ++ [e] <+: before' := by
  rcases split_cases split split' with first | second | ⟨rfl, -, -⟩
  · exact first
  · exact absurd (second.subset (List.mem_append_left _ there)) new
  · exact absurd there new

end Log

end Transition
