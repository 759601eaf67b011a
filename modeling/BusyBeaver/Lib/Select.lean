import Mathlib.Data.List.Basic
import Mathlib.Data.List.Induction
import Mathlib.Tactic.Common

/-!
# Selecting by a replacement test

One pass over a list that keeps the element found so far and lets a later one replace it
when a test says so.  Where the test is a strict order the pass answers an element that
none of the list would replace.
-/

namespace Select

universe u

variable {α : Type u}

/-- The pass, from the element `selected` found so far. -/
def choose (replaces : α → α → Bool) (selected : Option α) (candidates : List α) : Option α :=
  candidates.foldl
    (fun selected candidate =>
      selected.elim (some candidate) fun current =>
        if replaces candidate current then some candidate else selected)
    selected

variable {replaces : α → α → Bool} {selected : Option α} {candidates : List α} {best : α}

@[simp] theorem choose_none_cons {first : α} :
    choose replaces none (first :: candidates) = choose replaces (some first) candidates := rfl

theorem choose_some_cons {current first : α} :
    choose replaces (some current) (first :: candidates) =
      choose replaces (some (if replaces first current then first else current)) candidates := by
  unfold choose
  rw [List.foldl_cons]
  by_cases better : replaces first current
  · simp [better]
  · simp [better]

theorem choose_snoc {last : α} :
    choose replaces selected (candidates ++ [last]) =
      some ((choose replaces selected candidates).elim last fun current =>
        if replaces last current then last else current) := by
  unfold choose
  rw [List.foldl_append]
  cases List.foldl _ selected candidates with
  | none => rfl
  | some current =>
    simp only [List.foldl_cons, List.foldl_nil, Option.elim_some]
    split <;> rfl

/-- The element that survives a comparison is one of the two. -/
theorem survivor_eq (first current : α) :
    (if replaces first current then first else current) = first ∨
      (if replaces first current then first else current) = current := by
  by_cases better : replaces first current
  · exact Or.inl (if_pos better)
  · exact Or.inr (if_neg better)

/-- A pass that has found something answers something it has seen. -/
theorem choose_some_mem {current : α} :
    ∃ best, choose replaces (some current) candidates = some best ∧
      (best = current ∨ best ∈ candidates) := by
  induction candidates generalizing current with
  | nil => exact ⟨current, rfl, Or.inl rfl⟩
  | cons first rest ih =>
    rw [choose_some_cons]
    obtain ⟨best, found, seen⟩ := @ih (if replaces first current then first else current)
    refine ⟨best, found, ?_⟩
    rcases seen with rfl | later
    · rcases @survivor_eq _ replaces first current with same | same
      · exact Or.inr (by rw [same]; exact List.mem_cons_self)
      · exact Or.inl same
    · exact Or.inr (List.mem_cons_of_mem first later)

/-- What is selected is a candidate. -/
theorem mem_of_choose (found : choose replaces none candidates = some best) :
    best ∈ candidates := by
  cases candidates with
  | nil => cases found
  | cons first rest =>
    rw [choose_none_cons] at found
    obtain ⟨other, same, seen⟩ := @choose_some_mem _ replaces rest first
    obtain rfl : other = best := Option.some.inj (same.symm.trans found)
    rcases seen with rfl | later
    · exact List.mem_cons_self
    · exact List.mem_cons_of_mem first later

/-- Only an empty list has nothing to select. -/
theorem choose_eq_none : choose replaces none candidates = none ↔ candidates = [] := by
  constructor
  · intro nothing
    cases candidates with
    | nil => rfl
    | cons first rest =>
      obtain ⟨best, found, -⟩ := @choose_some_mem _ replaces rest first
      rw [choose_none_cons, found] at nothing
      cases nothing
  · rintro rfl
    rfl

/-- Two tests that agree on an element and what comes before it select the same. -/
theorem choose_congr {others : α → α → Bool}
    (same : candidates.Pairwise fun earlier later =>
      replaces later earlier = others later earlier) :
    choose replaces none candidates = choose others none candidates := by
  have pass : ∀ {rest : List α} {current : α}, (current :: rest).Pairwise
      (fun earlier later => replaces later earlier = others later earlier) →
        choose replaces (some current) rest = choose others (some current) rest := by
    intro rest
    induction rest with
    | nil => exact fun _ => rfl
    | cons first rest ih =>
      intro current agree
      obtain ⟨ahead, behind⟩ := List.pairwise_cons.1 agree
      rw [choose_some_cons, choose_some_cons, ← ahead first List.mem_cons_self]
      rcases @survivor_eq _ replaces first current with survivor | survivor
      · rw [survivor]
        exact ih behind
      · rw [survivor]
        refine ih (List.pairwise_cons.2 ⟨?_, (List.pairwise_cons.1 behind).2⟩)
        exact fun later member => ahead later (List.mem_cons_of_mem first member)
  cases candidates with
  | nil => rfl
  | cons first rest => exact pass same

/-- Where nothing replaces anything, the first is selected. -/
theorem choose_false : choose (fun _ _ => false) none candidates = candidates.head? := by
  cases candidates with
  | nil => rfl
  | cons first rest =>
    rw [choose_none_cons, List.head?_cons]
    induction rest with
    | nil => rfl
    | cons second rest ih => exact ih

theorem choose_map {β : Type*} (f : β → α) (list : List β) :
    choose replaces none (list.map f) =
      (choose (fun later earlier => replaces (f later) (f earlier)) none list).map f := by
  have pass : ∀ {rest : List β} {current : β}, choose replaces (some (f current)) (rest.map f) =
      (choose (fun later earlier => replaces (f later) (f earlier)) (some current) rest).map f := by
    intro rest
    induction rest with
    | nil => exact rfl
    | cons first rest ih =>
      intro current
      rw [List.map_cons, choose_some_cons, choose_some_cons, ← apply_ite f]
      exact ih
  cases list with
  | nil => rfl
  | cons first rest => exact pass

section Order

variable (irrefl : ∀ a, replaces a a = false)
  (trans : ∀ a b c, replaces a b = true → replaces b c = true → replaces a c = true)

include trans

/-- The answer is where the pass started, or replaces it. -/
theorem choose_some_replaces {current : α}
    (found : choose replaces (some current) candidates = some best) :
    best = current ∨ replaces best current = true := by
  induction candidates generalizing current with
  | nil => exact Or.inl (Option.some.inj found).symm
  | cons first rest ih =>
    rw [choose_some_cons] at found
    have later := ih found
    by_cases better : replaces first current
    · rw [if_pos better] at later
      rcases later with rfl | beats
      · exact Or.inr better
      · exact Or.inr (trans best first current beats better)
    · rw [if_neg better] at later
      exact later

include irrefl

/-- Nothing the pass has seen, nor where it started, replaces its answer. -/
theorem not_replaces_of_choose_some {current : α}
    (found : choose replaces (some current) candidates = some best) :
    replaces current best = false ∧ ∀ other ∈ candidates, replaces other best = false := by
  have keeps {one two : α} (kept : one = two ∨ replaces one two = true) :
      replaces two one = false := by
    by_contra beats
    rcases kept with rfl | kept
    · exact beats (irrefl one)
    · have cycle := trans one two one kept (by simpa using beats)
      rw [irrefl one] at cycle
      cases cycle
  refine ⟨keeps (choose_some_replaces trans found), ?_⟩
  induction candidates generalizing current with
  | nil =>
    intro other absurd
    cases absurd
  | cons first rest ih =>
    rw [choose_some_cons] at found
    intro other member
    rcases List.mem_cons.1 member with rfl | inside
    · have kept := choose_some_replaces trans found
      by_cases better : replaces other current
      · rw [if_pos better] at kept
        exact keeps kept
      · rw [if_neg better] at kept
        by_contra beats
        rcases kept with rfl | kept
        · exact beats (by simpa using better)
        · exact better (trans other best current (by simpa using beats) kept)
    · exact ih found other inside

/-- No candidate replaces the one that is selected. -/
theorem not_replaces_of_choose (found : choose replaces none candidates = some best) :
    ∀ other ∈ candidates, replaces other best = false := by
  cases candidates with
  | nil => cases found
  | cons first rest =>
    rw [choose_none_cons] at found
    obtain ⟨start, later⟩ := not_replaces_of_choose_some irrefl trans found
    intro other member
    rcases List.mem_cons.1 member with rfl | inside
    · exact start
    · exact later other inside

/-- Dropping others does not change what is selected, where what replaces one element also
replaces all those that do not replace it. -/
theorem choose_filter {keep : α → Bool}
    (weak : ∀ a b c, replaces c a = true → replaces b a = false → replaces c b = true)
    (found : choose replaces none candidates = some best) (kept : keep best = true) :
    choose replaces none (candidates.filter keep) = some best := by
  induction candidates using List.reverseRecOn generalizing best with
  | nil => cases found
  | append_singleton earlier last ih =>
    rw [choose_snoc] at found
    rw [List.filter_append]
    cases chosen : choose replaces none earlier with
    | none =>
      obtain rfl := choose_eq_none.1 chosen
      obtain rfl : last = best := by simpa [chosen] using found
      rw [List.filter_cons_of_pos kept]
      rfl
    | some current =>
      rw [chosen, Option.elim_some] at found
      have others := not_replaces_of_choose irrefl trans chosen
      by_cases better : replaces last current = true
      · rw [if_pos better] at found
        obtain rfl := Option.some.inj found
        rw [List.filter_cons_of_pos kept, List.filter_nil, choose_snoc]
        cases left : choose replaces none (earlier.filter keep) with
        | none => rfl
        | some other =>
          have member := List.mem_of_mem_filter (mem_of_choose left)
          rw [Option.elim_some, if_pos (weak current other last better (others other member))]
      · rw [if_neg better] at found
        obtain rfl := Option.some.inj found
        have before := ih chosen kept
        by_cases stays : keep last = true
        · rw [List.filter_cons_of_pos stays, List.filter_nil, choose_snoc, before,
            Option.elim_some, if_neg better]
        · rw [List.filter_cons_of_neg stays, List.filter_nil, List.append_nil]
          exact before

/-- Where the test separates the candidates, the selected one is the only one that no
candidate replaces. -/
theorem choose_eq_some
    (separates : ∀ a ∈ candidates, ∀ b ∈ candidates,
      replaces a b = false → replaces b a = false → a = b) :
    choose replaces none candidates = some best ↔
      best ∈ candidates ∧ ∀ other ∈ candidates, replaces other best = false := by
  constructor
  · intro found
    exact ⟨mem_of_choose found, not_replaces_of_choose irrefl trans found⟩
  · rintro ⟨member, beaten⟩
    cases found : choose replaces none candidates with
    | none =>
      obtain rfl := choose_eq_none.1 found
      cases member
    | some other =>
      have inside := mem_of_choose found
      have kept := not_replaces_of_choose irrefl trans found best member
      rw [separates other inside best member (beaten other inside) kept]

/-- The order of the candidates does not matter then. -/
theorem choose_perm {others : List α} (perm : others.Perm candidates)
    (separates : ∀ a ∈ candidates, ∀ b ∈ candidates,
      replaces a b = false → replaces b a = false → a = b) :
    choose replaces none others = choose replaces none candidates := by
  refine Option.ext fun best => ?_
  have separates' : ∀ a ∈ others, ∀ b ∈ others,
      replaces a b = false → replaces b a = false → a = b := fun a inA b inB =>
    separates a (perm.mem_iff.1 inA) b (perm.mem_iff.1 inB)
  rw [choose_eq_some irrefl trans separates, choose_eq_some irrefl trans separates', perm.mem_iff]
  refine and_congr_right fun _ => forall_congr' fun other => ?_
  rw [perm.mem_iff]

end Order

end Select
