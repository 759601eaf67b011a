import Mathlib.Data.Finset.Card
import Mathlib.Data.List.AList
import Mathlib.Tactic.Common

/-!
# Finite maps with counting

A finite map is an association list with distinct keys (`AList`, whose
distinctness is a field).  This file adds what bookkeeping proofs need on top:
pointwise `lookup` equations for `insert` and `erase`, and `count`, the number of
values that satisfy a test, with its change under both operations.
-/

universe u v

/-- A finite map from `α` to `β`. -/
abbrev AssocMap (α : Type u) (β : Type v) : Type max u v := AList fun _ : α => β

namespace AssocMap

variable {α : Type u} {β : Type v}

/-- The number of values that satisfy `q`. -/
def count (m : AssocMap α β) (q : β → Bool) : Nat := m.entries.countP fun entry => q entry.2

/-- The number of keys. -/
def size (m : AssocMap α β) : Nat := m.entries.length

theorem size_eq_count (m : AssocMap α β) : m.size = m.count fun _ => true := by
  simp [size, count]

theorem count_eq_zero {m : AssocMap α β} (q : β → Bool) (empty : ∀ a, a ∉ m) : m.count q = 0 := by
  have none_left : m.entries = [] := by
    refine List.eq_nil_iff_forall_not_mem.2 fun entry member => ?_
    exact empty entry.1 (AList.mem_keys.2 (List.mem_map_of_mem member))
  rw [count, none_left]
  rfl

variable [DecidableEq α] {m : AssocMap α β} {a a' : α} {b b' : β}

theorem lookup_insert_eq (m : AssocMap α β) (a a' : α) (b : β) :
    (m.insert a b).lookup a' = if a' = a then some b else m.lookup a' := by
  by_cases same : a' = a
  · subst same
    simp [AList.lookup_insert]
  · simp [same, AList.lookup_insert_ne]

theorem lookup_erase_eq (m : AssocMap α β) (a a' : α) :
    (m.erase a).lookup a' = if a' = a then none else m.lookup a' := by
  by_cases same : a' = a
  · subst same
    simp
  · simp [same, AList.lookup_erase_ne]

theorem mem_iff_lookup : a ∈ m ↔ ∃ b, m.lookup a = some b := by
  rw [← AList.lookup_isSome, Option.isSome_iff_exists]

theorem notMem_of_lookup (absent : m.lookup a = none) : a ∉ m := AList.lookup_eq_none.1 absent

theorem mem_of_lookup (found : m.lookup a = some b) : a ∈ m := mem_iff_lookup.2 ⟨b, found⟩

theorem erase_of_notMem (absent : a ∉ m) : m.erase a = m :=
  AList.ext (List.kerase_of_notMem_keys (by rwa [AList.mem_keys] at absent))

theorem count_insert (q : β → Bool) (fresh : a ∉ m) :
    count (m.insert a b) q = m.count q + if q b then 1 else 0 := by
  simp only [count, AList.entries_insert_of_notMem fresh, List.countP_cons]

/-- Erasing a key takes away what its value counted for. -/
theorem count_erase (q : β → Bool) (found : m.lookup a = some b) :
    count (m.erase a) q + (if q b then 1 else 0) = m.count q := by
  have key : a ∈ m.entries.keys := AList.mem_keys.1 (mem_of_lookup found)
  obtain ⟨b', before, after, absent, entries, erased⟩ := List.exists_of_kerase key
  have value : b' = b := by
    have looked : m.entries.dlookup a = some b := found
    rw [entries] at looked
    have nodup := m.nodupKeys
    rw [entries] at nodup
    have here : b' ∈ List.dlookup a (before ++ ⟨a, b'⟩ :: after) :=
      (List.mem_dlookup_iff nodup).2 (by simp)
    exact Option.some.inj ((Option.mem_def.1 here).symm.trans looked)
  subst value
  have unfolded : (m.erase a).entries = before ++ after := erased
  simp only [count, unfolded]
  rw [entries]
  simp only [List.countP_append, List.countP_cons]
  omega

theorem size_insert (b : β) (fresh : a ∉ m) : size (m.insert a b) = m.size + 1 := by
  simp [size_eq_count, count_insert _ fresh]

theorem size_erase (present : a ∈ m) : size (m.erase a) + 1 = m.size := by
  obtain ⟨b, found⟩ := mem_iff_lookup.1 present
  simpa [size_eq_count] using count_erase (fun _ => true) found

/-- Overwriting a key leaves the number of keys alone. -/
theorem size_insert_of_mem (b : β) (present : a ∈ m) : size (m.insert a b) = m.size := by
  have erased := size_erase present
  simp only [size, AList.entries_insert, List.length_cons]
  exact erased

theorem count_pos (q : β → Bool) (found : m.lookup a = some b) (holds : q b = true) :
    0 < m.count q := by
  have erased := count_erase q found
  rw [if_pos holds] at erased
  omega

theorem mem_filter_keys {q : β → Bool} :
    a ∈ (m.keys.toFinset.filter fun a => (m.lookup a).any q = true) ↔
      ∃ b, m.lookup a = some b ∧ q b = true := by
  rw [Finset.mem_filter, List.mem_toFinset, ← AList.mem_keys, Option.any_eq_true]
  exact ⟨And.right, fun found => ⟨mem_iff_lookup.2 (found.imp fun _ => And.left), found⟩⟩

/-- Values are counted by their keys. -/
theorem count_eq_card (m : AssocMap α β) (q : β → Bool) :
    m.count q = (m.keys.toFinset.filter fun a => (m.lookup a).any q = true).card := by
  have looked : ∀ entry ∈ m.entries, m.lookup entry.1 = some entry.2 :=
    fun entry member => (List.mem_dlookup_iff m.nodupKeys).2 member
  rw [← List.toFinset_filter, List.toFinset_card_of_nodup (m.keys_nodup.filter _)]
  unfold count AList.keys List.keys
  rw [List.filter_map, List.length_map, List.countP_eq_length_filter]
  congr 1
  apply List.filter_congr
  intro entry member
  simp [looked entry member]

theorem size_le_card {s : Finset α} (inside : ∀ a ∈ m, a ∈ s) : m.size ≤ s.card := by
  have keys : m.size = m.keys.toFinset.card := by
    rw [List.toFinset_card_of_nodup m.keys_nodup]
    simp [size, AList.keys, List.keys]
  rw [keys]
  refine Finset.card_le_card fun a member => ?_
  exact inside a (AList.mem_keys.2 (List.mem_toFinset.1 member))

end AssocMap
