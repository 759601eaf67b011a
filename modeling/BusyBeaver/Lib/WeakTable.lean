import BusyBeaver.Lib.AssocMap
import BusyBeaver.Lib.Pool

/-!
# Tables of weak references

A table maps keys to objects without keeping them alive: an object lives while its strong count
is positive, and the entry of a dead object is dropped at the next `retain`.  `Inv` says that the
table interns: under a key at most one object is alive, and it is the one the table lists
(`Inv.unique`); so the entries that are alive count the living objects (`Inv.exists_living`),
and a bound on the entries bounds them.

Every operation keeps it, whenever the counts are raised and lowered in between: `Inv.retain`,
`Inv.insert`, `Inv.clone`, `Inv.drop`.
-/

open Transition

universe u v

namespace AssocMap

variable {α : Type u} {β : Type v} {m : AssocMap α β} {a : α} {b : β} {p : β → Bool}

/-- The entries whose values satisfy `p`. -/
def retain (m : AssocMap α β) (p : β → Bool) : AssocMap α β where
  entries := m.entries.filter fun entry => p entry.2
  nodupKeys := m.nodupKeys.sublist List.filter_sublist

theorem size_retain : size (m.retain p) = m.count p := by
  simp [size, count, retain, List.countP_eq_length_filter]

theorem lookup_retain_eq_some [DecidableEq α] :
    (m.retain p).lookup a = some b ↔ m.lookup a = some b ∧ p b = true := by
  have mem_iff : ∀ n : AssocMap α β,
      n.lookup a = some b ↔ (⟨a, b⟩ : Sigma fun _ => β) ∈ n.entries :=
    fun n => List.mem_dlookup_iff n.nodupKeys
  rw [mem_iff, mem_iff]
  simp [retain]

end AssocMap

/-- Weak entries, the objects that were ever made with their keys and values, and their strong
counts. -/
structure WeakTable (κ : Type u) (ν : Type v) : Type (max u v) where
  entries : AssocMap κ Nat
  objects : Pool (κ × ν)
  strong : Nat → Nat

namespace WeakTable

variable {κ : Type u} {ν : Type v}

def empty : WeakTable κ ν := ⟨∅, fun _ => none, fun _ => 0⟩

def Alive (t : WeakTable κ ν) (object : Nat) : Prop := 0 < t.strong object

instance (t : WeakTable κ ν) (object : Nat) : Decidable (t.Alive object) :=
  inferInstanceAs (Decidable (_ < _))

/-- Drop the entries of dead objects. -/
def retain (t : WeakTable κ ν) : WeakTable κ ν :=
  { t with entries := t.entries.retain fun object => decide (t.Alive object) }

/-- The number of entries that are alive. -/
def living (t : WeakTable κ ν) : Nat := t.entries.count fun object => decide (t.Alive object)

/-- One more strong reference to a living object. -/
def clone (t : WeakTable κ ν) (object : Nat) : WeakTable κ ν :=
  { t with strong := Function.update t.strong object (t.strong object + 1) }

/-- One strong reference goes. -/
def drop (t : WeakTable κ ν) (object : Nat) : WeakTable κ ν :=
  { t with strong := Function.update t.strong object (t.strong object - 1) }

variable {t : WeakTable κ ν} {key : κ} {value : ν} {object other : Nat}

theorem alive_clone_self : (t.clone object).Alive object := by
  simp [Alive, clone]

theorem alive_clone (alive : t.Alive object) : (t.clone object).Alive other ↔ t.Alive other := by
  unfold Alive clone
  by_cases here : other = object
  · subst here
    simp [show 0 < t.strong other from alive]
  · simp [here]

theorem alive_of_drop (alive : (t.drop object).Alive other) : t.Alive other := by
  unfold Alive drop at alive
  unfold Alive
  by_cases here : other = object
  · subst here
    simp only [Function.update_self] at alive
    omega
  · simpa [here] using alive

theorem size_retain_le : t.retain.entries.size ≤ t.entries.size :=
  List.length_filter_le _ _

/-- Right after a `retain` every entry is alive. -/
theorem living_retain : t.retain.living = t.retain.entries.size :=
  List.countP_eq_length.2 fun _ member => (List.mem_filter.1 member).2

theorem living_le : t.living ≤ t.entries.size := List.countP_le_length

variable [DecidableEq κ]

/-- The living object under `key`. -/
def upgrade (t : WeakTable κ ν) (key : κ) : Option Nat :=
  (t.entries.lookup key).filter fun object => decide (t.Alive object)

/-- A new object under `key`, with one reference. -/
def insert (t : WeakTable κ ν) (key : κ) (value : ν) (object : Nat) : WeakTable κ ν where
  entries := t.entries.insert key object
  objects := t.objects.set object (key, value)
  strong := Function.update t.strong object 1

/-- The table interns. -/
structure Inv (t : WeakTable κ ν) : Prop where
  made : ∀ object, t.Alive object → ∃ key value, t.objects object = some (key, value)
  listed : ∀ object key value, t.objects object = some (key, value) → t.Alive object →
    t.entries.lookup key = some object
  entry : ∀ key object, t.entries.lookup key = some object →
    ∃ value, t.objects object = some (key, value)

theorem upgrade_eq_some :
    t.upgrade key = some object ↔ t.entries.lookup key = some object ∧ t.Alive object := by
  simp [upgrade, Option.filter_eq_some_iff]

theorem alive_insert : (t.insert key value object).Alive object := by
  simp [Alive, insert]

theorem size_insert_le (value : ν) :
    (t.insert key value object).entries.size ≤ t.entries.size + 1 := by
  by_cases present : key ∈ t.entries
  · exact Nat.le_succ_of_le (Nat.le_of_eq (AssocMap.size_insert_of_mem object present))
  · exact Nat.le_of_eq (AssocMap.size_insert object present)

namespace Inv

theorem empty : Inv (empty : WeakTable κ ν) where
  made object absurd := by cases absurd
  listed object key value absurd := by cases absurd
  entry key object absurd := by cases absurd

/-- Under one key at most one object is alive. -/
theorem unique (inv : t.Inv) {value' : ν} (here : t.objects object = some (key, value))
    (there : t.objects other = some (key, value')) (alive : t.Alive object)
    (alive' : t.Alive other) : object = other :=
  Option.some.inj ((inv.listed object key value here alive).symm.trans
    (inv.listed other key value' there alive'))

theorem of_upgrade (inv : t.Inv) (found : t.upgrade key = some object) :
    t.Alive object ∧ ∃ value, t.objects object = some (key, value) :=
  have looked := upgrade_eq_some.1 found
  ⟨looked.2, inv.entry key object looked.1⟩

/-- No living object has a key that has no upgrade. -/
theorem dead_of_upgrade (inv : t.Inv) (absent : t.upgrade key = none)
    (made : t.objects object = some (key, value)) : ¬ t.Alive object := by
  intro alive
  have found := upgrade_eq_some.2 ⟨inv.listed object key value made alive, alive⟩
  rw [absent] at found
  cases found

/-- The living entries are the living objects, each once. -/
theorem exists_living (inv : t.Inv) :
    ∃ objects : Finset Nat, (∀ object, object ∈ objects ↔ t.Alive object) ∧
      objects.card = t.living := by
  let live := t.entries.retain fun object => decide (t.Alive object)
  have mem_live : ∀ {k o}, (⟨k, o⟩ : Sigma fun _ => Nat) ∈ live.entries ↔
      t.entries.lookup k = some o ∧ t.Alive o := by
    intro k o
    have looked : live.lookup k = some o ↔ t.entries.lookup k = some o ∧ t.Alive o := by
      rw [AssocMap.lookup_retain_eq_some, decide_eq_true_iff]
    exact (List.mem_dlookup_iff live.nodupKeys).symm.trans looked
  -- an object has one key, so no two entries list it
  have nodup : (live.entries.map Sigma.snd).Nodup := by
    refine List.Nodup.of_map (fun object => (t.objects object).map Prod.fst) ?_
    have keys : (live.entries.map Sigma.snd).map (fun object => (t.objects object).map Prod.fst) =
        (live.entries.map Sigma.fst).map some := by
      rw [List.map_map, List.map_map]
      refine List.map_congr_left fun entry member => ?_
      obtain ⟨v, made⟩ := inv.entry entry.1 entry.2 (mem_live.1 member).1
      simp [made]
    rw [keys]
    exact List.Nodup.map (Option.some_injective _) live.nodupKeys
  refine ⟨(live.entries.map Sigma.snd).toFinset, fun object => ?_, ?_⟩
  · rw [List.mem_toFinset, List.mem_map]
    constructor
    · intro listed
      obtain ⟨entry, member, rfl⟩ := listed
      exact (mem_live.1 member).2
    · intro alive
      obtain ⟨k, v, made⟩ := inv.made object alive
      exact ⟨⟨k, object⟩, mem_live.2 ⟨inv.listed object k v made alive, alive⟩, rfl⟩
  · rw [List.toFinset_card_of_nodup nodup, List.length_map, WeakTable.living,
      ← AssocMap.size_retain]
    rfl

theorem retain (inv : t.Inv) : t.retain.Inv where
  made := inv.made
  listed object key value made alive :=
    AssocMap.lookup_retain_eq_some.2 ⟨inv.listed object key value made alive, decide_eq_true alive⟩
  entry key object found := inv.entry key object (AssocMap.lookup_retain_eq_some.1 found).1

theorem clone (inv : t.Inv) (alive : t.Alive object) : (t.clone object).Inv where
  made other alive' := inv.made other ((alive_clone alive).1 alive')
  listed other key value made alive' :=
    inv.listed other key value made ((alive_clone alive).1 alive')
  entry := inv.entry

theorem drop (inv : t.Inv) : (t.drop object).Inv where
  made other alive := inv.made other (alive_of_drop alive)
  listed other key value made alive := inv.listed other key value made (alive_of_drop alive)
  entry := inv.entry

/-- An object is made under a key that has no living one. -/
theorem insert (inv : t.Inv) (absent : t.upgrade key = none) (fresh : t.objects object = none) :
    (t.insert key value object).Inv := by
  have unlisted : ∀ {k o}, t.entries.lookup k = some o → o ≠ object := by
    rintro k o found rfl
    obtain ⟨v, made⟩ := inv.entry k o found
    rw [fresh] at made
    cases made
  constructor
  · intro other alive
    by_cases here : other = object
    · subst here
      exact ⟨key, value, Pool.set_self⟩
    · have before : t.Alive other := by simpa [Alive, WeakTable.insert, here] using alive
      obtain ⟨k, v, made⟩ := inv.made other before
      exact ⟨k, v, (Pool.set_of_ne here).trans made⟩
  · intro other k v made alive
    simp only [WeakTable.insert, AssocMap.lookup_insert_eq]
    rcases Pool.of_set_eq_some made with ⟨rfl, same⟩ | ⟨apart, earlier⟩
    · cases same
      rw [if_pos rfl]
    · have before : t.Alive other := by simpa [Alive, WeakTable.insert, apart] using alive
      split
      · next same =>
        subst same
        exact (inv.dead_of_upgrade absent earlier before).elim
      · exact inv.listed other k v earlier before
  · intro k o found
    simp only [WeakTable.insert, AssocMap.lookup_insert_eq] at found
    split at found
    · next same =>
      cases found
      subst same
      exact ⟨value, Pool.set_self⟩
    · obtain ⟨v, made⟩ := inv.entry k o found
      exact ⟨v, (Pool.set_of_ne (unlisted found)).trans made⟩

end Inv

end WeakTable
