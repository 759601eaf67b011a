import BusyBeaver.Lib.AssocMap

/-!
# Reference counts

A table of positive counts represents a counting function: a key is in the table
exactly when its count is not zero.  Taking or giving back one reference changes
the function at that key by one, and the lemmas say what happens to the table.
-/

namespace RefCount

universe u

variable {κ : Type u} [DecidableEq κ] {m : AssocMap κ Nat} {f : κ → Nat} {key : κ} {n : Nat}

/-- `m` holds exactly the non-zero values of `f`. -/
structure Represents (m : AssocMap κ Nat) (f : κ → Nat) : Prop where
  value : ∀ key, (m.lookup key).getD 0 = f key
  positive : ∀ key n, m.lookup key = some n → 0 < n

theorem Represents.empty : Represents (∅ : AssocMap κ Nat) fun _ => 0 :=
  ⟨fun _ => rfl, fun _ _ absurd => by cases absurd⟩

theorem Represents.congr {g : κ → Nat} (represents : Represents m f)
    (same : ∀ key, f key = g key) : Represents m g :=
  ⟨fun key => (represents.value key).trans (same key), represents.positive⟩

theorem Represents.lookup (represents : Represents m f) (found : m.lookup key = some n) :
    f key = n := by
  rw [← represents.value key, found]
  rfl

theorem Represents.lookup_of_pos (represents : Represents m f) (counted : 0 < f key) :
    m.lookup key = some (f key) := by
  have value := represents.value key
  cases found : m.lookup key with
  | none =>
    rw [found] at value
    simp only [Option.getD_none] at value
    omega
  | some n => rw [represents.lookup found]

/-- Storing the incremented count takes one more reference. -/
theorem Represents.take (represents : Represents m f) :
    Represents (m.insert key (f key + 1)) fun k => if k = key then f k + 1 else f k := by
  refine ⟨fun k => ?_, fun k n found => ?_⟩
  · rw [AssocMap.lookup_insert_eq]
    by_cases same : k = key
    · simp [same]
    · simpa [same] using represents.value k
  · rw [AssocMap.lookup_insert_eq] at found
    by_cases same : k = key
    · simp only [same, ↓reduceIte, Option.some.injEq] at found
      omega
    · simp only [same, ↓reduceIte] at found
      exact represents.positive k n found

/-- Giving back the last reference erases the key. -/
theorem Represents.dropLast (represents : Represents m f) (last : f key = 1) :
    Represents (m.erase key) fun k => if k = key then f k - 1 else f k := by
  refine ⟨fun k => ?_, fun k n found => ?_⟩
  · rw [AssocMap.lookup_erase_eq]
    by_cases same : k = key
    · simp [same, last]
    · simpa [same] using represents.value k
  · rw [AssocMap.lookup_erase_eq] at found
    by_cases same : k = key
    · simp [same] at found
    · simp only [same, ↓reduceIte] at found
      exact represents.positive k n found

/-- Giving back one of several references stores the decremented count. -/
theorem Represents.dropOne (represents : Represents m f) (more : 1 < f key) :
    Represents (m.insert key (f key - 1)) fun k => if k = key then f k - 1 else f k := by
  refine ⟨fun k => ?_, fun k n found => ?_⟩
  · rw [AssocMap.lookup_insert_eq]
    by_cases same : k = key
    · simp [same]
    · simpa [same] using represents.value k
  · rw [AssocMap.lookup_insert_eq] at found
    by_cases same : k = key
    · simp only [same, ↓reduceIte, Option.some.injEq] at found
      omega
    · simp only [same, ↓reduceIte] at found
      exact represents.positive k n found

end RefCount
