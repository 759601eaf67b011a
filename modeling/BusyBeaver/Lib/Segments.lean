import Mathlib.Data.List.Sort
import Mathlib.Order.Basic
import Mathlib.Tactic.Order

/-!
# Piecewise constant functions as lists of segments

A list of segments is the function that is zero outside of them.  In a `Canonical` list the
segments are in order and as long as they can be, and such a list is determined by its
function (`canonical_unique`).  `extend` adds a segment at the end, and `lookup` finds a
position by its partition point.
-/

namespace Segments

universe u v

/-- The value on a half-open range of positions. -/
structure Segment (κ : Type u) (α : Type v) where
  startInclusive : κ
  endExclusive : κ
  value : α
  deriving DecidableEq, Repr

variable {κ : Type u} {α : Type v} [LinearOrder κ]

/-- The position lies in the segment. -/
def Segment.Covers (s : Segment κ α) (i : κ) : Prop := s.startInclusive ≤ i ∧ i < s.endExclusive

instance (s : Segment κ α) (i : κ) : Decidable (s.Covers i) :=
  inferInstanceAs (Decidable (s.startInclusive ≤ i ∧ i < s.endExclusive))

variable [Zero α]

/-- The function of a list. -/
def valueAt (segments : List (Segment κ α)) (i : κ) : α :=
  (segments.find? fun s => decide (s.Covers i)).elim 0 Segment.value

/-- In order, disjoint, not empty, not zero, and with nothing to merge. -/
structure Canonical (segments : List (Segment κ α)) : Prop where
  nonempty : ∀ s ∈ segments, s.startInclusive < s.endExclusive
  nonzero : ∀ s ∈ segments, s.value ≠ 0
  ordered : segments.Pairwise fun s t => s.endExclusive ≤ t.startInclusive
  merged : ∀ s ∈ segments, ∀ t ∈ segments, s.endExclusive = t.startInclusive → s.value ≠ t.value

section Values

variable {s : Segment κ α} {segments : List (Segment κ α)} {i : κ}

@[simp] theorem valueAt_nil : valueAt ([] : List (Segment κ α)) i = 0 := rfl

theorem valueAt_cons : valueAt (s :: segments) i =
    if s.Covers i then s.value else valueAt segments i := by
  unfold valueAt
  rw [List.find?_cons]
  by_cases covers : s.Covers i <;> simp [covers]

theorem valueAt_eq_zero (none_covers : ∀ s ∈ segments, ¬ s.Covers i) : valueAt segments i = 0 := by
  unfold valueAt
  rw [List.find?_eq_none.2 fun s member => by simpa using none_covers s member]
  rfl

/-- Where the function is not zero, a segment covers. -/
theorem exists_covers (there : valueAt segments i ≠ 0) :
    ∃ s ∈ segments, s.Covers i ∧ s.value = valueAt segments i := by
  unfold valueAt at there ⊢
  cases found : segments.find? fun s => decide (s.Covers i) with
  | none => exact absurd (by rw [found]; rfl) there
  | some s =>
    exact ⟨s, List.mem_of_find?_eq_some found, by simpa using List.find?_some found, rfl⟩

theorem Canonical.tail (canonical : Canonical (s :: segments)) : Canonical segments where
  nonempty := fun t member => canonical.nonempty t (List.mem_cons_of_mem s member)
  nonzero := fun t member => canonical.nonzero t (List.mem_cons_of_mem s member)
  ordered := (List.pairwise_cons.1 canonical.ordered).2
  merged := fun t member t' member' =>
    canonical.merged t (List.mem_cons_of_mem s member) t' (List.mem_cons_of_mem s member')

/-- What follows begins after the first segment. -/
theorem Canonical.endExclusive_le (canonical : Canonical (s :: segments)) :
    ∀ t ∈ segments, s.endExclusive ≤ t.startInclusive :=
  (List.pairwise_cons.1 canonical.ordered).1

theorem canonical_nil : Canonical ([] : List (Segment κ α)) where
  nonempty := fun _ member => by cases member
  nonzero := fun _ member => by cases member
  ordered := List.Pairwise.nil
  merged := fun _ member => by cases member

/-- Nothing but the first segment covers before its end. -/
theorem Canonical.valueAt_tail (canonical : Canonical (s :: segments))
    (before : i < s.endExclusive) : valueAt segments i = 0 := by
  refine valueAt_eq_zero fun t member covers => ?_
  have after := canonical.endExclusive_le t member
  obtain ⟨begun, -⟩ := covers
  order

theorem Canonical.valueAt_start (canonical : Canonical (s :: segments)) :
    valueAt (s :: segments) s.startInclusive = s.value := by
  rw [valueAt_cons, if_pos ⟨le_rfl, canonical.nonempty s List.mem_cons_self⟩]

/-- Right after the first segment the value is another one. -/
theorem Canonical.valueAt_end (canonical : Canonical (s :: segments)) :
    valueAt (s :: segments) s.endExclusive ≠ s.value := by
  have outside : ¬ s.Covers s.endExclusive := fun covers => lt_irrefl _ covers.2
  rw [valueAt_cons, if_neg outside]
  intro same
  have there : valueAt segments s.endExclusive ≠ 0 := by
    rw [same]
    exact canonical.nonzero s List.mem_cons_self
  obtain ⟨t, member, ⟨begun, -⟩, value⟩ := exists_covers there
  have touching := le_antisymm (canonical.endExclusive_le t member) begun
  exact canonical.merged s List.mem_cons_self t (List.mem_cons_of_mem s member) touching
    (same.symm.trans value.symm)

end Values

/-! ## A canonical list is determined by its function -/

section Unique

variable {s t : Segment κ α} {xs ys : List (Segment κ α)}

theorem start_le (canonical : Canonical (s :: xs)) (canonical' : Canonical (t :: ys))
    (same : ∀ i, valueAt (s :: xs) i = valueAt (t :: ys) i) :
    t.startInclusive ≤ s.startInclusive := by
  have there : valueAt (t :: ys) s.startInclusive ≠ 0 := by
    rw [← same, canonical.valueAt_start]
    exact canonical.nonzero s List.mem_cons_self
  obtain ⟨found, member, ⟨begun, -⟩, -⟩ := exists_covers there
  rcases List.mem_cons.1 member with rfl | later
  · exact begun
  · have after := canonical'.endExclusive_le found later
    have nonempty := canonical'.nonempty t List.mem_cons_self
    order

theorem end_le (canonical : Canonical (s :: xs))
    (same : ∀ i, valueAt (s :: xs) i = valueAt (t :: ys) i)
    (start : s.startInclusive = t.startInclusive) (value : s.value = t.value) :
    t.endExclusive ≤ s.endExclusive := by
  by_contra longer
  have covers : t.Covers s.endExclusive := by
    have nonempty := canonical.nonempty s List.mem_cons_self
    constructor <;> order
  have reached : valueAt (t :: ys) s.endExclusive = t.value := by
    rw [valueAt_cons, if_pos covers]
  exact canonical.valueAt_end ((same _).trans (reached.trans value.symm))

/-- **A canonical list is determined by its function.** -/
theorem canonical_unique (canonical : Canonical xs) (canonical' : Canonical ys)
    (same : ∀ i, valueAt xs i = valueAt ys i) : xs = ys := by
  induction xs generalizing ys with
  | nil =>
    cases ys with
    | nil => rfl
    | cons t ys =>
      have there := canonical'.valueAt_start
      rw [← same, valueAt_nil] at there
      exact (canonical'.nonzero t List.mem_cons_self there.symm).elim
  | cons s xs ih =>
    cases ys with
    | nil =>
      have there := canonical.valueAt_start
      rw [same, valueAt_nil] at there
      exact (canonical.nonzero s List.mem_cons_self there.symm).elim
    | cons t ys =>
      have back : ∀ i, valueAt (t :: ys) i = valueAt (s :: xs) i := fun i => (same i).symm
      have start : s.startInclusive = t.startInclusive :=
        le_antisymm (start_le canonical' canonical back) (start_le canonical canonical' same)
      have value : s.value = t.value := by
        rw [← canonical.valueAt_start, same, start, canonical'.valueAt_start]
      have stop : s.endExclusive = t.endExclusive :=
        le_antisymm (end_le canonical' back start.symm value.symm)
          (end_le canonical same start value)
      have first : s = t := by
        cases s
        cases t
        simp_all
      subst first
      refine congrArg (s :: ·) (ih canonical.tail canonical'.tail fun i => ?_)
      by_cases before : i < s.endExclusive
      · rw [canonical.valueAt_tail before, canonical'.valueAt_tail before]
      · have both := same i
        rwa [valueAt_cons, valueAt_cons, if_neg fun covers => before covers.2,
          if_neg fun covers => before covers.2] at both

end Unique

/-! ## A segment more -/

section Snoc

variable {s : Segment κ α} {segments : List (Segment κ α)} {i : κ}

/-- A segment behind the others. -/
theorem valueAt_snoc (behind : ∀ t ∈ segments, t.endExclusive ≤ s.startInclusive) :
    valueAt (segments ++ [s]) i = if s.Covers i then s.value else valueAt segments i := by
  induction segments with
  | nil => exact valueAt_cons
  | cons t segments ih =>
    rw [List.cons_append, valueAt_cons, valueAt_cons,
      ih fun t member => behind t (List.mem_cons_of_mem _ member)]
    by_cases inside : t.Covers i
    · have before : ¬ s.Covers i := by
        rintro ⟨begun, -⟩
        have apart := behind t List.mem_cons_self
        have ends := inside.2
        order
      rw [if_pos inside, if_neg before, if_pos inside]
    · rw [if_neg inside, if_neg inside]

theorem Canonical.snoc (canonical : Canonical segments)
    (nonempty : s.startInclusive < s.endExclusive)
    (nonzero : s.value ≠ 0) (behind : ∀ t ∈ segments, t.endExclusive ≤ s.startInclusive)
    (merged : ∀ t ∈ segments, t.endExclusive = s.startInclusive → t.value ≠ s.value) :
    Canonical (segments ++ [s]) where
  nonempty := by
    intro t member
    rcases List.mem_append.1 member with earlier | last
    · exact canonical.nonempty t earlier
    · obtain rfl := List.mem_singleton.1 last
      exact nonempty
  nonzero := by
    intro t member
    rcases List.mem_append.1 member with earlier | last
    · exact canonical.nonzero t earlier
    · obtain rfl := List.mem_singleton.1 last
      exact nonzero
  ordered := by
    refine List.pairwise_append.2 ⟨canonical.ordered, List.pairwise_singleton _ _, ?_⟩
    intro t member t' last
    obtain rfl := List.mem_singleton.1 last
    exact behind t member
  merged := by
    intro t member t' member' touching
    rcases List.mem_append.1 member with earlier | last
    · rcases List.mem_append.1 member' with earlier' | last'
      · exact canonical.merged t earlier t' earlier' touching
      · obtain rfl := List.mem_singleton.1 last'
        exact merged t earlier touching
    · obtain rfl := List.mem_singleton.1 last
      rcases List.mem_append.1 member' with earlier' | last'
      · have apart := behind t' earlier'
        have longer := canonical.nonempty t' earlier'
        order
      · obtain rfl := List.mem_singleton.1 last'
        order

/-- The last segment may end later. -/
theorem Canonical.grow (canonical : Canonical (segments ++ [s])) {stop : κ}
    (later : s.endExclusive ≤ stop) :
    Canonical (segments ++ [{ s with endExclusive := stop }]) := by
  obtain ⟨ordered, -, behind⟩ := List.pairwise_append.1 canonical.ordered
  have inside : ∀ t ∈ segments, t ∈ segments ++ [s] := fun t member =>
    List.mem_append_left _ member
  have last : s ∈ segments ++ [s] := List.mem_append_right _ List.mem_cons_self
  have front : Canonical segments :=
    ⟨fun t member => canonical.nonempty t (inside t member),
      fun t member => canonical.nonzero t (inside t member), ordered,
      fun t member t' member' => canonical.merged t (inside t member) t' (inside t' member')⟩
  exact front.snoc ((canonical.nonempty s last).trans_le later) (canonical.nonzero s last)
    (fun t member => behind t member s List.mem_cons_self)
    fun t member => canonical.merged t (inside t member) s last

end Snoc

section Extend

variable [DecidableEq α]

/-- A segment at the end: the last one grows when it touches and has the value. -/
def extend (segments : List (Segment κ α)) (startInclusive endExclusive : κ) (value : α) :
    List (Segment κ α) :=
  match segments.getLast? with
  | some last =>
    if last.endExclusive = startInclusive ∧ last.value = value then
      segments.dropLast ++ [{ last with endExclusive := endExclusive }]
    else segments ++ [⟨startInclusive, endExclusive, value⟩]
  | none => segments ++ [⟨startInclusive, endExclusive, value⟩]

variable {segments : List (Segment κ α)} {start stop i : κ} {value : α}

omit [Zero α] in
/-- The last segment has grown, or the new one stands alone. -/
theorem extend_cases (segments : List (Segment κ α)) (start stop : κ) (value : α) :
    (∃ before s, segments = before ++ [s] ∧ s.endExclusive = start ∧ s.value = value ∧
      extend segments start stop value = before ++ [{ s with endExclusive := stop }]) ∨
    ((∀ before s, segments = before ++ [s] → s.endExclusive = start → s.value ≠ value) ∧
      extend segments start stop value = segments ++ [⟨start, stop, value⟩]) := by
  unfold extend
  rcases List.eq_nil_or_concat' segments with rfl | ⟨before, s, rfl⟩
  · refine Or.inr ⟨fun before s absurd => ?_, rfl⟩
    simp at absurd
  · rw [List.getLast?_append_of_ne_nil _ (List.cons_ne_nil _ _), List.getLast?_singleton]
    by_cases grows : s.endExclusive = start ∧ s.value = value
    · refine Or.inl ⟨before, s, rfl, grows.1, grows.2, ?_⟩
      simp only [if_pos grows, List.dropLast_concat]
    · refine Or.inr ⟨fun before' s' found touching same => ?_, ?_⟩
      · obtain ⟨-, last⟩ := List.append_inj' found rfl
        obtain rfl := List.singleton_inj.1 last
        exact grows ⟨touching, same⟩
      · simp only [if_neg grows]

section Behind

variable (canonical : Canonical segments) (behind : ∀ s ∈ segments, s.endExclusive ≤ start)
  (nonempty : start < stop)
include canonical behind nonempty

theorem Canonical.extend (nonzero : value ≠ 0) :
    Canonical (extend segments start stop value) := by
  rcases extend_cases segments start stop value with
    ⟨before, s, rfl, touching, -, extended⟩ | ⟨alone, extended⟩
  · rw [extended]
    exact canonical.grow (touching.le.trans nonempty.le)
  · rw [extended]
    refine canonical.snoc nonempty nonzero behind fun t member touching => ?_
    rcases List.eq_nil_or_concat' segments with rfl | ⟨before, s, rfl⟩
    · cases member
    · rcases List.mem_append.1 member with earlier | last
      · -- a segment before the last one ends before it
        have apart := (List.pairwise_append.1 canonical.ordered).2.2 t earlier s List.mem_cons_self
        have longer := canonical.nonempty s (List.mem_append_right _ List.mem_cons_self)
        have ends := behind s (List.mem_append_right _ List.mem_cons_self)
        order
      · obtain rfl := List.mem_singleton.1 last
        exact alone before t rfl touching

theorem valueAt_extend :
    valueAt (Segments.extend segments start stop value) i =
      if start ≤ i ∧ i < stop then value else valueAt segments i := by
  rcases extend_cases segments start stop value with
    ⟨before, s, rfl, touching, same, extended⟩ | ⟨-, extended⟩
  · have apart : ∀ t ∈ before, t.endExclusive ≤ s.startInclusive := fun t member =>
      (List.pairwise_append.1 canonical.ordered).2.2 t member s List.mem_cons_self
    have longer := canonical.nonempty s (List.mem_append_right _ List.mem_cons_self)
    have grown : valueAt (before ++ [{ s with endExclusive := stop }]) i =
        if s.startInclusive ≤ i ∧ i < stop then s.value else valueAt before i := valueAt_snoc apart
    rw [extended, grown, valueAt_snoc apart, same]
    by_cases new : start ≤ i ∧ i < stop
    · rw [if_pos new, if_pos ⟨(longer.trans_le (touching.le.trans new.1)).le, new.2⟩]
    · rw [if_neg new]
      by_cases old : s.Covers i
      · rw [if_pos old, if_pos ⟨old.1, old.2.trans (touching.trans_lt nonempty)⟩]
      · rw [if_neg old, if_neg]
        rintro ⟨begun, ends⟩
        refine old ⟨begun, ?_⟩
        by_contra late
        exact new ⟨touching ▸ not_lt.1 late, ends⟩
  · rw [extended]
    exact valueAt_snoc behind

end Behind

omit [Zero α] in
theorem endExclusive_of_extend {bound : κ} (before : ∀ s ∈ segments, s.endExclusive ≤ bound)
    (fits : stop ≤ bound) : ∀ s ∈ extend segments start stop value, s.endExclusive ≤ bound := by
  intro s member
  rcases extend_cases segments start stop value with
    ⟨front, last, rfl, -, -, extended⟩ | ⟨-, extended⟩
  · rw [extended] at member
    rcases List.mem_append.1 member with earlier | new
    · exact before s (List.mem_append_left _ earlier)
    · obtain rfl := List.mem_singleton.1 new
      exact fits
  · rw [extended] at member
    rcases List.mem_append.1 member with earlier | new
    · exact before s earlier
    · obtain rfl := List.mem_singleton.1 new
      exact fits

end Extend

/-! ## Looking a position up -/

section Lookup

/-- Where the positions change from those with `p` to those without. -/
def partitionPoint {β : Type*} (p : β → Bool) (l : List β) : Nat := (l.takeWhile p).length

/-- The value at a position, by binary search. -/
def lookup (segments : List (Segment κ α)) (i : κ) : α :=
  match partitionPoint (fun s => decide (s.startInclusive ≤ i)) segments with
  | 0 => 0
  | position + 1 =>
    match segments[position]? with
    | some s => if i < s.endExclusive then s.value else 0
    | none => 0

variable {segments : List (Segment κ α)}

theorem lookup_eq_valueAt (canonical : Canonical segments) (i : κ) :
    lookup segments i = valueAt segments i := by
  induction segments with
  | nil => rfl
  | cons s segments ih =>
    have rest := ih canonical.tail
    have longer := canonical.nonempty s List.mem_cons_self
    rw [valueAt_cons]
    by_cases begun : s.startInclusive ≤ i
    · cases segments with
      | nil => simp [lookup, partitionPoint, begun, Segment.Covers]
      | cons t segments =>
        have apart := canonical.endExclusive_le t List.mem_cons_self
        by_cases next : t.startInclusive ≤ i
        · have past : ¬ s.Covers i := fun covers => by
            have ends := covers.2
            order
          rw [if_neg past, ← rest]
          simp [lookup, partitionPoint, begun, next]
        · have later : valueAt (t :: segments) i = 0 := by
            rw [← rest]
            simp [lookup, partitionPoint, next]
          simp [lookup, partitionPoint, begun, next, Segment.Covers, later]
    · have before : valueAt segments i = 0 :=
        canonical.valueAt_tail ((not_le.1 begun).trans longer)
      rw [if_neg fun covers => begun covers.1, before]
      simp [lookup, partitionPoint, begun]

end Lookup

end Segments
