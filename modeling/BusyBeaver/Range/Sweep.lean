import BusyBeaver.Range.State

/-!
# The sweep over the boundaries

Between two boundaries no range begins or ends, so the ranges that cover the first position of
a window cover all of it.  The heap has all of them, and those that have ended above the top
are gone: the top is the latest range that covers (`Swept.window`).  Over the whole sweep the
segments are canonical and carry the later range's delay (`compileSegments_spec`).
-/

namespace BusyBeaver

open Segments

/-! ## Boundaries -/

section Boundaries

variable {α : Type} [DecidableEq α] {a x : α} {l : List α}

theorem mem_dedup_cons : x ∈ l.destutter' (· ≠ ·) a ↔ x = a ∨ x ∈ l := by
  induction l generalizing a with
  | nil => simp
  | cons b l ih =>
    rw [List.destutter'_cons]
    by_cases same : a = b
    · subst same
      rw [if_neg (not_not_intro rfl), ih, List.mem_cons]
      tauto
    · rw [if_pos same, List.mem_cons, ih, List.mem_cons]

theorem mem_dedup : x ∈ l.destutter (· ≠ ·) ↔ x ∈ l := by
  cases l with
  | nil => rfl
  | cons a l => rw [List.destutter_cons', mem_dedup_cons, List.mem_cons]

end Boundaries

theorem strict_of_distinct {l : List Nat} (sorted : l.Pairwise (· ≤ ·))
    (distinct : l.IsChain (· ≠ ·)) : l.Pairwise (· < ·) := by
  induction l with
  | nil => exact List.Pairwise.nil
  | cons a l ih =>
    obtain ⟨least, sorted⟩ := List.pairwise_cons.1 sorted
    refine List.pairwise_cons.2 ⟨fun c member => ?_, ih sorted distinct.tail⟩
    cases l with
    | nil => cases member
    | cons b l =>
      have first : a < b :=
        lt_of_le_of_ne (least b List.mem_cons_self) (List.isChain_cons_cons.1 distinct).1
      rcases List.mem_cons.1 member with rfl | later
      · exact first
      · exact first.trans_le ((List.pairwise_cons.1 sorted).1 c later)

theorem pairwise_dedup {l : List Nat} (sorted : l.Pairwise (· ≤ ·)) :
    (l.destutter (· ≠ ·)).Pairwise (· < ·) :=
  strict_of_distinct (sorted.sublist (List.destutter_sublist (· ≠ ·) l))
    (List.isChain_destutter (· ≠ ·) l)

variable {total : Nat} {normalized : List NormalizedRange}

theorem mem_boundaries {x : Nat} : x ∈ boundaries total normalized ↔
    x = 0 ∨ x = total ∨ ∃ range ∈ normalized, x = range.start ∨ x = range.endExclusive := by
  unfold boundaries
  rw [mem_dedup, List.mem_insertionSort]
  simp [List.mem_flatMap]

theorem boundaries_sorted (total : Nat) (normalized : List NormalizedRange) :
    (boundaries total normalized).Pairwise (· < ·) :=
  pairwise_dedup (List.pairwise_insertionSort (· ≤ ·) _)

/-- The boundaries begin at zero. -/
theorem exists_boundaries (total : Nat) (normalized : List NormalizedRange) :
    ∃ rest, boundaries total normalized = 0 :: rest := by
  have there : 0 ∈ boundaries total normalized := mem_boundaries.2 (Or.inl rfl)
  have sorted := boundaries_sorted total normalized
  cases all : boundaries total normalized with
  | nil =>
    rw [all] at there
    cases there
  | cons first rest =>
    rw [all] at there sorted
    rcases List.mem_cons.1 there with rfl | later
    · exact ⟨rest, rfl⟩
    · exact absurd ((List.pairwise_cons.1 sorted).1 0 later) (Nat.not_lt_zero _)

/-! ## Who decides -/

namespace NormalizedRange

def active (range : NormalizedRange) : ActiveRange :=
  ⟨range.priority, range.endExclusive, range.durationMillis⟩

end NormalizedRange

/-- The delay at a position is that of the covering range of the greatest priority. -/
def Assigns (normalized : List NormalizedRange) (i : Nat) (delay : UInt64) : Prop :=
  (∃ range ∈ normalized, range.Covers i ∧ range.durationMillis = delay ∧
    ∀ other ∈ normalized, other.Covers i → other.priority ≤ range.priority) ∨
  (∀ range ∈ normalized, ¬ range.Covers i) ∧ delay = 0

/-- Ranges that agree on two positions assign them the same delay. -/
theorem Assigns.congr {i j : Nat} {delay : UInt64}
    (same : ∀ range ∈ normalized, range.Covers i ↔ range.Covers j)
    (assigns : Assigns normalized i delay) : Assigns normalized j delay := by
  rcases assigns with ⟨range, member, covers, own, latest⟩ | ⟨none_covers, zero⟩
  · exact Or.inl ⟨range, member, (same range member).1 covers, own, fun other member' covers' =>
      latest other member' ((same other member').2 covers')⟩
  · exact Or.inr ⟨fun range member covers => none_covers range member
      ((same range member).2 covers), zero⟩

theorem ActiveRange.Above.priority_le {one other : ActiveRange} (above : one.Above other) :
    other.priority ≤ one.priority := by
  rcases Prod.Lex.le_iff.1 above with less | ⟨same, -⟩
  · exact Nat.le_of_lt less
  · exact same.le

/-! ## The heap -/

theorem pairwise_pushActive (range : ActiveRange) {active : List ActiveRange}
    (heap : active.Pairwise ActiveRange.Above) :
    (pushActive range active).Pairwise ActiveRange.Above := by
  have total : Std.Total ActiveRange.Above := ⟨fun one other => le_total other.key one.key⟩
  have trans : IsTrans ActiveRange ActiveRange.Above :=
    ⟨fun a b c first second => second.trans first⟩
  exact heap.orderedInsert _ _

/-- What the loop that pushes does. -/
theorem admitRanges_spec (start : Nat) (ranges : List NormalizedRange) {active : List ActiveRange}
    (heap : active.Pairwise ActiveRange.Above) :
    (admitRanges start ranges active).1 <:+ ranges ∧
      (admitRanges start ranges active).2.Pairwise ActiveRange.Above ∧
      (∀ top, (admitRanges start ranges active).1.head? = some top → start < top.start) ∧
      (∀ item ∈ (admitRanges start ranges active).2, item ∈ active ∨
        ∃ range ∈ ranges, range.start ≤ start ∧ range.active = item) ∧
      (∀ item ∈ active, item ∈ (admitRanges start ranges active).2) ∧
      ∀ range ∈ ranges, range ∈ (admitRanges start ranges active).1 ∨
        range.active ∈ (admitRanges start ranges active).2 := by
  induction ranges generalizing active with
  | nil =>
    exact ⟨List.suffix_refl _, heap, fun _ absurd => (by cases absurd),
      fun _ member => Or.inl member,
      fun _ member => member, fun _ absurd => (by cases absurd)⟩
  | cons range ranges ih =>
    unfold admitRanges
    by_cases begun : range.start ≤ start
    · rw [if_pos begun]
      obtain ⟨suffix, heap', later, sound, kept, complete⟩ :=
        ih (pairwise_pushActive range.active heap)
      have pushed : ∀ item, item ∈ pushActive range.active active ↔
          item = range.active ∨ item ∈ active := fun item => List.mem_orderedInsert _
      refine ⟨suffix.trans (List.suffix_cons _ _), heap', later, ?_, ?_, ?_⟩
      · intro item member
        rcases sound item member with inside | ⟨other, there, started, own⟩
        · rcases (pushed item).1 inside with rfl | old
          · exact Or.inr ⟨range, List.mem_cons_self, begun, rfl⟩
          · exact Or.inl old
        · exact Or.inr ⟨other, List.mem_cons_of_mem _ there, started, own⟩
      · exact fun item member => kept item ((pushed item).2 (Or.inr member))
      · intro other member
        rcases List.mem_cons.1 member with rfl | there
        · exact Or.inr (kept _ ((pushed _).2 (Or.inl rfl)))
        · exact complete other there
    · rw [if_neg begun]
      refine ⟨List.suffix_refl _, heap, ?_, fun _ member => Or.inl member, fun _ member => member,
        fun _ member => Or.inl member⟩
      intro top first
      cases first
      exact not_le.1 begun

/-- What the loop that pops does. -/
theorem purgeActive_spec (start : Nat) (active : List ActiveRange) :
    purgeActive start active <:+ active ∧
      (∀ top, (purgeActive start active).head? = some top → start < top.rangeEnd) ∧
      ∀ item ∈ active, item ∈ purgeActive start active ∨ item.rangeEnd ≤ start := by
  induction active with
  | nil =>
    exact ⟨List.suffix_refl _, fun _ absurd => (by cases absurd), fun _ absurd => (by cases absurd)⟩
  | cons top active ih =>
    unfold purgeActive
    by_cases ended : top.rangeEnd ≤ start
    · rw [if_pos ended]
      obtain ⟨suffix, later, complete⟩ := ih
      refine ⟨suffix.trans (List.suffix_cons _ _), later, fun item member => ?_⟩
      rcases List.mem_cons.1 member with rfl | there
      · exact Or.inr ended
      · exact complete item there
    · rw [if_neg ended]
      refine ⟨List.suffix_refl _, fun first same => ?_, fun item member => Or.inl member⟩
      cases same
      exact not_le.1 ended

/-! ## One window -/

/-- The sweep stands at the position `at`. -/
structure Swept (normalized : List NormalizedRange) (position : Nat) (s : RangeSweep) : Prop where
  sorted : s.ranges.Pairwise fun one other => one.start ≤ other.start
  heap : s.active.Pairwise ActiveRange.Above
  waiting : ∀ range ∈ s.ranges, range ∈ normalized
  opened : ∀ item ∈ s.active, ∃ range ∈ normalized, range.start ≤ position ∧ range.active = item
  kept : ∀ range ∈ normalized,
    range ∈ s.ranges ∨ range.active ∈ s.active ∨ range.endExclusive ≤ position
  canonical : Canonical s.segments
  behind : ∀ segment ∈ s.segments, segment.endExclusive ≤ position
  assigned : ∀ i < position, Assigns normalized i (valueAt s.segments i)

/-- The top of the heap, after the two loops. -/
def RangeSweep.top (s : RangeSweep) (start : Nat) : Option ActiveRange :=
  (purgeActive start (admitRanges start s.ranges s.active).2).head?

/-- The delay of a window. -/
def RangeSweep.delay (s : RangeSweep) (start : Nat) : UInt64 :=
  (s.top start).elim 0 ActiveRange.durationMillis

theorem RangeSweep.window_eq (s : RangeSweep) {start stop : Nat} (nonempty : start < stop) :
    s.window start stop =
      { active := purgeActive start (admitRanges start s.ranges s.active).2
        ranges := (admitRanges start s.ranges s.active).1
        segments :=
          if s.delay start = 0 then s.segments
          else extend s.segments start stop (s.delay start) } := by
  unfold RangeSweep.window RangeSweep.delay RangeSweep.top
  by_cases zero : (purgeActive start (admitRanges start s.ranges s.active).2).head?.elim 0
      ActiveRange.durationMillis = 0
  · simp [zero]
  · simp [zero, Nat.not_le.2 nonempty]

section Window

variable {s : RangeSweep} {start stop : Nat} (swept : Swept normalized start s)
include swept

/-- What has not begun is still waiting, and begins later. -/
theorem Swept.begins_later : ∀ range ∈ (admitRanges start s.ranges s.active).1,
    start < range.start := by
  obtain ⟨suffix, -, later, -⟩ := admitRanges_spec start s.ranges swept.heap
  have sorted := swept.sorted.sublist suffix.sublist
  intro range member
  cases rest : (admitRanges start s.ranges s.active).1 with
  | nil =>
    rw [rest] at member
    cases member
  | cons first others =>
    rw [rest] at member sorted later
    have begins := later first rfl
    rcases List.mem_cons.1 member with rfl | there
    · exact begins
    · exact begins.trans_le ((List.pairwise_cons.1 sorted).1 range there)

/-- **The top of the heap decides at the start of the window.** -/
theorem Swept.assigns_top : Assigns normalized start (s.delay start) := by
  obtain ⟨-, heap, -, sound, kept, complete⟩ :=
    admitRanges_spec start s.ranges swept.heap
  obtain ⟨suffix, alive, purged⟩ :=
    purgeActive_spec start (admitRanges start s.ranges s.active).2
  -- a range that covers is on the heap
  have present : ∀ range ∈ normalized, range.Covers start →
      range.active ∈ purgeActive start (admitRanges start s.ranges s.active).2 := by
    rintro range member ⟨begun, ends⟩
    have pushed : range.active ∈ (admitRanges start s.ranges s.active).2 := by
      rcases swept.kept range member with waiting | old | ended
      · rcases complete range waiting with still | pushed
        · exact absurd (swept.begins_later range still) (not_lt.2 begun)
        · exact pushed
      · exact kept _ old
      · exact absurd ends (not_lt.2 ended)
    rcases purged _ pushed with inside | ended
    · exact inside
    · exact absurd ends (not_lt.2 ended)
  unfold RangeSweep.delay RangeSweep.top
  cases active : purgeActive start (admitRanges start s.ranges s.active).2 with
  | nil =>
    refine Or.inr ⟨fun range member covers => ?_, rfl⟩
    have inside := present range member covers
    rw [active] at inside
    cases inside
  | cons top rest =>
    rw [active] at suffix alive present
    have ends := alive top rfl
    have above := (List.pairwise_cons.1 (heap.sublist suffix.sublist)).1
    obtain ⟨range, member, begun, own⟩ : ∃ range ∈ normalized, range.start ≤ start ∧
        range.active = top := by
      rcases sound top (suffix.subset List.mem_cons_self) with old | ⟨range, waiting, begun, own⟩
      · exact swept.opened top old
      · exact ⟨range, swept.waiting range waiting, begun, own⟩
    subst own
    refine Or.inl ⟨range, member, ⟨begun, ends⟩, rfl, fun other member' covers => ?_⟩
    rcases List.mem_cons.1 (present other member' covers) with same | below
    · exact (congrArg ActiveRange.priority same).le
    · exact (above _ below).priority_le

variable (between : ∀ range ∈ normalized, (range.start ≤ start ∨ stop ≤ range.start) ∧
    (range.endExclusive ≤ start ∨ stop ≤ range.endExclusive))
include between

/-- The window has one delay. -/
theorem Swept.assigns_window {i : Nat} (inside : start ≤ i ∧ i < stop) :
    Assigns normalized i (s.delay start) := by
  refine swept.assigns_top.congr fun range member => ?_
  obtain ⟨begins, ends⟩ := between range member
  unfold NormalizedRange.Covers
  omega

/-- **One window.** -/
theorem Swept.window (nonempty : start < stop) :
    Swept normalized stop (s.window start stop) := by
  obtain ⟨suffix, heap, -, sound, kept, complete⟩ :=
    admitRanges_spec start s.ranges swept.heap
  obtain ⟨below, -, purged⟩ := purgeActive_spec start (admitRanges start s.ranges s.active).2
  have outside : ∀ i, ¬ i < start → valueAt s.segments i = 0 := fun i late =>
    valueAt_eq_zero fun segment member covers =>
      late (covers.2.trans_le (swept.behind segment member))
  rw [s.window_eq nonempty]
  refine
    { sorted := swept.sorted.sublist suffix.sublist
      heap := heap.sublist below.sublist
      waiting := fun range member => swept.waiting range (suffix.subset member)
      opened := fun item member => ?_
      kept := fun range member => ?_
      canonical := ?_
      behind := ?_
      assigned := fun i early => ?_ }
  · rcases sound item (below.subset member) with old | ⟨range, waiting, begun, own⟩
    · obtain ⟨range, member, begun, own⟩ := swept.opened item old
      exact ⟨range, member, begun.trans nonempty.le, own⟩
    · exact ⟨range, swept.waiting range waiting, begun.trans nonempty.le, own⟩
  · have purge : range.active ∈ (admitRanges start s.ranges s.active).2 →
        range.active ∈ purgeActive start (admitRanges start s.ranges s.active).2 ∨
          range.endExclusive ≤ stop :=
      fun pushed => (purged _ pushed).imp_right fun ended => le_trans ended nonempty.le
    rcases swept.kept range member with waiting | old | ended
    · rcases complete range waiting with still | pushed
      · exact Or.inl still
      · exact Or.inr (purge pushed)
    · exact Or.inr (purge (kept _ old))
    · exact Or.inr (Or.inr (ended.trans nonempty.le))
  · dsimp only
    split
    · exact swept.canonical
    · rename_i nonzero
      exact swept.canonical.extend swept.behind nonempty nonzero
  · dsimp only
    split
    · exact fun segment member => (swept.behind segment member).trans nonempty.le
    · exact endExclusive_of_extend
        (fun segment member => (swept.behind segment member).trans nonempty.le) le_rfl
  · dsimp only
    by_cases before : i < start
    · have same : valueAt (if s.delay start = 0 then s.segments
          else extend s.segments start stop (s.delay start)) i = valueAt s.segments i := by
        split
        · rfl
        · rw [valueAt_extend swept.canonical swept.behind nonempty,
            if_neg fun inside => absurd before (not_lt.2 inside.1)]
      rw [same]
      exact swept.assigned i before
    · have inside : start ≤ i ∧ i < stop := ⟨not_lt.1 before, early⟩
      have same : valueAt (if s.delay start = 0 then s.segments
          else extend s.segments start stop (s.delay start)) i = s.delay start := by
        split
        · rename_i zero
          rw [outside i before, zero]
        · rw [valueAt_extend swept.canonical swept.behind nonempty, if_pos inside]
      rw [same]
      exact swept.assigns_window between inside

end Window

/-! ## The whole sweep -/

/-- **Run lemma.**  The boundaries that are left have every later end of a range. -/
theorem Swept.sweepWindows {s : RangeSweep} {start : Nat} {rest : List Nat}
    (swept : Swept normalized start s) (sorted : (start :: rest).Pairwise (· < ·))
    (ends : ∀ range ∈ normalized, (range.start ≤ start ∨ range.start ∈ rest) ∧
      (range.endExclusive ≤ start ∨ range.endExclusive ∈ rest)) :
    Swept normalized ((start :: rest).getLast (List.cons_ne_nil _ _))
      (BusyBeaver.sweepWindows (start :: rest) s) := by
  induction rest generalizing start s with
  | nil => exact swept
  | cons stop rest ih =>
    obtain ⟨first, sorted⟩ := List.pairwise_cons.1 sorted
    have nonempty := first stop List.mem_cons_self
    have later := (List.pairwise_cons.1 sorted).1
    have between : ∀ range ∈ normalized, (range.start ≤ start ∨ stop ≤ range.start) ∧
        (range.endExclusive ≤ start ∨ stop ≤ range.endExclusive) := by
      have apart : ∀ x, x ≤ start ∨ x ∈ stop :: rest → x ≤ start ∨ stop ≤ x := by
        rintro x (before | member)
        · exact Or.inl before
        · rcases List.mem_cons.1 member with rfl | after
          · exact Or.inr le_rfl
          · exact Or.inr (later x after).le
      exact fun range member => (ends range member).imp (apart _) (apart _)
    have onward : ∀ x, x ≤ start ∨ x ∈ stop :: rest → x ≤ stop ∨ x ∈ rest := by
      rintro x (before | member)
      · exact Or.inl (before.trans nonempty.le)
      · rcases List.mem_cons.1 member with rfl | after
        · exact Or.inl le_rfl
        · exact Or.inr after
    rw [List.getLast_cons (List.cons_ne_nil _ _)]
    exact ih (swept.window between nonempty) sorted fun range member =>
      (ends range member).imp (onward _) (onward _)

end BusyBeaver
