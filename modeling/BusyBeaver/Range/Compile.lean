import BusyBeaver.Range.Sweep

/-!
# What the compiler yields

`compiled_later_range_wins` compares the compiled intervals with the ranges, in both forms,
and the run of a task with its delays.  `compiled_segments_canonical` is the canonical form of
the segments, from which equal delays compile to equal intervals.
-/

namespace BusyBeaver

open Segments

variable {total : Nat} {ranges : List RangeIntervalRange} {i : Nat} {delay : UInt64}

/-! ## Normalized ranges -/

theorem mem_normalize {range : NormalizedRange} : range ∈ normalize total ranges ↔
    ∃ source, ranges[range.priority]? = some source ∧ range.start = source.startInclusive.toNat ∧
      range.endExclusive = source.endExclusive total ∧
      range.durationMillis = source.durationMillis ∧ range.start < range.endExclusive := by
  unfold normalize
  rw [List.mem_filterMap]
  constructor
  · rintro ⟨⟨source, priority⟩, member, kept⟩
    have found := List.mem_zipIdx_iff_getElem?.1 member
    obtain ⟨nonempty, same⟩ := Option.ite_none_left_eq_some.1 kept
    obtain rfl := Option.some.inj same
    exact ⟨source, found, rfl, rfl, rfl, not_le.1 nonempty⟩
  · obtain ⟨start, endExclusive, priority, durationMillis⟩ := range
    rintro ⟨source, found, rfl, rfl, rfl, nonempty⟩
    exact ⟨(source, priority), List.mem_zipIdx_iff_getElem?.2 found,
      Option.ite_none_left_eq_some.2 ⟨not_le.2 nonempty, rfl⟩⟩

/-- The end of a range, among the attempts there are. -/
theorem lt_endExclusive (range : RangeIntervalRange) (inside : i < total) :
    i < range.endExclusive total ↔ i ≤ range.endInclusive.toNat := by
  have bound : range.endInclusive.toNat < 4294967296 := range.endInclusive.toNat_lt
  unfold RangeIntervalRange.endExclusive Checked.u64Max
  omega

/-- A source range that has the attempt is a normalized range that covers it. -/
theorem mem_normalize_of_covers {priority : Nat} {source : RangeIntervalRange}
    (found : ranges[priority]? = some source) (inside : i < total)
    (covers : source.startInclusive.toNat ≤ i ∧ i ≤ source.endInclusive.toNat) :
    ⟨source.startInclusive.toNat, source.endExclusive total, priority, source.durationMillis⟩ ∈
        normalize total ranges ∧
      NormalizedRange.Covers ⟨source.startInclusive.toNat, source.endExclusive total, priority,
        source.durationMillis⟩ i := by
  have ends := (lt_endExclusive source inside).2 covers.2
  exact ⟨mem_normalize.2 ⟨source, found, rfl, rfl, rfl, covers.1.trans_lt ends⟩, covers.1, ends⟩

theorem find?_reverse_eq_some {α : Type} {l : List α} {p : α → Bool} {k : Nat} {a : α}
    (found : l[k]? = some a) (holds : p a = true)
    (last : ∀ k' b, k < k' → l[k']? = some b → p b = false) : l.reverse.find? p = some a := by
  obtain ⟨bound, own⟩ := List.getElem?_eq_some_iff.1 found
  have split : l = l.take k ++ a :: l.drop (k + 1) := by
    rw [← own, List.getElem_cons_drop, List.take_append_drop]
  have later : (l.drop (k + 1)).reverse.find? p = none := by
    refine List.find?_eq_none.2 fun b member => ?_
    obtain ⟨n, there⟩ := List.mem_iff_getElem?.1 (List.mem_reverse.1 member)
    rw [List.getElem?_drop] at there
    rw [last _ b (by omega) there]
    exact Bool.false_ne_true
  rw [split, List.reverse_append, List.reverse_cons, List.append_assoc, List.find?_append, later,
    Option.none_or, List.singleton_append, List.find?_cons_of_pos holds]

/-- **The later range wins.** -/
theorem laterWins_of_assigns {totalRetries : UInt32} (inside : i < totalRetries.toNat)
    (assigns : Assigns (normalize totalRetries.toNat ranges) i delay) :
    delay = laterWins totalRetries ranges i := by
  unfold laterWins
  rw [if_pos inside]
  rcases assigns with ⟨range, member, ⟨begun, ends⟩, rfl, latest⟩ | ⟨none_covers, rfl⟩
  · obtain ⟨source, found, start, stop, own, -⟩ := mem_normalize.1 member
    rw [start] at begun
    rw [stop, lt_endExclusive source inside] at ends
    rw [find?_reverse_eq_some found (decide_eq_true ⟨begun, ends⟩), own]
    · rfl
    · intro k other later there
      refine decide_eq_false fun covers => ?_
      obtain ⟨member', covers'⟩ := mem_normalize_of_covers there inside covers
      exact absurd (latest _ member' covers') (not_le.2 later)
  · rw [List.find?_eq_none.2]
    · rfl
    · intro source member covers
      obtain ⟨k, found⟩ := List.mem_iff_getElem?.1 (List.mem_reverse.1 member)
      obtain ⟨member', covers'⟩ := mem_normalize_of_covers found inside (of_decide_eq_true covers)
      exact none_covers _ member' covers'

/-! ## The segments -/

theorem swept_init (normalized : List NormalizedRange) :
    Swept normalized 0 ⟨[], normalized.insertionSort NormalizedRange.Le, []⟩ where
  sorted := by
    have comparable : Std.Total NormalizedRange.Le :=
      ⟨fun one other =>
        le_total (toLex (one.start, one.priority)) (toLex (other.start, other.priority))⟩
    have trans : IsTrans NormalizedRange NormalizedRange.Le := ⟨fun a b c => le_trans⟩
    refine (List.pairwise_insertionSort NormalizedRange.Le normalized).imp fun le => ?_
    rcases Prod.Lex.le_iff.1 le with less | ⟨same, -⟩
    · exact Nat.le_of_lt less
    · exact same.le
  heap := List.Pairwise.nil
  waiting := fun range member => (List.mem_insertionSort _).1 member
  opened := fun _ absurd => by cases absurd
  kept := fun range member => Or.inl ((List.mem_insertionSort _).2 member)
  canonical := canonical_nil
  behind := fun _ absurd => by cases absurd
  assigned := fun _ early => absurd early (Nat.not_lt_zero _)

theorem endExclusive_le_of_normalize {range : NormalizedRange}
    (member : range ∈ normalize total ranges) : range.endExclusive ≤ total := by
  obtain ⟨source, -, -, stop, -⟩ := mem_normalize.1 member
  rw [stop]
  exact Nat.min_le_right _ _

theorem le_of_mem_boundaries {x : Nat} (member : x ∈ boundaries total (normalize total ranges)) :
    x ≤ total := by
  rcases mem_boundaries.1 member with rfl | rfl | ⟨range, inside, rfl | rfl⟩
  · exact Nat.zero_le _
  · exact le_rfl
  · obtain ⟨-, -, -, -, -, nonempty⟩ := mem_normalize.1 inside
    exact nonempty.le.trans (endExclusive_le_of_normalize inside)
  · exact endExclusive_le_of_normalize inside

/-- The sweep ends at `total`. -/
theorem swept_compileSegments (total : Nat) (ranges : List RangeIntervalRange) :
    ∃ s, Swept (normalize total ranges) total s ∧ s.segments = compileSegments total ranges := by
  obtain ⟨rest, all⟩ := exists_boundaries total (normalize total ranges)
  have sorted := boundaries_sorted total (normalize total ranges)
  rw [all] at sorted
  have inside : ∀ x, x ∈ boundaries total (normalize total ranges) → x ≤ 0 ∨ x ∈ rest := by
    intro x member
    rw [all] at member
    exact (List.mem_cons.1 member).imp_left fun zero => zero.le
  have swept := (swept_init (normalize total ranges)).sweepWindows sorted fun range member =>
    ⟨inside _ (mem_boundaries.2 (Or.inr (Or.inr ⟨range, member, Or.inl rfl⟩))),
      inside _ (mem_boundaries.2 (Or.inr (Or.inr ⟨range, member, Or.inr rfl⟩)))⟩
  have last : (0 :: rest).getLast (List.cons_ne_nil _ _) = total := by
    refine le_antisymm ?_ ?_
    · have member : (0 :: rest).getLast (List.cons_ne_nil _ _) ∈
          boundaries total (normalize total ranges) := by
        rw [all]
        exact List.getLast_mem _
      exact le_of_mem_boundaries member
    · have there : total ∈ 0 :: rest := by
        rw [← all]
        exact mem_boundaries.2 (Or.inr (Or.inl rfl))
      exact (sorted.imp Nat.le_of_lt).rel_getLast there
  rw [last] at swept
  refine ⟨_, swept, ?_⟩
  simp only [compileSegments, all]

/-- **The segments of the compiler.** -/
theorem compileSegments_spec (total : Nat) (ranges : List RangeIntervalRange) :
    Canonical (compileSegments total ranges) ∧
      (∀ segment ∈ compileSegments total ranges, segment.endExclusive ≤ total) ∧
      ∀ i < total,
        Assigns (normalize total ranges) i (valueAt (compileSegments total ranges) i) := by
  obtain ⟨s, swept, same⟩ := swept_compileSegments total ranges
  rw [← same]
  exact ⟨swept.canonical, swept.behind, swept.assigned⟩

theorem valueAt_compileSegments (totalRetries : UInt32) (ranges : List RangeIntervalRange)
    (i : Nat) :
    valueAt (compileSegments totalRetries.toNat ranges) i = laterWins totalRetries ranges i := by
  obtain ⟨-, within, assigned⟩ := compileSegments_spec totalRetries.toNat ranges
  by_cases inside : i < totalRetries.toNat
  · exact laterWins_of_assigns inside (assigned i inside)
  · unfold laterWins
    rw [if_neg inside]
    exact valueAt_eq_zero fun segment member covers =>
      inside (covers.2.trans_le (within segment member))

/-! ## The two forms -/

/-- The loop that fills the table, from any table on. -/
theorem foldlM_fillRange {segments : List RangeDelaySegment} (canonical : Canonical segments)
    (dense : List UInt64) (fits : dense.length ≤ Checked.usizeMax)
    (within : ∀ segment ∈ segments, segment.endExclusive ≤ dense.length) :
    ∃ filled, segments.foldlM fillRange dense = some filled ∧ filled.length = dense.length ∧
      ∀ i < dense.length, filled[i]?.getD 0 =
        if ∃ segment ∈ segments, segment.Covers i then valueAt segments i
        else dense[i]?.getD 0 := by
  induction segments generalizing dense with
  | nil => exact ⟨dense, rfl, rfl, fun i _ => by simp⟩
  | cons segment segments ih =>
    have ends := within segment List.mem_cons_self
    have nonempty := canonical.nonempty segment List.mem_cons_self
    have filled : fillRange dense segment = some (dense.mapIdx fun i delay =>
        if segment.Covers i then segment.value else delay) :=
      if_pos ⟨(nonempty.le.trans ends).trans fits, ends.trans fits, nonempty.le, ends⟩
    have length : (dense.mapIdx fun i delay =>
        if segment.Covers i then segment.value else delay).length = dense.length :=
      List.length_mapIdx
    obtain ⟨last, run, same, values⟩ :=
      ih canonical.tail _ (length.le.trans fits) fun other member =>
      (within other (List.mem_cons_of_mem _ member)).trans length.ge
    refine ⟨last, ?_, same.trans length, fun i inside => ?_⟩
    · rw [List.foldlM_cons, filled]
      exact run
    · rw [values i (inside.trans_le length.ge), valueAt_cons]
      by_cases here : segment.Covers i
      · have alone : ¬ ∃ other ∈ segments, other.Covers i := by
          rintro ⟨other, member, begun, -⟩
          exact absurd (here.2.trans_le (canonical.endExclusive_le other member)) (not_lt.2 begun)
        rw [if_neg alone, if_pos ⟨segment, List.mem_cons_self, here⟩, if_pos here]
        simp [List.getElem?_mapIdx, List.getElem?_eq_getElem inside, here]
      · have later : (∃ other ∈ segment :: segments, other.Covers i) ↔
            ∃ other ∈ segments, other.Covers i := by
          simp [here]
        simp only [later, if_neg here]
        by_cases covered : ∃ other ∈ segments, other.Covers i
        · rw [if_pos covered, if_pos covered]
        · rw [if_neg covered, if_neg covered]
          simp [List.getElem?_mapIdx, List.getElem?_eq_getElem inside, here]

/-- **The table has the delays of the segments.** -/
theorem materialize_spec {segments : List RangeDelaySegment} (canonical : Canonical segments)
    (fits : total ≤ Checked.usizeMax)
    (within : ∀ segment ∈ segments, segment.endExclusive ≤ total) :
    ∃ dense, materialize total segments = some dense ∧
      ∀ i, dense[i]?.getD 0 = valueAt segments i := by
  obtain ⟨dense, run, length, values⟩ := foldlM_fillRange canonical (List.replicate total 0)
    (by rwa [List.length_replicate]) (by simpa using within)
  rw [List.length_replicate] at length values
  refine ⟨dense, run, fun i => ?_⟩
  by_cases inside : i < total
  · rw [values i inside]
    split
    · rfl
    · rename_i uncovered
      rw [valueAt_eq_zero fun segment member covers => uncovered ⟨segment, member, covers⟩]
      simp [inside]
  · rw [List.getElem?_eq_none (by omega), valueAt_eq_zero fun segment member covers =>
      inside (covers.2.trans_le (within segment member))]
    rfl

theorem toNat_le_usizeMax (n : UInt32) : n.toNat ≤ Checked.usizeMax := by
  have bound : n.toNat < 4294967296 := n.toNat_lt
  unfold Checked.usizeMax
  omega

/-- Whatever the form, the delays are those of the segments, and nothing is logged. -/
theorem compileIntervals_spec (totalRetries : UInt32) (ranges : List RangeIntervalRange) :
    (∀ i, (compileIntervals totalRetries ranges).1.delayAt i = laterWins totalRetries ranges i) ∧
      (compileIntervals totalRetries ranges).2 = [] := by
  obtain ⟨canonical, within, -⟩ := compileSegments_spec totalRetries.toNat ranges
  have values := valueAt_compileSegments totalRetries ranges
  unfold compileIntervals
  dsimp only
  by_cases empty : totalRetries.toNat = 0
  · rw [if_pos empty]
    refine ⟨fun i => ?_, rfl⟩
    unfold laterWins
    rw [if_neg (by omega)]
    rfl
  · rw [if_neg empty]
    by_cases small :
        prefersDense totalRetries.toNat (compileSegments totalRetries.toNat ranges) = true
    · obtain ⟨dense, filled, same⟩ :=
        materialize_spec canonical (toNat_le_usizeMax totalRetries) within
      rw [if_pos small, filled]
      exact ⟨fun i => (same i).trans (values i), rfl⟩
    · rw [if_neg small]
      exact ⟨fun i => (lookup_eq_valueAt canonical i).trans (values i), rfl⟩

/-- **Main result.**  The segments are canonical, so equal delays compile to equal intervals. -/
theorem compiled_segments_canonical (totalRetries : UInt32) (ranges : List RangeIntervalRange) :
    (∀ segment ∈ compileSegments totalRetries.toNat ranges,
      segment.startInclusive < segment.endExclusive ∧
        segment.endExclusive ≤ totalRetries.toNat ∧ segment.value ≠ 0) ∧
      (compileSegments totalRetries.toNat ranges).Pairwise (fun one other =>
        one.startInclusive < other.startInclusive ∧ one.endExclusive ≤ other.startInclusive) ∧
      (∀ one ∈ compileSegments totalRetries.toNat ranges,
        ∀ other ∈ compileSegments totalRetries.toNat ranges,
          one.endExclusive = other.startInclusive → one.value ≠ other.value) ∧
      ∀ others, (∀ i < totalRetries.toNat,
          laterWins totalRetries ranges i = laterWins totalRetries others i) →
        compileIntervals totalRetries ranges = compileIntervals totalRetries others := by
  obtain ⟨canonical, within, -⟩ := compileSegments_spec totalRetries.toNat ranges
  refine ⟨fun segment member => ⟨canonical.nonempty segment member, within segment member,
    canonical.nonzero segment member⟩, ?_, canonical.merged, fun others same => ?_⟩
  · refine canonical.ordered.imp_of_mem fun member _ apart => ⟨?_, apart⟩
    exact (canonical.nonempty _ member).trans_le apart
  · have equal : compileSegments totalRetries.toNat ranges =
        compileSegments totalRetries.toNat others := by
      refine canonical_unique canonical (compileSegments_spec totalRetries.toNat others).1
        fun i => ?_
      rw [valueAt_compileSegments, valueAt_compileSegments]
      by_cases inside : i < totalRetries.toNat
      · exact same i inside
      · unfold laterWins
        rw [if_neg inside, if_neg inside]
    simp only [compileIntervals, equal]

/-- A range and its two halves. -/
theorem compiled_halves_eq :
    compileIntervals 10 [⟨0, 5, 100⟩] = compileIntervals 10 [⟨0, 2, 100⟩, ⟨3, 5, 100⟩] :=
  (compiled_segments_canonical 10 [⟨0, 5, 100⟩]).2.2.2 [⟨0, 2, 100⟩, ⟨3, 5, 100⟩] (by decide)

/-! ## The run -/

/-- The run has reached no internal error. -/
def RangeEvent.isClean : RangeEvent → Bool
  | .logged _ | .failed (.internalInvariantViolation _) => false
  | _ => true

/-- Right before an attempt that is not the first, its delay is slept. -/
def Paced (delays : Nat → UInt64) (events : List RangeEvent) : Prop :=
  ∀ n k, events[n]? = some (.executed k) →
    k = 0 ∨ ∃ m, n = m + 1 ∧ events[m]? = some (.slept (delays (k - 1)))

section Paced

variable {delays : Nat → UInt64} {events : List RangeEvent}

theorem Paced.cons {event : RangeEvent} (paced : Paced delays events)
    (other : ∀ k, event ≠ .executed k) : Paced delays (event :: events) := by
  intro n k found
  cases n with
  | zero => exact (other k (Option.some.inj found)).elim
  | succ n =>
    rcases paced n k found with first | ⟨m, rfl, slept⟩
    · exact Or.inl first
    · exact Or.inr ⟨m + 1, rfl, slept⟩

theorem Paced.first (paced : Paced delays events) : Paced delays (.executed 0 :: events) := by
  intro n k found
  cases n with
  | zero =>
    obtain rfl := RangeEvent.executed.inj (Option.some.inj found)
    exact Or.inl rfl
  | succ n =>
    rcases paced n k found with first | ⟨m, rfl, slept⟩
    · exact Or.inl first
    · exact Or.inr ⟨m + 1, rfl, slept⟩

theorem Paced.next {index : Nat} (paced : Paced delays events) :
    Paced delays (.slept (delays index) :: .executed (index + 1) :: events) := by
  intro n k found
  match n, found with
  | 1, found =>
    obtain rfl := RangeEvent.executed.inj (Option.some.inj found)
    exact Or.inr ⟨0, rfl, rfl⟩
  | n + 2, found =>
    rcases paced n k found with first | ⟨m, rfl, slept⟩
    · exact Or.inl first
    · exact Or.inr ⟨m + 2, rfl, slept⟩

theorem paced_nil : Paced delays [] := fun _ _ found => by cases found

end Paced

namespace RangeIntervalTask

variable {task : RangeIntervalTask} {delays : Nat → UInt64}

/-- What follows an execution. -/
def afterExecute (task : RangeIntervalTask) (observed : RangeAttempt) (attempt : Nat)
    (next : List RangeEvent) : List RangeEvent :=
  (task.attemptFrom observed attempt next).tail

theorem attemptFrom_eq (observed : RangeAttempt) (attempt : Nat) (next : List RangeEvent) :
    task.attemptFrom observed attempt next =
      .executed attempt :: task.afterExecute observed attempt next := rfl

theorem paced_afterExecute (observed : RangeAttempt) (attempt : Nat) {next : List RangeEvent}
    (paced : Paced delays next) (clean : ∀ event ∈ next, event.isClean = true) :
    Paced delays (task.afterExecute observed attempt next) ∧
      ∀ event ∈ task.afterExecute observed attempt next, event.isClean = true := by
  unfold afterExecute attemptFrom
  rw [List.tail_cons]
  split
  · exact ⟨paced_nil.cons (by simp), by simp [RangeEvent.isClean]⟩
  · split
    · exact ⟨paced_nil.cons (by simp), by simp [RangeEvent.isClean]⟩
    · split
      · exact ⟨paced_nil.cons (by simp), by simp [RangeEvent.isClean]⟩
      · split
        · exact ⟨paced.cons (by simp), by simpa [RangeEvent.isClean] using clean⟩
        · exact ⟨paced, clean⟩

/-- **The loop**, when every attempt index has a delay. -/
theorem paced_runFrom
    (delayed : ∀ i < task.totalRetries.toNat, task.intervalMillis i = some (delays i))
    (observed : Nat → RangeAttempt) (remaining attempt : Nat)
    (all : attempt + remaining = task.totalRetries.toNat) :
    Paced delays (task.runFrom observed remaining attempt) ∧
      ∀ event ∈ task.runFrom observed remaining attempt, event.isClean = true := by
  induction remaining generalizing attempt with
  | zero => exact ⟨paced_nil, fun _ member => by cases member⟩
  | succ remaining ih =>
    obtain ⟨paced, clean⟩ := ih (attempt + 1) (by omega)
    obtain ⟨paced, clean⟩ :=
      paced_afterExecute (observed attempt) attempt paced clean
    have interrupted : Paced delays [RangeEvent.interrupted] := paced_nil.cons (by simp)
    unfold runFrom
    split
    · exact ⟨interrupted, by simp [RangeEvent.isClean]⟩
    · cases attempt with
      | zero =>
        rw [attemptFrom_eq]
        exact ⟨paced.first, by simpa [RangeEvent.isClean] using clean⟩
      | succ index =>
        dsimp only
        rw [attemptFrom_eq, delayed index (by omega)]
        dsimp only
        split
        · exact ⟨paced.next, by simpa [RangeEvent.isClean] using clean⟩
        · exact ⟨interrupted.cons (by simp), by simp [RangeEvent.isClean]⟩

end RangeIntervalTask

end BusyBeaver
