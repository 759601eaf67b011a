import BusyBeaver.Lib.Checked
import BusyBeaver.Lib.Segments
import Mathlib.Data.List.Destutter
import Mathlib.Data.Prod.Lex
import Mathlib.Data.UInt

/-!
# Range-interval tasks

A range-interval task (`src/range_interval_task.rs`) is given its delays as ranges of attempt
indices, of which a later one overwrites the earlier.  `compileIntervals` turns the ranges
into a table, or into segments where these are smaller: a sweep over the sorted boundaries
with the open ranges in a heap, the latest on top.

Positions are `u64` values and stay below `u32::MAX + 1`; the lengths of vectors are far
below `usize::MAX`, so the index of the sweep is the list of the ranges it has not passed.
-/

namespace BusyBeaver

open Segments

structure RangeIntervalRange : Type where
  startInclusive : UInt32
  endInclusive : UInt32
  durationMillis : UInt64
  deriving DecidableEq, Repr

/-- The value of a segment is its delay in milliseconds. -/
abbrev RangeDelaySegment : Type := Segment Nat UInt64

inductive RangeIntervals : Type
  | dense (intervals : List UInt64)
  | segments (segments : List RangeDelaySegment)
  deriving DecidableEq, Repr

def RangeIntervals.delayAt (intervals : RangeIntervals) (attemptIndex : Nat) : UInt64 :=
  match intervals with
  | .dense intervals => intervals[attemptIndex]?.getD 0
  | .segments found => lookup found attemptIndex

/-! ## Ranges -/

/-- A range that is clamped and not empty; its priority is its place in the list. -/
structure NormalizedRange : Type where
  start : Nat
  endExclusive : Nat
  priority : Nat
  durationMillis : UInt64
  deriving DecidableEq, Repr

def NormalizedRange.Covers (range : NormalizedRange) (i : Nat) : Prop :=
  range.start ≤ i ∧ i < range.endExclusive

/-- The end of a range, clamped to `total`. -/
def RangeIntervalRange.endExclusive (range : RangeIntervalRange) (total : Nat) : Nat :=
  min (min (range.endInclusive.toNat + 1) Checked.u64Max) total

def normalize (total : Nat) (ranges : List RangeIntervalRange) : List NormalizedRange :=
  ranges.zipIdx.filterMap fun (range, priority) =>
    if range.startInclusive.toNat ≥ range.endExclusive total then none
    else
      some ⟨range.startInclusive.toNat, range.endExclusive total, priority, range.durationMillis⟩

/-- `sort_unstable`, `dedup`. -/
def boundaries (total : Nat) (normalized : List NormalizedRange) : List Nat :=
  ((0 :: total :: normalized.flatMap fun range => [range.start, range.endExclusive]).insertionSort
    (· ≤ ·)).destutter (· ≠ ·)

def NormalizedRange.Le (one other : NormalizedRange) : Prop :=
  toLex (one.start, one.priority) ≤ toLex (other.start, other.priority)

instance : DecidableRel NormalizedRange.Le := fun one other =>
  inferInstanceAs (Decidable
    (toLex (one.start, one.priority) ≤ toLex (other.start, other.priority)))

/-! ## The sweep -/

/-- An item of the heap. -/
structure ActiveRange : Type where
  priority : Nat
  rangeEnd : Nat
  durationMillis : UInt64
  deriving DecidableEq, Repr

/-- The order of the tuples in the heap. -/
def ActiveRange.key (range : ActiveRange) : Nat ×ₗ Nat ×ₗ Nat :=
  toLex (range.priority, toLex (range.rangeEnd, range.durationMillis.toNat))

/-- The greater item is nearer to the top. -/
def ActiveRange.Above (one other : ActiveRange) : Prop := other.key ≤ one.key

instance : DecidableRel ActiveRange.Above := fun one other =>
  inferInstanceAs (Decidable (other.key ≤ one.key))

/-- `BinaryHeap::push`; a heap is the list of its items from the top. -/
def pushActive (range : ActiveRange) (active : List ActiveRange) : List ActiveRange :=
  active.orderedInsert ActiveRange.Above range

/-- The ranges that have started by `start` are pushed. -/
def admitRanges (start : Nat) :
    List NormalizedRange → List ActiveRange → List NormalizedRange × List ActiveRange
  | [], active => ([], active)
  | range :: ranges, active =>
    if range.start ≤ start then
      admitRanges start ranges
        (pushActive ⟨range.priority, range.endExclusive, range.durationMillis⟩ active)
    else (range :: ranges, active)

/-- Ranges are popped until the top has not ended. -/
def purgeActive (start : Nat) : List ActiveRange → List ActiveRange
  | [] => []
  | top :: active => if top.rangeEnd ≤ start then purgeActive start active else top :: active

structure RangeSweep : Type where
  active : List ActiveRange
  /-- The ranges from `next_range` on. -/
  ranges : List NormalizedRange
  segments : List RangeDelaySegment

/-- One window of the boundaries. -/
def RangeSweep.window (s : RangeSweep) (start endExclusive : Nat) : RangeSweep :=
  let (ranges, active) := admitRanges start s.ranges s.active
  let active := purgeActive start active
  let durationMillis := active.head?.elim 0 ActiveRange.durationMillis
  if durationMillis = 0 ∨ start ≥ endExclusive then
    { active := active, ranges := ranges, segments := s.segments }
  else
    { active := active
      ranges := ranges
      segments := extend s.segments start endExclusive durationMillis }

/-- `boundaries.windows(2)`. -/
def sweepWindows : List Nat → RangeSweep → RangeSweep
  | start :: endExclusive :: rest, s =>
    sweepWindows (endExclusive :: rest) (s.window start endExclusive)
  | _, s => s

/-- The segments of `compile_intervals`. -/
def compileSegments (total : Nat) (ranges : List RangeIntervalRange) : List RangeDelaySegment :=
  let normalized := normalize total ranges
  (sweepWindows (boundaries total normalized)
    ⟨[], normalized.insertionSort NormalizedRange.Le, []⟩).segments

/-! ## The two forms -/

/-- `dense.get_mut(start..end)?.fill(duration)`. -/
def fillRange (dense : List UInt64) (segment : RangeDelaySegment) : Option (List UInt64) :=
  if segment.startInclusive ≤ Checked.usizeMax ∧ segment.endExclusive ≤ Checked.usizeMax ∧
      segment.startInclusive ≤ segment.endExclusive ∧ segment.endExclusive ≤ dense.length then
    some (dense.mapIdx fun i delay => if segment.Covers i then segment.value else delay)
  else none

/-- The table, when every segment fits. -/
def materialize (total : Nat) (segments : List RangeDelaySegment) : Option (List UInt64) :=
  segments.foldlM fillRange (List.replicate total 0)

/-- `size_of::<u64>()` and `size_of::<RangeDelaySegment>()`. -/
def u64Bytes : Nat := 8
def segmentBytes : Nat := 24

/-- A table is not larger than the segments, or small. -/
def prefersDense (total : Nat) (segments : List RangeDelaySegment) : Bool :=
  let denseBytes := (Checked.mul Checked.usizeMax total u64Bytes).getD Checked.usizeMax
  let bytes := (Checked.mul Checked.usizeMax segments.length segmentBytes).getD Checked.usizeMax
  decide (total ≤ 4096 ∨ denseBytes ≤ bytes)

/-- The compiled intervals, and the internal errors that are logged. -/
def compileIntervals (totalRetries : UInt32) (ranges : List RangeIntervalRange) :
    RangeIntervals × List String :=
  let total := totalRetries.toNat
  if total = 0 then (.dense [], [])
  else
    let segments := compileSegments total ranges
    if prefersDense total segments then
      match materialize total segments with
      | some dense => (.dense dense, [])
      | none => (.segments segments, ["BB-RANGE-DENSE-MATERIALIZATION-FAILED"])
    else (.segments segments, [])

/-! ## The task -/

structure RangeIntervalTask : Type where
  totalRetries : UInt32
  intervals : RangeIntervals
  deriving DecidableEq, Repr

def RangeIntervalTask.intervalMillis (task : RangeIntervalTask) (attemptIndex : Nat) :
    Option UInt64 :=
  if attemptIndex ≥ task.totalRetries.toNat then none
  else some (task.intervals.delayAt attemptIndex)

/-! ## The run -/

/-- What `run_range_interval` observes at an attempt. -/
structure RangeAttempt : Type where
  cancelledBefore : Bool
  /-- The answer of the sleep. -/
  slept : Bool
  panics : Bool
  cancelledAfter : Bool
  needRetry : Bool

inductive RangeRuntimeError : Type
  | retriesExhausted
  | internalInvariantViolation (code : String)
  deriving DecidableEq, Repr

inductive RangeEvent : Type
  | slept (millis : UInt64)
  | executed (attempt : Nat)
  | interrupted
  | completed
  | failed (error : RangeRuntimeError)
  | logged (code : String)
  | panicked
  deriving DecidableEq, Repr

namespace RangeIntervalTask

/-- From `work.execute()` on; `next` is the loop from the following attempt on. -/
def attemptFrom (task : RangeIntervalTask) (observed : RangeAttempt) (attempt : Nat)
    (next : List RangeEvent) : List RangeEvent :=
  .executed attempt ::
    if observed.panics then [.panicked]
    else if observed.cancelledAfter then [.interrupted]
    else if !observed.needRetry then [.completed]
    else if attempt + 1 = task.totalRetries.toNat then .failed .retriesExhausted :: next
    else next

/-- The last `remaining` attempts. -/
def runFrom (task : RangeIntervalTask) (observed : Nat → RangeAttempt) :
    Nat → Nat → List RangeEvent
  | 0, _ => []
  | remaining + 1, attempt =>
    if (observed attempt).cancelledBefore then [.interrupted]
    else
      let execute :=
        task.attemptFrom (observed attempt) attempt (task.runFrom observed remaining (attempt + 1))
      match attempt with
      | 0 => execute
      | intervalIndex + 1 =>
        match task.intervalMillis intervalIndex with
        | none =>
          [.logged "BB-RANGE-INTERVAL-MISSING",
            .failed (.internalInvariantViolation "BB-RANGE-INTERVAL-MISSING")]
        | some millis =>
          .slept millis :: if (observed attempt).slept then execute else [.interrupted]

/-- `run_range_interval`. -/
def run (task : RangeIntervalTask) (observed : Nat → RangeAttempt) : List RangeEvent :=
  task.runFrom observed task.totalRetries.toNat 0

end RangeIntervalTask

/-- The delay of an attempt: the last range that has it decides. -/
def laterWins (totalRetries : UInt32) (ranges : List RangeIntervalRange) (i : Nat) : UInt64 :=
  if i < totalRetries.toNat then
    (ranges.reverse.find? fun range =>
      decide (range.startInclusive.toNat ≤ i ∧ i ≤ range.endInclusive.toNat)).elim 0
        RangeIntervalRange.durationMillis
  else 0

end BusyBeaver
