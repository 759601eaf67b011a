import BusyBeaver.Recurring.FixedRate

/-!
# A schedule that has skipped

A head of the loop is `Level` with the grid as long as its tick is the nominal one of its number.
Skipping puts it ahead of its number, and it stays ahead: the next target is still computed from
the number, so what `next_target` counts as missed includes the points that were skipped before
(`missed_ticks_counted_once_iff`), and a burst after a resume goes back to a point that has been
passed (`skip_missed_increases_iff`).
-/

namespace BusyBeaver

open Transition

variable {T E F : Type}

/-- The tick is before the nominal point of its number. -/
def RecurringLoop.Level (anchor : Instant) (interval : Duration) (s : RecurringLoop) : Prop :=
  s.scheduledAt < anchor + interval * s.tick

section Counts

variable [FloatOps F] {spec : RecurringSpec F} {maxInstant anchor clock : Instant} {epoch : Nat}
  {interval : Duration} {s after : RecurringLoop} {observed : TickObserved T E}
  {ticks before : List (TickObserved T E)}

theorem level_first (anchor : Instant) (epoch : Nat) (positive : 0 < interval) :
    (RecurringLoop.first anchor epoch).Level anchor interval := by
  rw [RecurringLoop.Level, RecurringLoop.first]
  exact Nat.lt_add_of_pos_right (by simpa using positive)

theorem point_lt_iff (positive : 0 < interval) {m n : Nat} :
    anchor + m * interval < anchor + interval * n ↔ m < n := by
  rw [Nat.mul_comm interval, Nat.add_lt_add_iff_left, Nat.mul_lt_mul_right positive]

theorem points_between (positive : 0 < interval) (m n : Nat) :
    (anchor + interval * n - (anchor + m * interval)) / interval = n - m := by
  rw [Nat.add_sub_add_left, Nat.mul_comm interval, ← Nat.sub_mul, Nat.mul_div_cancel _ positive]

/-- What is counted as missed is right for a head that is level; the next head is level if the
tick was on time, and then this one was. -/
theorem OnGrid.counts (grid : OnGrid anchor interval epoch clock s) (rate : spec.OnRate interval)
    (skip : spec.schedule.missedTickPolicy = .skip) (quiet : observed.Unresumed epoch)
    (ordered : observed.Ordered clock)
    (step : (recurringLoop spec maxInstant anchor epoch).step s observed = some after)
    (next : after.tick = s.tick + 1) :
    (after.observedMissedTicks = (after.scheduledAt - s.scheduledAt) / interval - 1 ↔
      s.Level anchor interval) ∧
    (after.Level anchor interval ↔ observed.targetNow < anchor + interval * s.tick) ∧
    (after.Level anchor interval → s.Level anchor interval) := by
  obtain ⟨m, behind, at_⟩ := grid.point
  have since : anchor + m * interval ≤ observed.targetNow :=
    at_ ▸ Nat.le_trans grid.reached ordered.le_targetNow
  have level : s.Level anchor interval ↔ m < s.tick := by
    rw [RecurringLoop.Level, at_, point_lt_iff rate.positive]
  have levelAfter : after.Level anchor interval ↔
      after.scheduledAt < anchor + interval * (s.tick + 1) := by
    rw [RecurringLoop.Level, next]
  rw [levelAfter, level, at_]
  rcases rate.returns (fun _ => quiet.2) step with ⟨restarts, rfl⟩ | ⟨-, target, -, -⟩
  · exact absurd next (Nat.ne_of_lt (Nat.lt_succ_self _))
  rw [RecurringSpec.targetAfter] at target
  rcases nextTarget_fixedRate rate.plan rate.positive (grid.waits _ quiet _) maxInstant anchor
      s.tick
    with ⟨-, found⟩ | ⟨-, code, failed⟩
  · rw [found, Schedule.missedPolicy, grid.waits _ quiet, skip] at target
    by_cases early : observed.targetNow < anchor + interval * s.tick
    · rw [if_pos early] at target
      obtain ⟨point, count⟩ := Prod.mk.inj (Option.some.inj (Except.ok.inj target))
      have beyond : m < s.tick :=
        (point_lt_iff rate.positive).1 (Nat.lt_of_le_of_lt since early)
      rw [← point, ← count, points_between rate.positive]
      refine ⟨⟨fun _ => beyond, fun _ => by omega⟩, ⟨fun _ => early, fun _ => ?_⟩, fun _ => beyond⟩
      exact Nat.add_lt_add_left (Nat.mul_lt_mul_of_pos_left (Nat.lt_succ_self _) rate.positive) _
    · rw [if_neg early] at target
      rcases missedTarget_skip maxInstant interval observed.finishedAt
        (anchor + interval * s.tick) observed.targetNow with ⟨-, missed⟩ | ⟨-, code, failed⟩
      · obtain ⟨point, count⟩ :=
          Prod.mk.inj (Option.some.inj (Except.ok.inj (missed.symm.trans target)))
        have positive : 0 < after.observedMissedTicks := count ▸ Nat.succ_pos _
        rw [count, Nat.add_assoc, ← Nat.mul_add] at point
        have later : s.scheduledAt < after.scheduledAt := by
          rcases (grid.of_step rate skip quiet ordered step).2.1 with ⟨same, -⟩ | ⟨-, later⟩
          · exact absurd (next.symm.trans same) (Nat.succ_ne_self _)
          · exact later
        rw [at_, ← point] at later
        have beyond := (point_lt_iff rate.positive).1 later
        have ahead : ¬ anchor + interval * (s.tick + after.observedMissedTicks) <
            anchor + interval * (s.tick + 1) :=
          Nat.not_lt.2 (Nat.add_le_add_left (Nat.mul_le_mul_left _ (by omega)) _)
        rw [← point, points_between rate.positive]
        refine ⟨by omega, ⟨fun level => absurd level ahead, fun on => absurd on early⟩,
          fun level => absurd level ahead⟩
      · cases failed.symm.trans target
  · cases failed.symm.trans target

/-- A head that is ahead of the grid stays ahead. -/
theorem RecurringSpec.Timely.level_of_later {middle : List (TickObserved T E)}
    {observed' : TickObserved T E} (timely : spec.Timely maxInstant anchor epoch ticks)
    (rate : spec.OnRate interval) (skip : spec.schedule.missedTickPolicy = .skip)
    (quiet : ∀ observed ∈ ticks, observed.Unresumed epoch)
    (first : ComesTo spec maxInstant anchor epoch ticks before observed s)
    (second : ComesTo spec maxInstant anchor epoch ticks (before ++ middle) observed' after)
    (level : after.Level anchor interval) : s.Level anchor interval := by
  refine first.carries (R := fun _ x => x.Level anchor interval → s.Level anchor interval) ?_ second
    id level
  intro as o x y comes step earlier level
  rcases restarted_or_next step with ⟨restarts, rfl⟩ | next
  · exact earlier level
  · obtain ⟨clock, grid, ordered⟩ := timely.onGrid rate skip quiet comes
    exact earlier ((grid.counts rate skip (quiet o comes.mem) ordered step next).2.2 level)

/-- **Main result.**  The missed ticks are counted right, all along the run, if and only if every
tick that is followed by two more was on time. -/
theorem missed_ticks_counted_once_iff {spec : RecurringSpec F} {interval : Duration}
    (rate : spec.OnRate interval) (skip : spec.schedule.missedTickPolicy = .skip)
    (maxInstant anchor : Instant) (epoch : Nat) (ticks : List (TickObserved T E))
    (quiet : ∀ observed ∈ ticks, observed.Unresumed epoch)
    (timely : spec.Timely maxInstant anchor epoch ticks) :
    (∀ before middle observed observed' s after,
      ComesTo spec maxInstant anchor epoch ticks before observed s →
      ComesTo spec maxInstant anchor epoch ticks (before ++ middle) observed' after →
        observed'.stopBefore = none → after.tick = s.tick + 1 →
          after.observedMissedTicks = (after.scheduledAt - s.scheduledAt) / interval - 1) ↔
    ∀ before middle observed observed' s after,
      ComesTo spec maxInstant anchor epoch ticks before observed s →
      (spec.asks maxInstant s observed).isSome →
      ComesTo spec maxInstant anchor epoch ticks (before ++ middle) observed' after →
        observed'.stopBefore = none → s.tick + 2 ≤ after.tick →
          observed.targetNow < anchor + interval * s.tick := by
  have counts {before : List (TickObserved T E)} {o : TickObserved T E} {x y : RecurringLoop}
      (comes : ComesTo spec maxInstant anchor epoch ticks before o x)
      (step : (recurringLoop spec maxInstant anchor epoch).step x o = some y)
      (next : y.tick = x.tick + 1) :
      (y.observedMissedTicks = (y.scheduledAt - x.scheduledAt) / interval - 1 ↔
        x.Level anchor interval) ∧
      (y.Level anchor interval ↔ o.targetNow < anchor + interval * x.tick) := by
    obtain ⟨clock, grid, ordered⟩ := timely.onGrid rate skip quiet comes
    obtain ⟨right, level, -⟩ := grid.counts rate skip (quiet o comes.mem) ordered step next
    exact ⟨right, level⟩
  constructor
  · intro right before middle observed observed' s after first asks second run later
    by_contra late
    obtain ⟨rest, o, y, rfl, comes, step⟩ := first.next second (by omega)
    have next := next_of_asks asks step
    -- the last tick before `after` is ahead of the grid as well, so its count is wrong
    rw [← List.singleton_append, ← List.append_assoc] at second
    obtain ⟨middle', o', x, z, ⟨more, rfl⟩, comes', step', next', restarts, rfl⟩ :=
      comes.scheduled second (by omega)
    rw [List.append_assoc middle', ← List.append_assoc] at second
    have counted := right _ _ _ _ _ _ comes' second run next'
    have level := (counts comes' step' next').1.1 counted
    exact late ((counts first step next).2.1
      (timely.level_of_later rate skip quiet comes comes' level))
  · intro onTime before middle observed observed' s after first second run next
    obtain ⟨middle', o', x, z, ⟨more, rfl⟩, comes', step', next', restarts, rfl⟩ :=
      first.scheduled second (by omega)
    have same : x.tick = s.tick := by
      dsimp only at next
      omega
    obtain ⟨restarts', rfl⟩ := (first.same_tick comes').2 same
    refine (counts comes' step' next').1.2 (show s.Level anchor interval from ?_)
    obtain ⟨o, start⟩ := first.first
    rcases Nat.eq_or_lt_of_le (start.same_tick first).1 with initial | later
    · obtain ⟨restarts'', rfl⟩ := (start.same_tick first).2 initial.symm
      exact level_first anchor epoch rate.positive
    · -- the tick before this one was on time, so this one is level
      obtain ⟨middle'', o'', w, v, ⟨more', rfl⟩, comes'', step'', next'', restarts'', rfl⟩ :=
        start.scheduled first later
      simp only [List.nil_append, List.append_assoc] at comes'' second
      have on := onTime _ _ _ _ _ _ comes'' (asks_of_next step'' next'') second run (by
        dsimp only at next ⊢
        omega)
      exact (counts comes'' step'' next'').2.2 on

end Counts

/-- The first tick takes until 25, and two points are missed; the second one, at 30, is over at
31, and the third, at 40, is told that two points were missed. -/
theorem missed_ticks_counted_twice :
    ∃ s after, ComesTo (everyTen .skip .continue) 1000 0 0
        [nextTick 25 0, nextTick 31 0, nextTick 41 0] [nextTick 25 0] (nextTick 31 0) s ∧
      ComesTo (everyTen .skip .continue) 1000 0 0 [nextTick 25 0, nextTick 31 0, nextTick 41 0]
        [nextTick 25 0, nextTick 31 0] (nextTick 41 0) after ∧
      (everyTen .skip .continue).Timely 1000 0 0 [nextTick 25 0, nextTick 31 0, nextTick 41 0] ∧
      after.tick = s.tick + 1 ∧ after.observedMissedTicks = 2 ∧
        (after.scheduledAt - s.scheduledAt) / 10 - 1 = 0 :=
  ⟨⟨30, 2, 2, 0, [], 0⟩, ⟨40, 3, 2, 0, [], 0⟩, ⟨⟨[nextTick 41 0], rfl⟩, rfl⟩, ⟨⟨[], rfl⟩, rfl⟩,
    ⟨by decide, by decide, by decide, trivial⟩, rfl, rfl, rfl⟩

/-- A first tick that takes until 25 makes the counts of that run wrong. -/
theorem missed_ticks_counted_once_iff_late :
    ¬ ∀ before middle (observed observed' : TickObserved Nat Nat) s after,
      ComesTo (everyTen .skip .continue) 1000 0 0 [nextTick 25 0, nextTick 31 0, nextTick 41 0]
        before observed s →
      ComesTo (everyTen .skip .continue) 1000 0 0 [nextTick 25 0, nextTick 31 0, nextTick 41 0]
        (before ++ middle) observed' after →
        observed'.stopBefore = none → after.tick = s.tick + 1 →
          after.observedMissedTicks = (after.scheduledAt - s.scheduledAt) / 10 - 1 := by
  intro right
  have quiet : ∀ observed ∈ [nextTick 25 0, nextTick 31 0, nextTick 41 0],
      observed.Unresumed 0 := by
    intro observed member
    simp only [List.mem_cons, List.not_mem_nil, or_false] at member
    rcases member with rfl | rfl | rfl <;> exact ⟨rfl, rfl⟩
  have timely : (everyTen .skip .continue).Timely 1000 0 0
      [nextTick 25 0, nextTick 31 0, nextTick 41 0] :=
    ⟨by decide, by decide, by decide, trivial⟩
  have onTime := (missed_ticks_counted_once_iff (onRate_everyTen .skip .continue) rfl 1000 0 0
    [nextTick 25 0, nextTick 31 0, nextTick 41 0] quiet timely).1 right
  have early := onTime [] [nextTick 25 0, nextTick 31 0] (nextTick 25 0) (nextTick 41 0)
    (.first 0 0) ⟨40, 3, 2, 0, [], 0⟩ ⟨⟨[nextTick 31 0, nextTick 41 0], rfl⟩, rfl⟩ rfl
    ⟨⟨[], rfl⟩, rfl⟩ rfl (by decide)
  exact absurd early (by decide)

/-! ## Resume notifications -/

section Resumes

variable [FloatOps F] {spec : RecurringSpec F} {maxInstant anchor : Instant} {epoch : Nat}
  {interval : Duration} {s after : RecurringLoop} {observed : TickObserved T E}
  {ticks before : List (TickObserved T E)}

/-- Skipping goes past the present, and past one point at least. -/
theorem beyond_of_skip {finished target now at_ : Instant} {missed : Nat} (positive : 0 < interval)
    (found : missedTarget maxInstant interval .skip finished target now =
      .ok (some (at_, missed))) : now < at_ ∧ target + interval ≤ at_ := by
  rcases missedTarget_skip maxInstant interval finished target now with
    ⟨-, skipped⟩ | ⟨-, code, failed⟩
  · obtain rfl := (Prod.mk.inj (Option.some.inj (Except.ok.inj (skipped.symm.trans found)))).1
    have further := Grid.lt_div_add_one_mul positive (now - target)
    rw [Nat.mul_comm] at further
    refine ⟨Nat.lt_of_not_le fun past => ?_, ?_⟩
    · exact absurd further (Nat.not_lt.2 (Nat.le_sub_of_add_le' past))
    · exact Nat.add_le_add_left (Nat.le_mul_of_pos_right _ (Nat.succ_pos _)) _
  · cases failed.symm.trans found

/-- What a pass that is due goes on to under `SkipMissed`: the nominal point, if that is still
to come or for a burst, or else a later instant than the one that is read, and past the next
nominal point if the schedule was resumed. -/
theorem RecurringSpec.OnRate.target_cases (rate : spec.OnRate interval)
    (skips : spec.schedule.resumePolicy = .skipMissed)
    (step : (recurringLoop spec maxInstant anchor epoch).step s observed = some after)
    (next : after.tick = s.tick + 1) :
    (observed.targetNow < anchor + interval * s.tick ∧
      after.scheduledAt = anchor + interval * s.tick) ∨
    (anchor + interval * s.tick ≤ observed.targetNow ∧
      ((observed.resumeEpoch ≠ s.resumeEpoch ∨ spec.schedule.missedTickPolicy = .skip) ∧
          observed.targetNow < after.scheduledAt ∧
          anchor + interval * (s.tick + 1) ≤ after.scheduledAt ∨
        observed.resumeEpoch = s.resumeEpoch ∧
          (spec.schedule.missedTickPolicy = .burst ∧
              after.scheduledAt = anchor + interval * s.tick ∨
            spec.schedule.missedTickPolicy = .delay ∧
              after.scheduledAt = observed.finishedAt + interval))) := by
  have waits (resumed : Bool) :
      (resumed && spec.schedule.resumePolicy = .runImmediately) = false := by
    rw [skips, decide_eq_false (by simp), Bool.and_false]
  have sleeps : spec.SleepsOut observed := fun runs => by
    rw [skips] at runs
    cases runs
  rcases rate.returns sleeps step with ⟨restarts, rfl⟩ | ⟨-, target, -, -⟩
  · exact absurd next (Nat.ne_of_lt (Nat.lt_succ_self _))
  rw [RecurringSpec.targetAfter] at target
  rcases nextTarget_fixedRate rate.plan rate.positive (waits _) maxInstant anchor s.tick
    with ⟨-, found⟩ | ⟨-, code, failed⟩
  · rw [found] at target
    by_cases early : observed.targetNow < anchor + interval * s.tick
    · rw [if_pos early] at target
      exact Or.inl ⟨early, (Prod.mk.inj (Option.some.inj (Except.ok.inj target))).1.symm⟩
    · rw [if_neg early] at target
      refine Or.inr ⟨Nat.le_of_not_lt early, ?_⟩
      have skipped (found : missedTarget maxInstant interval .skip observed.finishedAt
          (anchor + interval * s.tick) observed.targetNow =
            .ok (some (after.scheduledAt, after.observedMissedTicks))) :
          observed.targetNow < after.scheduledAt ∧
            anchor + interval * (s.tick + 1) ≤ after.scheduledAt := by
        obtain ⟨later, past⟩ := beyond_of_skip rate.positive found
        rw [Nat.add_assoc] at past
        exact ⟨later, past⟩
      rw [Schedule.missedPolicy, skips, decide_eq_true rfl, Bool.and_true] at target
      by_cases resumed : observed.resumeEpoch = s.resumeEpoch
      · rw [decide_eq_false (not_not_intro resumed), if_neg Bool.false_ne_true] at target
        cases policy : spec.schedule.missedTickPolicy with
        | burst =>
          rw [policy] at target
          exact Or.inr ⟨resumed, Or.inl ⟨rfl,
            (Prod.mk.inj (Option.some.inj (Except.ok.inj target))).1.symm⟩⟩
        | skip =>
          rw [policy] at target
          exact Or.inl ⟨Or.inr rfl, skipped target⟩
        | delay =>
          rw [policy, missedTarget] at target
          cases delayed : Checked.add maxInstant observed.finishedAt interval with
          | none =>
            rw [delayed] at target
            cases target
          | some at_ =>
            rw [delayed] at target
            obtain rfl := (Checked.add_eq_some.1 delayed).2
            exact Or.inr ⟨resumed, Or.inr ⟨rfl,
              (Prod.mk.inj (Option.some.inj (Except.ok.inj target))).1.symm⟩⟩
      · rw [decide_eq_true resumed, if_pos rfl] at target
        exact Or.inl ⟨Or.inl resumed, skipped target⟩
  · cases failed.symm.trans target

section Increases

variable (rate : spec.OnRate interval) (skips : spec.schedule.resumePolicy = .skipMissed)
  (timely : spec.Timely maxInstant anchor epoch ticks)
  (comes : ComesTo spec maxInstant anchor epoch ticks before observed s)
  (step : (recurringLoop spec maxInstant anchor epoch).step s observed = some after)

include rate skips timely comes step

/-- Without a burst every pass goes on to a later instant. -/
theorem leadsTo_of_no_burst (policy : spec.schedule.missedTickPolicy ≠ .burst) :
    s.LeadsTo after := by
  obtain ⟨due, due'⟩ := timely.reached comes
  rcases restarted_or_next step with ⟨restarts, rfl⟩ | next
  · exact Or.inl ⟨rfl, rfl⟩
  · refine Or.inr ⟨next ▸ Nat.lt_succ_self _, ?_⟩
    rcases rate.target_cases skips step next with
      ⟨early, at_⟩ | ⟨-, ⟨-, later, -⟩ | ⟨-, ⟨burst, -⟩ | ⟨-, at_⟩⟩⟩
    · exact at_ ▸ Nat.lt_of_le_of_lt due early
    · exact Nat.lt_of_le_of_lt due later
    · exact absurd burst policy
    · exact at_ ▸ Nat.lt_of_le_of_lt due' (Nat.lt_add_of_pos_right rate.positive)

/-- A burst goes on to a later instant unless it is ahead of the grid and not resumed, and it gets
ahead of the grid if it is late and resumed. -/
theorem burst_of_step (policy : spec.schedule.missedTickPolicy = .burst)
    (next : after.tick = s.tick + 1) :
    (s.scheduledAt < after.scheduledAt ↔
      s.Level anchor interval ∨ observed.resumeEpoch ≠ s.resumeEpoch) ∧
    (¬ after.Level anchor interval ↔
      anchor + interval * s.tick ≤ observed.targetNow ∧ observed.resumeEpoch ≠ s.resumeEpoch) := by
  have due := (timely.reached comes).1
  have nominal : anchor + interval * s.tick < anchor + interval * (s.tick + 1) :=
    Nat.add_lt_add_left (Nat.mul_lt_mul_of_pos_left (Nat.lt_succ_self _) rate.positive) _
  rw [RecurringLoop.Level, RecurringLoop.Level, next]
  rcases rate.target_cases skips step next with
    ⟨early, at_⟩ | ⟨late, ⟨resumed | skip, later, past⟩ | ⟨same, ⟨-, at_⟩ | ⟨delay, -⟩⟩⟩
  · have level := Nat.lt_of_le_of_lt due early
    rw [at_]
    refine ⟨⟨fun _ => Or.inl level, fun _ => level⟩, ?_⟩
    exact ⟨fun ahead => absurd nominal ahead, fun ⟨late, _⟩ => absurd early (Nat.not_lt.2 late)⟩
  · refine ⟨⟨fun _ => Or.inr resumed, fun _ => Nat.lt_of_le_of_lt due later⟩, ?_⟩
    exact ⟨fun _ => ⟨late, resumed⟩, fun _ => Nat.not_lt.2 past⟩
  · cases policy.symm.trans skip
  · rw [at_]
    refine ⟨⟨Or.inl, fun level => level.resolve_right (not_not_intro same)⟩, ?_⟩
    exact ⟨fun ahead => absurd nominal ahead, fun ⟨_, resumed⟩ => absurd same resumed⟩
  · cases policy.symm.trans delay

end Increases

/-- **Main result.**  Under `SkipMissed` the ticks are scheduled one after the other if and only if
the schedule is no burst or, whenever a late tick was resumed, the tick after it is resumed as
well, as long as another one follows. -/
theorem skip_missed_increases_iff {spec : RecurringSpec F} {interval : Duration}
    (rate : spec.OnRate interval) (skips : spec.schedule.resumePolicy = .skipMissed)
    (maxInstant anchor : Instant) (epoch : Nat) (ticks : List (TickObserved T E))
    (timely : spec.Timely maxInstant anchor epoch ticks) :
    (∀ before middle observed observed' s after,
      ComesTo spec maxInstant anchor epoch ticks before observed s →
      ComesTo spec maxInstant anchor epoch ticks (before ++ middle) observed' after →
        observed'.stopBefore = none → s.LeadsTo after) ↔
    (spec.schedule.missedTickPolicy = .burst →
      ∀ before middle rest observed observed' observed'' s s' s'',
        ComesTo spec maxInstant anchor epoch ticks before observed s →
        (spec.asks maxInstant s observed).isSome →
        ComesTo spec maxInstant anchor epoch ticks (before ++ middle) observed' s' →
        s'.tick = s.tick + 1 → (spec.asks maxInstant s' observed').isSome →
        ComesTo spec maxInstant anchor epoch ticks (before ++ middle ++ rest) observed'' s'' →
        s''.tick = s'.tick + 1 → observed''.stopBefore = none →
          anchor + interval * s.tick ≤ observed.targetNow → observed.resumeEpoch ≠ s.resumeEpoch →
            observed'.resumeEpoch ≠ s'.resumeEpoch) := by
  constructor
  · intro increases policy before middle rest observed observed' observed'' s s' s'' first asks
      second next asks' third next' run late resumed
    obtain ⟨middle, o, y, rfl, comes, step⟩ := first.next second (by omega)
    have nextY := next_of_asks asks step
    have ahead : ¬ y.Level anchor interval :=
      (burst_of_step rate skips timely first step policy nextY).2.2 ⟨late, resumed⟩
    -- between the two decisions there are restarts only
    have second' : ComesTo spec maxInstant anchor epoch ticks (before ++ [observed] ++ middle)
        observed' s' := by
      rw [List.append_assoc]
      exact second
    obtain ⟨restarts, rfl⟩ := (comes.same_tick second').2 (next.trans nextY.symm)
    obtain ⟨rest, o', z, rfl, comes', step'⟩ := second.next third (by omega)
    have nextZ := next_of_asks asks' step'
    have third' : ComesTo spec maxInstant anchor epoch ticks
        (before ++ observed :: middle ++ [observed'] ++ rest) observed'' s'' := by
      rw [List.append_assoc _ [observed'] rest]
      exact third
    obtain ⟨restarts', rfl⟩ := (comes'.same_tick third').2 (next'.trans nextZ.symm)
    rcases increases _ _ _ _ _ _ second third run with ⟨same, -⟩ | ⟨-, later⟩
    · exact absurd (next'.symm.trans same) (Nat.succ_ne_self _)
    · have decided := (burst_of_step rate skips timely second step' policy nextZ).1.1 later
      exact decided.resolve_left ahead
  · intro resumes before middle observed observed' s after first second run
    refine first.carries (R := fun as x => ∀ o, ComesTo spec maxInstant anchor epoch ticks as o x →
      o.stopBefore = none → s.LeadsTo x) ?_ second (fun _ _ _ => Or.inl ⟨rfl, rfl⟩) observed' second
        run
    intro as o x y comes step leads o' comes' run'
    refine (leads o comes (returns_of_step step).1).trans ?_
    by_cases policy : spec.schedule.missedTickPolicy = .burst
    · rcases restarted_or_next step with ⟨restarts, rfl⟩ | next
      · exact Or.inl ⟨rfl, rfl⟩
      · refine Or.inr ⟨next ▸ Nat.lt_succ_self _, ?_⟩
        refine (burst_of_step rate skips timely comes step policy next).1.2 ?_
        by_cases level : x.Level anchor interval
        · exact Or.inl level
        · -- the tick before this one got it ahead of the grid
          obtain ⟨o₀, start⟩ := comes.first
          rcases Nat.eq_or_lt_of_le (start.same_tick comes).1 with initial | later
          · obtain ⟨restarts, rfl⟩ := (start.same_tick comes).2 initial.symm
            exact absurd (level_first anchor epoch rate.positive) level
          · obtain ⟨before', o'', w, v, ⟨more, rfl⟩, first', step', next', restarts, rfl⟩ :=
              start.scheduled comes later
            rw [List.nil_append] at first'
            obtain ⟨late, resumed⟩ :=
              (burst_of_step rate skips timely first' step' policy next').2.1 level
            rw [List.append_assoc before'] at comes comes'
            exact Or.inr (resumes policy before' ([o''] ++ more) [o] o'' o o' w _ y first'
              (asks_of_next step' next') comes next' (asks_of_next step next) comes' next run' late
              resumed)
    · exact leadsTo_of_no_burst rate skips timely comes step policy

end Resumes

/-- A late tick that is resumed jumps to 40, and the burst goes back to 20 after it. -/
theorem skip_missed_goes_back :
    ∃ s after, ComesTo (everyTen .burst .skipMissed) 1000 0 0
        [nextTick 35 1, nextTick 41 1, nextTick 42 1] [nextTick 35 1] (nextTick 41 1) s ∧
      ComesTo (everyTen .burst .skipMissed) 1000 0 0
        [nextTick 35 1, nextTick 41 1, nextTick 42 1] ([nextTick 35 1] ++ [nextTick 41 1])
          (nextTick 42 1) after ∧
      (everyTen .burst .skipMissed).Timely 1000 0 0
        [nextTick 35 1, nextTick 41 1, nextTick 42 1] ∧
      s.scheduledAt = 40 ∧ after.scheduledAt = 20 ∧ ¬ s.LeadsTo after :=
  ⟨⟨40, 2, 3, 0, [], 1⟩, ⟨20, 3, 1, 0, [], 1⟩, ⟨⟨[nextTick 42 1], rfl⟩, rfl⟩, ⟨⟨[], rfl⟩, rfl⟩,
    ⟨by decide, by decide, by decide, trivial⟩, rfl, rfl, by
      rintro (⟨same, -⟩ | ⟨-, later⟩)
      · exact absurd same (by decide)
      · exact absurd later (by decide)⟩

/-- A delayed schedule is at 40 after the same two ticks, and then at 51. -/
theorem skip_missed_increases_iff_delay :
    (⟨40, 2, 3, 0, [], 1⟩ : RecurringLoop).LeadsTo ⟨51, 3, 1, 0, [], 1⟩ := by
  have timely : (everyTen .delay .skipMissed).Timely 1000 0 0
      [nextTick 35 1, nextTick 41 1, nextTick 52 1] :=
    ⟨by decide, by decide, by decide, trivial⟩
  refine (skip_missed_increases_iff (onRate_everyTen .delay .skipMissed) rfl 1000 0 0
    [nextTick 35 1, nextTick 41 1, nextTick 52 1] timely).2 (fun policy => by cases policy)
    [nextTick 35 1] [nextTick 41 1] (nextTick 41 1) (nextTick 52 1) _ _
    ⟨⟨[nextTick 52 1], rfl⟩, rfl⟩ ⟨⟨[], rfl⟩, rfl⟩ rfl

end BusyBeaver
