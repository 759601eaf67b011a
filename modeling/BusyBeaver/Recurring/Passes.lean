import BusyBeaver.Recurring.Run
import BusyBeaver.Lib.History

/-!
# The passes of a recurring loop

`runFrom` seen as a system: a state is what the loop holds at its head, an action is what one
tick meets, and a step is a pass that comes back to the head.  A run is the passes it comes back
from and, if it ends, the one it does not come back from (`ended_of_exit`).
-/

namespace BusyBeaver

open Transition

variable {T E F : Type}

/-! ## A sleep -/

section Sleep

variable {pause : Pause} {maxInstant : Instant} {duration : Duration}

theorem Pause.sleep_eq_ok :
    pause.sleep maxInstant duration = .ok () ↔
      pause.stop = none ∧ pause.at_ + duration ≤ maxInstant := by
  rw [Pause.sleep]
  cases stop : pause.stop with
  | some cause => simp
  | none =>
    by_cases fits : pause.at_ + duration ≤ maxInstant
    · simp [Checked.add, fits]
    · simp [Checked.add, fits]

/-- What fails is a stop, or the end of the sleep is no instant. -/
theorem Pause.sleep_eq_error {stop : Option StopCauseSummary} :
    pause.sleep maxInstant duration = .error stop ↔
      pause.stop = stop ∧ (pause.stop.isSome ∨ maxInstant < pause.at_ + duration) := by
  rw [Pause.sleep]
  by_cases fails : pause.stop.isSome ∨ Checked.add maxInstant pause.at_ duration = none
  · rw [if_pos fails]
    rw [Checked.add_eq_none] at fails
    simp [fails]
  · rw [if_neg fails]
    rw [Checked.add_eq_none] at fails
    simp [fails]

end Sleep

/-! ## The passes -/

variable [FloatOps F]

/-- What one pass shows, and whether the loop comes back to its head. -/
structure RecurringPass (T E : Type) : Type where
  events : List RecurringEvent
  next : Except (Option (TaskExit T E) × List String) RecurringLoop

/-- One pass of the loop of `run_recurring`. -/
def RecurringSpec.pass (spec : RecurringSpec F) (maxInstant anchor : Instant) (s : RecurringLoop)
    (observed : TickObserved T E) : RecurringPass T E :=
  match observed.stopBefore with
  | some stop => ⟨[], .error (some (cancelledExit (some stop)), [])⟩
  | none =>
    match runTick spec.operation maxInstant observed with
    | none => ⟨[.ran s.tick], .error (none, [])⟩
    | some tickRun =>
      match spec.decideTick maxInstant s observed tickRun with
      | .exit exit => ⟨[.ran s.tick], .error (some exit, [])⟩
      | .schedule =>
        ⟨[.ran s.tick], (spec.advance maxInstant anchor { s with consecutiveFailures := 0 }
          observed).mapError fun ended => (some ended.1, ended.2)⟩
      | .continued failures =>
        ⟨[.ran s.tick, .continued s.tick], (spec.advance maxInstant anchor
          { s with consecutiveFailures := failures } observed).mapError
            fun ended => (some ended.1, ended.2)⟩
      | .restarted restarts =>
        ⟨[.ran s.tick, .restarted s.tick], .ok { s with restarts := restarts }⟩

/-- The loop from its first head on. -/
def recurringLoop (spec : RecurringSpec F) (maxInstant anchor : Instant) (epoch : Nat) :
    System RecurringLoop (TickObserved T E) :=
  ⟨.first anchor epoch, fun s observed => (spec.pass maxInstant anchor s observed).next.toOption⟩

/-- The run is at the tick `observed`, after the ticks `before`. -/
def ComesTo (spec : RecurringSpec F) (maxInstant anchor : Instant) (epoch : Nat)
    (ticks before : List (TickObserved T E)) (observed : TickObserved T E) (s : RecurringLoop) :
    Prop :=
  (∃ rest, ticks = before ++ observed :: rest) ∧
    (recurringLoop spec maxInstant anchor epoch).exec
      (recurringLoop (T := T) (E := E) spec maxInstant anchor epoch).init before = some s

section Passes

variable {spec : RecurringSpec F} {maxInstant anchor : Instant} {epoch : Nat}
  {s after : RecurringLoop} {observed : TickObserved T E}
  {ticks before rest : List (TickObserved T E)}

theorem runFrom_cons (spec : RecurringSpec F) (maxInstant anchor : Instant) (s : RecurringLoop)
    (observed : TickObserved T E) (rest : List (TickObserved T E)) :
    spec.runFrom maxInstant anchor s (observed :: rest) =
      match spec.pass maxInstant anchor s observed with
      | ⟨events, .error (exit, logged)⟩ => ⟨events, exit, logged⟩
      | ⟨events, .ok after⟩ =>
        let run := spec.runFrom maxInstant anchor after rest
        ⟨events ++ run.events, run.exit, run.logged⟩ := by
  rw [RecurringSpec.runFrom, RecurringSpec.pass]
  cases observed.stopBefore with
  | some stop => rfl
  | none =>
    cases runTick spec.operation maxInstant observed with
    | none => rfl
    | some tickRun =>
      dsimp only
      cases spec.decideTick maxInstant s observed tickRun with
      | exit exit => rfl
      | schedule =>
        dsimp only
        cases spec.advance maxInstant anchor { s with consecutiveFailures := 0 } observed <;> rfl
      | continued failures =>
        dsimp only
        cases spec.advance maxInstant anchor { s with consecutiveFailures := failures }
          observed <;> rfl
      | restarted restarts => rfl

theorem step_recurringLoop :
    (recurringLoop spec maxInstant anchor epoch).step s observed = some after ↔
      (spec.pass maxInstant anchor s observed).next = .ok after := by
  change (spec.pass maxInstant anchor s observed).next.toOption = some after ↔ _
  cases (spec.pass maxInstant anchor s observed).next <;> simp [Except.toOption]

/-- What a pass that comes back has done: it runs a tick again after a panic, or it schedules the
next one with this many consecutive failures. -/
inductive Returns (spec : RecurringSpec F) (maxInstant anchor : Instant) (s : RecurringLoop)
    (observed : TickObserved T E) : RecurringLoop → Prop
  | restarted {source : PanicSource} {message : String} {restarts : List Instant}
    (panicked : runTick spec.operation maxInstant observed = some (.panicked source message))
    (admitted : spec.afterPanic (T := T) (E := E) maxInstant s source message
      observed.restartNow observed.restartPause = .restarted restarts) :
    Returns spec maxInstant anchor s observed { s with restarts := restarts }
  | continued {after : RecurringLoop}
    (outcome : runTick spec.operation maxInstant observed = some (.outcome .continue))
    (advanced : spec.advance maxInstant anchor { s with consecutiveFailures := 0 } observed =
      .ok after) :
    Returns spec maxInstant anchor s observed after
  | failed {error : E} {failures : Nat} {after : RecurringLoop}
    (failure : runTick spec.operation maxInstant observed = some (.failure error))
    (within : spec.afterFailure (T := T) maxInstant s error observed.failurePause =
      .continued failures)
    (advanced : spec.advance maxInstant anchor { s with consecutiveFailures := failures } observed =
      .ok after) :
    Returns spec maxInstant anchor s observed after

omit [FloatOps F] in
theorem not_schedule_of_afterPanic {source : PanicSource} {message : String} {now : Instant}
    {pause : Pause} :
    spec.afterPanic (T := T) (E := E) maxInstant s source message now pause ≠ .schedule ∧
      ∀ failures, spec.afterPanic (T := T) (E := E) maxInstant s source message now pause ≠
        .continued failures := by
  unfold RecurringSpec.afterPanic
  dsimp only
  split
  · simp
  · split
    · simp
    · split <;> simp

omit [FloatOps F] in
theorem not_schedule_of_afterFailure {error : E} {pause : Pause} :
    spec.afterFailure (T := T) maxInstant s error pause ≠ .schedule ∧
      ∀ restarts, spec.afterFailure (T := T) maxInstant s error pause ≠ .restarted restarts := by
  unfold RecurringSpec.afterFailure
  split
  · simp
  · split
    · simp
    · split
      · simp
      · split <;> simp

/-- **Inversion of a pass.** -/
theorem returns_of_step
    (step : (recurringLoop spec maxInstant anchor epoch).step s observed = some after) :
    observed.stopBefore = none ∧ Returns spec maxInstant anchor s observed after := by
  have next := step_recurringLoop.1 step
  rw [RecurringSpec.pass] at next
  cases stop : observed.stopBefore with
  | some cause =>
    rw [stop] at next
    cases next
  | none =>
    refine ⟨rfl, ?_⟩
    rw [stop] at next
    dsimp only at next
    cases ticked : runTick spec.operation maxInstant observed with
    | none =>
      rw [ticked] at next
      cases next
    | some tickRun =>
      rw [ticked] at next
      dsimp only at next
      have went {loop : RecurringLoop}
          (advances : (spec.advance maxInstant anchor loop observed).mapError
            (fun ended => (some ended.1, ended.2)) = .ok after) :
          spec.advance maxInstant anchor loop observed = .ok after := by
        cases advanced : spec.advance maxInstant anchor loop observed with
        | error ended =>
          rw [advanced] at advances
          cases advances
        | ok loop' =>
          rw [advanced] at advances
          exact congrArg Except.ok (Except.ok.inj advances)
      cases tickRun with
      | outcome outcome =>
        cases outcome with
        | stop value =>
          rw [RecurringSpec.decideTick] at next
          cases next
        | «continue» => exact .continued ticked (went next)
      | failure error =>
        rw [RecurringSpec.decideTick] at next
        cases decided : spec.afterFailure (T := T) maxInstant s error observed.failurePause with
        | exit exit =>
          rw [decided] at next
          cases next
        | schedule => exact absurd decided not_schedule_of_afterFailure.1
        | continued failures =>
          rw [decided] at next
          exact .failed ticked decided (went next)
        | restarted restarts => exact absurd decided (not_schedule_of_afterFailure.2 restarts)
      | exit exit =>
        rw [RecurringSpec.decideTick] at next
        cases next
      | panicked source message =>
        rw [RecurringSpec.decideTick] at next
        cases decided : spec.afterPanic (T := T) (E := E) maxInstant s source message
          observed.restartNow observed.restartPause with
        | exit exit =>
          rw [decided] at next
          cases next
        | schedule => exact absurd decided not_schedule_of_afterPanic.1
        | continued failures => exact absurd decided (not_schedule_of_afterPanic.2 failures)
        | restarted restarts =>
          rw [decided] at next
          obtain rfl := Except.ok.inj next
          exact .restarted ticked decided

/-- The failures that are counted when the pass asks for the next target. -/
def RecurringSpec.asks (spec : RecurringSpec F) (maxInstant : Instant) (s : RecurringLoop)
    (observed : TickObserved T E) : Option Nat :=
  match observed.stopBefore, runTick spec.operation maxInstant observed with
  | none, some tickRun =>
    match spec.decideTick maxInstant s observed tickRun with
    | .schedule => some 0
    | .continued failures => some failures
    | _ => none
  | _, _ => none

theorem pass_of_asks {failures : Nat} (asks : spec.asks maxInstant s observed = some failures) :
    (spec.pass maxInstant anchor s observed).next =
      (spec.advance maxInstant anchor { s with consecutiveFailures := failures } observed).mapError
        fun ended => (some ended.1, ended.2) := by
  rw [RecurringSpec.asks] at asks
  rw [RecurringSpec.pass]
  cases stop : observed.stopBefore with
  | some cause =>
    rw [stop] at asks
    cases asks
  | none =>
    rw [stop] at asks
    cases ticked : runTick spec.operation maxInstant observed with
    | none =>
      rw [ticked] at asks
      cases asks
    | some tickRun =>
      rw [ticked] at asks
      dsimp only at asks ⊢
      cases decided : spec.decideTick maxInstant s observed tickRun with
      | exit exit =>
        rw [decided] at asks
        cases asks
      | schedule =>
        rw [decided] at asks
        obtain rfl := Option.some.inj asks
        rfl
      | continued failures' =>
        rw [decided] at asks
        obtain rfl := Option.some.inj asks
        rfl
      | restarted restarts =>
        rw [decided] at asks
        cases asks

/-- A pass that comes back runs its tick again, or has asked for the target of the next. -/
theorem restarted_or_asked
    (step : (recurringLoop spec maxInstant anchor epoch).step s observed = some after) :
    (∃ restarts, after = { s with restarts := restarts }) ∨
      ∃ failures, spec.asks maxInstant s observed = some failures ∧
        spec.advance maxInstant anchor { s with consecutiveFailures := failures } observed =
          .ok after := by
  obtain ⟨unstopped, returns⟩ := returns_of_step step
  cases returns with
  | @restarted source message restarts panicked admitted => exact Or.inl ⟨restarts, rfl⟩
  | continued outcome advanced =>
    refine Or.inr ⟨0, ?_, advanced⟩
    rw [RecurringSpec.asks, unstopped, outcome]
    rfl
  | @failed error failures after failure within advanced =>
    refine Or.inr ⟨failures, ?_, advanced⟩
    rw [RecurringSpec.asks, unstopped, failure]
    dsimp only
    rw [RecurringSpec.decideTick, within]

/-- What a pass that schedules the next tick has found. -/
theorem RecurringSpec.of_advance
    (advanced : spec.advance maxInstant anchor s observed = .ok after) :
    ∃ target missed delay due epoch at_ count,
      nextTarget spec.schedule maxInstant anchor s.tick s.scheduledAt observed.finishedAt
        s.observedMissedTicks (observed.resumeEpoch ≠ s.resumeEpoch) observed.targetNow =
          .ok (some (target, missed)) ∧
      spec.plan maxInstant s.tick target observed.delayNow = .ok (delay, due) ∧
      spec.await maxInstant observed delay due missed = .ok (epoch, at_, count) ∧
      after = { s with
        scheduledAt := at_, tick := s.tick + 1, observedMissedTicks := count
        resumeEpoch := epoch } := by
  unfold RecurringSpec.advance at advanced
  split at advanced
  · cases advanced
  · cases advanced
  · rename_i target missed found
    split at advanced
    · cases advanced
    · rename_i delay due planned
      split at advanced
      · cases advanced
      · rename_i epoch at_ count awaited
        split at advanced
        · cases advanced
        · rename_i tick counted
          obtain ⟨-, rfl⟩ := Checked.add_eq_some.1 counted
          obtain rfl := Except.ok.inj advanced
          exact ⟨target, missed, delay, due, epoch, at_, count, found, planned, awaited, rfl⟩

/-- A run that survives some ticks ends as the rest of it ends. -/
theorem exit_of_exec
    (run : (recurringLoop spec maxInstant anchor epoch).exec s before = some after) :
    (spec.runFrom maxInstant anchor s (before ++ rest)).exit =
      (spec.runFrom maxInstant anchor after rest).exit := by
  induction before generalizing s with
  | nil =>
    obtain rfl := Option.some.inj run
    rfl
  | cons observed before ih =>
    simp only [System.exec] at run
    split at run
    · cases run
    · rename_i between step
      rw [List.cons_append, runFrom_cons]
      have next := step_recurringLoop.1 step
      generalize spec.pass maxInstant anchor s observed = pass at next ⊢
      obtain ⟨events, next'⟩ := pass
      obtain rfl : next' = .ok between := next
      exact ih run

theorem exit_of_pass {exit : Option (TaskExit T E)} {logged : List String}
    (ends : (spec.pass maxInstant anchor s observed).next = .error (exit, logged)) :
    (spec.runFrom maxInstant anchor s (observed :: rest)).exit = exit := by
  rw [runFrom_cons]
  generalize spec.pass maxInstant anchor s observed = pass at ends ⊢
  obtain ⟨events, next⟩ := pass
  obtain rfl : next = .error (exit, logged) := ends
  rfl

/-- Where a run ended. -/
theorem ended_of_exit {ticks : List (TickObserved T E)} {exit : TaskExit T E} (epoch : Nat)
    (ended : (spec.runFrom maxInstant anchor s ticks).exit = some exit) :
    ∃ before observed rest after logged, ticks = before ++ observed :: rest ∧
      (recurringLoop spec maxInstant anchor epoch).exec s before = some after ∧
        (spec.pass maxInstant anchor after observed).next = .error (some exit, logged) := by
  induction ticks generalizing s with
  | nil =>
    rw [RecurringSpec.runFrom] at ended
    cases ended
  | cons observed rest ih =>
    rw [runFrom_cons] at ended
    cases passed : spec.pass maxInstant anchor s observed with
    | mk events next =>
      rw [passed] at ended
      cases next with
      | error finish =>
        obtain ⟨finish, logged⟩ := finish
        obtain rfl : finish = some exit := ended
        exact ⟨[], observed, rest, s, logged, rfl, rfl, congrArg RecurringPass.next passed⟩
      | ok between =>
        obtain ⟨before, last, later, after, logged, split, run, ends⟩ := ih ended
        have step : (recurringLoop spec maxInstant anchor epoch).step s observed = some between :=
          step_recurringLoop.2 (congrArg RecurringPass.next passed)
        refine ⟨observed :: before, last, later, after, logged, congrArg _ split, ?_, ends⟩
        simp only [System.exec, step]
        exact run

/-- One pass lies between two heads that follow each other. -/
theorem step_of_comesTo {before : List (TickObserved T E)} {observed' : TickObserved T E}
    (first : ComesTo spec maxInstant anchor epoch ticks before observed s)
    (second : ComesTo spec maxInstant anchor epoch ticks (before ++ [observed]) observed' after) :
    (recurringLoop spec maxInstant anchor epoch).step s observed = some after := by
  have run := second.2
  rw [System.exec_append, first.2, Option.bind_some] at run
  simp only [System.exec] at run
  split at run
  · cases run
  · rename_i next step
    exact step.trans run

/-- What each pass keeps holds at every later head. -/
theorem ComesTo.carries {R : List (TickObserved T E) → RecurringLoop → Prop}
    {middle : List (TickObserved T E)} {observed' : TickObserved T E}
    (first : ComesTo spec maxInstant anchor epoch ticks before observed s)
    (kept : ∀ {as : List (TickObserved T E)} {o : TickObserved T E} {x y : RecurringLoop},
      ComesTo spec maxInstant anchor epoch ticks as o x →
        (recurringLoop spec maxInstant anchor epoch).step x o = some y →
          R as x → R (as ++ [o]) y)
    (second : ComesTo spec maxInstant anchor epoch ticks (before ++ middle) observed' after)
    (here : R before s) : R (before ++ middle) after := by
  induction middle using List.reverseRecOn generalizing observed' after with
  | nil =>
    rw [List.append_nil] at second ⊢
    obtain rfl := Option.some.inj (first.2.symm.trans second.2)
    exact here
  | append_singleton middle last ih =>
    obtain ⟨⟨rest, split⟩, run⟩ := second
    rw [← List.append_assoc, System.exec_append] at run
    obtain ⟨between, reached, run⟩ := Option.bind_eq_some_iff.1 run
    have comes : ComesTo spec maxInstant anchor epoch ticks (before ++ middle) last between :=
      ⟨⟨observed' :: rest, by simp [split]⟩, reached⟩
    simp only [System.exec] at run
    split at run
    · cases run
    · rename_i after' step
      obtain rfl := Option.some.inj run
      rw [← List.append_assoc]
      exact kept comes step (ih comes)

/-- The number of a tick stays, or grows by one. -/
theorem restarted_or_next
    (step : (recurringLoop spec maxInstant anchor epoch).step s observed = some after) :
    (∃ restarts, after = { s with restarts := restarts }) ∨ after.tick = s.tick + 1 := by
  rcases restarted_or_asked step with again | ⟨failures, -, advanced⟩
  · exact Or.inl again
  · obtain ⟨target, missed, delay, due, epoch, at_, count, -, -, -, rfl⟩ := spec.of_advance advanced
    exact Or.inr rfl

theorem asks_of_next
    (step : (recurringLoop spec maxInstant anchor epoch).step s observed = some after)
    (next : after.tick = s.tick + 1) : (spec.asks maxInstant s observed).isSome := by
  rcases restarted_or_asked step with ⟨restarts, rfl⟩ | ⟨failures, asks, -⟩
  · exact absurd next (Nat.ne_of_lt (Nat.lt_succ_self _))
  · exact Option.isSome_iff_exists.2 ⟨failures, asks⟩

theorem next_of_asks (asks : (spec.asks maxInstant s observed).isSome)
    (step : (recurringLoop spec maxInstant anchor epoch).step s observed = some after) :
    after.tick = s.tick + 1 := by
  obtain ⟨failures, asks⟩ := Option.isSome_iff_exists.1 asks
  have next := step_recurringLoop.1 step
  rw [pass_of_asks asks] at next
  cases advanced : spec.advance maxInstant anchor { s with consecutiveFailures := failures }
    observed with
  | error ended =>
    rw [advanced] at next
    cases next
  | ok after' =>
    rw [advanced] at next
    obtain rfl : after' = after := Except.ok.inj next
    obtain ⟨target, missed, delay, due, epoch, at_, count, -, -, -, rfl⟩ := spec.of_advance advanced
    rfl

theorem ComesTo.mem (comes : ComesTo spec maxInstant anchor epoch ticks before observed s) :
    observed ∈ ticks := by
  obtain ⟨⟨rest, split⟩, -⟩ := comes
  exact split ▸ List.mem_append_right _ List.mem_cons_self

theorem ComesTo.first (comes : ComesTo spec maxInstant anchor epoch ticks before observed s) :
    ∃ o, ComesTo spec maxInstant anchor epoch ticks [] o (.first anchor epoch) := by
  obtain ⟨⟨rest, split⟩, -⟩ := comes
  cases before with
  | nil => exact ⟨observed, ⟨rest, split⟩, rfl⟩
  | cons o before => exact ⟨o, ⟨before ++ observed :: rest, split⟩, rfl⟩

/-- The pass at a head that is followed by another. -/
theorem ComesTo.next {middle : List (TickObserved T E)} {observed' : TickObserved T E}
    (first : ComesTo spec maxInstant anchor epoch ticks before observed s)
    (second : ComesTo spec maxInstant anchor epoch ticks (before ++ middle) observed' after)
    (later : s.tick < after.tick) :
    ∃ rest o y, middle = observed :: rest ∧
      ComesTo spec maxInstant anchor epoch ticks (before ++ [observed]) o y ∧
        (recurringLoop spec maxInstant anchor epoch).step s observed = some y := by
  obtain ⟨⟨rest, split⟩, reached⟩ := first
  obtain ⟨⟨rest', split'⟩, run⟩ := second
  cases middle with
  | nil =>
    rw [List.append_nil] at run
    obtain rfl := Option.some.inj (reached.symm.trans run)
    exact absurd later (Nat.lt_irrefl _)
  | cons o middle =>
    rw [split, List.append_assoc] at split'
    obtain ⟨rfl, last⟩ := List.cons.inj (List.append_cancel_left split')
    rw [System.exec_append, reached, Option.bind_some, System.exec] at run
    split at run
    · cases run
    · rename_i y step
      cases middle with
      | nil =>
        exact ⟨[], observed', y, rfl,
          ⟨⟨rest', by simp [split, last]⟩, System.exec_snoc reached step⟩,
          step⟩
      | cons o' middle =>
        exact ⟨o' :: middle, o', y, rfl, ⟨⟨middle ++ observed' :: rest', by simp [split, last]⟩,
          System.exec_snoc reached step⟩, step⟩

/-- Heads of one tick differ in their restarts only. -/
theorem ComesTo.same_tick {middle : List (TickObserved T E)} {observed' : TickObserved T E}
    (first : ComesTo spec maxInstant anchor epoch ticks before observed s)
    (second : ComesTo spec maxInstant anchor epoch ticks (before ++ middle) observed' after) :
    s.tick ≤ after.tick ∧
      (after.tick = s.tick → ∃ restarts, after = { s with restarts := restarts }) := by
  refine first.carries (R := fun _ x => s.tick ≤ x.tick ∧
    (x.tick = s.tick → ∃ restarts, x = { s with restarts := restarts })) ?_ second
    ⟨Nat.le_refl _, fun _ => ⟨s.restarts, rfl⟩⟩
  intro as o x y _ step ⟨least, same⟩
  rcases restarted_or_next step with ⟨restarts, rfl⟩ | next
  · refine ⟨least, fun here => ?_⟩
    obtain ⟨restarts', rfl⟩ := same here
    exact ⟨restarts, rfl⟩
  · exact ⟨next ▸ Nat.le_succ_of_le least, fun here => by omega⟩

/-- The pass that has scheduled a later tick. -/
theorem ComesTo.scheduled {middle : List (TickObserved T E)} {observed' : TickObserved T E}
    (first : ComesTo spec maxInstant anchor epoch ticks before observed s)
    (second : ComesTo spec maxInstant anchor epoch ticks (before ++ middle) observed' after)
    (later : s.tick < after.tick) :
    ∃ middle' o x y, middle' ++ [o] <+: middle ∧
      ComesTo spec maxInstant anchor epoch ticks (before ++ middle') o x ∧
      (recurringLoop spec maxInstant anchor epoch).step x o = some y ∧ y.tick = x.tick + 1 ∧
        ∃ restarts, after = { y with restarts := restarts } := by
  have held := first.carries (R := fun as z => ∃ m, as = before ++ m ∧
    ((∃ restarts, z = { s with restarts := restarts }) ∨
      ∃ middle' o x y, middle' ++ [o] <+: m ∧
        ComesTo spec maxInstant anchor epoch ticks (before ++ middle') o x ∧
        (recurringLoop spec maxInstant anchor epoch).step x o = some y ∧ y.tick = x.tick + 1 ∧
          ∃ restarts, z = { y with restarts := restarts })) ?_ second
    ⟨[], (List.append_nil _).symm, Or.inl ⟨s.restarts, rfl⟩⟩
  · obtain ⟨m, same, last⟩ := held
    obtain rfl := List.append_cancel_left same
    rcases last with ⟨restarts, rfl⟩ | last
    · exact absurd later (Nat.lt_irrefl _)
    · exact last
  · rintro as o x y comes step ⟨m, rfl, last⟩
    refine ⟨m ++ [o], List.append_assoc _ _ _, ?_⟩
    rcases restarted_or_next step with ⟨restarts, rfl⟩ | next
    · rcases last with ⟨restarts', rfl⟩ | ⟨middle', o', x', y', part, comes', step', next, _, rfl⟩
      · exact Or.inl ⟨restarts, rfl⟩
      · exact Or.inr ⟨middle', o', x', y', part.trans (List.prefix_append _ _), comes', step', next,
          restarts, rfl⟩
    · exact Or.inr ⟨m, o, x, y, List.prefix_refl _, comes, step, next, y.restarts, rfl⟩

/-! ## The numbers of the ticks -/

/-- The factory is called with this number. -/
def RecurringEvent.number : RecurringEvent → Option Nat
  | .ran tick => some tick
  | _ => none

/-- The numbers the factory is called with. -/
def RecurringRun.numbers (run : RecurringRun T E) : List Nat :=
  run.events.filterMap RecurringEvent.number

theorem numbers_pass (spec : RecurringSpec F) (maxInstant anchor : Instant) (s : RecurringLoop)
    (unstopped : observed.stopBefore = none) :
    (spec.pass maxInstant anchor s observed).events.filterMap RecurringEvent.number = [s.tick] := by
  rw [RecurringSpec.pass, unstopped]
  dsimp only
  cases runTick spec.operation maxInstant observed with
  | none => rfl
  | some tickRun =>
    dsimp only
    cases spec.decideTick maxInstant s observed tickRun <;> rfl

theorem numbers_cons {ticks : List (TickObserved T E)} (unstopped : observed.stopBefore = none) :
    (spec.runFrom maxInstant anchor s (observed :: ticks)).numbers =
      s.tick ::
        match (spec.pass maxInstant anchor s observed).next with
        | .error _ => []
        | .ok after => (spec.runFrom maxInstant anchor after ticks).numbers := by
  have first := numbers_pass spec maxInstant anchor s unstopped
  rw [runFrom_cons]
  generalize spec.pass maxInstant anchor s observed = pass at first ⊢
  obtain ⟨events, next⟩ := pass
  cases next with
  | error ended => exact first
  | ok after =>
    rw [RecurringRun.numbers, List.filterMap_append]
    exact congrArg (· ++ (spec.runFrom maxInstant anchor after ticks).numbers) first

/-- The factory is called once in each pass, with the number at its head. -/
theorem numbers_getElem? {ticks : List (TickObserved T E)} {i n : Nat} (epoch : Nat)
    (unstopped : ∀ observed ∈ ticks, observed.stopBefore = none) :
    (spec.runFrom maxInstant anchor s ticks).numbers[i]? = some n ↔
      i < ticks.length ∧ ∃ after,
        (recurringLoop spec maxInstant anchor epoch).exec s (ticks.take i) = some after ∧
          after.tick = n := by
  induction ticks generalizing s i with
  | nil =>
    rw [RecurringSpec.runFrom]
    simp [RecurringRun.numbers, RecurringRun.waits]
  | cons observed rest ih =>
    rw [numbers_cons (unstopped observed List.mem_cons_self)]
    cases i with
    | zero => simp [System.exec]
    | succ i =>
      rw [List.getElem?_cons_succ, List.take_succ_cons, System.exec, List.length_cons]
      cases next : (spec.pass maxInstant anchor s observed).next with
      | error ended =>
        have stuck : (recurringLoop spec maxInstant anchor epoch).step s observed = none := by
          change (spec.pass maxInstant anchor s observed).next.toOption = none
          rw [next]
          rfl
        simp [stuck]
      | ok after =>
        rw [step_recurringLoop.2 next]
        have later := ih (s := after) (i := i) fun other member =>
          unstopped other (List.mem_cons_of_mem _ member)
        simp only [later, Nat.add_lt_add_iff_right]

end Passes

end BusyBeaver
