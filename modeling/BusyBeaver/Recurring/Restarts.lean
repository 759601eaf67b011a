import BusyBeaver.Recurring.Rate
import BusyBeaver.Service.Restarts

/-!
# The restart budget

`run_recurring` and `admit_restart` each have their own copy of the limiter, and both are the
sliding window of `Window`: restarts that are `max_restarts` apart are more than the window apart
in time.  A recurring run refuses a restart only where the limit is reached; a service also
refuses one whose back-off cannot be slept (`restart_budget_is_a_window`).
-/

namespace BusyBeaver

open Transition

variable {T E F : Type}

section Recurring

variable [FloatOps F] {spec : RecurringSpec F} {maxInstant anchor : Instant} {epoch : Nat}
  {policy : RestartPolicy} {s after : RecurringLoop} {observed : TickObserved T E}
  {ticks : List (TickObserved T E)}

/-- The instant that is read after a tick that panicked. -/
def RecurringSpec.panickedAt (spec : RecurringSpec F) (maxInstant : Instant)
    (observed : TickObserved T E) : Option Instant :=
  match runTick spec.operation maxInstant observed with
  | some (.panicked _ _) => some observed.restartNow
  | _ => none

/-- The instants of the restarts of a run. -/
def recurringRestarts (spec : RecurringSpec F) (maxInstant anchor : Instant) (epoch : Nat)
    (ticks : List (TickObserved T E)) : List Instant :=
  (recurringLoop spec maxInstant anchor epoch).outputs
    (fun s observed => ((recurringLoop spec maxInstant anchor epoch).step s observed).bind
      fun after => if after.tick = s.tick then some observed.restartNow else none)
    (recurringLoop (T := T) (E := E) spec maxInstant anchor epoch).init ticks

omit [FloatOps F] in
theorem admit_of_restarted {source : PanicSource} {message : String} {now : Instant} {pause : Pause}
    {restarts : List Instant} (restarting : spec.panicPolicy = .restart policy)
    (admitted : spec.afterPanic (T := T) (E := E) maxInstant s source message now pause =
      .restarted restarts) :
    Window.accept policy.window policy.maximumRestarts now s.restarts = some restarts := by
  rw [RecurringSpec.afterPanic, restarting] at admitted
  dsimp only at admitted
  split at admitted
  · cases admitted
  · rename_i room
    split at admitted
    · cases admitted
    · obtain rfl := TickDecision.restarted.inj admitted
      exact if_neg room

omit [FloatOps F] in
theorem admit_of_refused {source : PanicSource} {message : String} {now : Instant} {pause : Pause}
    (restarting : spec.panicPolicy = .restart policy)
    (refused : spec.afterPanic (T := T) (E := E) maxInstant s source message now pause =
      .exit (.failed (.recurring .restartLimitExceeded))) :
    Window.accept policy.window policy.maximumRestarts now s.restarts = none := by
  rw [RecurringSpec.afterPanic, restarting] at refused
  dsimp only at refused
  split at refused
  · rename_i full
    exact if_pos full
  · split at refused
    · rename_i stop _
      rcases stop with _ | (reason | _) <;> cases refused
    · cases refused

/-- **Run lemma.** -/
theorem keeps_restarts (restarting : spec.panicPolicy = .restart policy)
    (clock : (ticks.filterMap (spec.panickedAt maxInstant)).Pairwise (· ≤ ·))
    (run : (recurringLoop spec maxInstant anchor epoch).exec
      (recurringLoop (T := T) (E := E) spec maxInstant anchor epoch).init ticks = some s) :
    Window.Keeps policy.window policy.maximumRestarts
        (recurringRestarts spec maxInstant anchor epoch ticks) s.restarts ∧
      ∀ t ∈ recurringRestarts spec maxInstant anchor epoch ticks,
        t ∈ ticks.filterMap (spec.panickedAt maxInstant) := by
  refine System.exec_invariant (I := fun as s =>
    (as.filterMap (spec.panickedAt maxInstant)).Pairwise (· ≤ ·) →
      Window.Keeps policy.window policy.maximumRestarts
          (recurringRestarts spec maxInstant anchor epoch as) s.restarts ∧
        ∀ t ∈ recurringRestarts spec maxInstant anchor epoch as,
          t ∈ as.filterMap (spec.panickedAt maxInstant)) ?_ ?_ run clock
  · exact fun _ => ⟨Window.keeps_nil _ _, fun t there => absurd there List.not_mem_nil⟩
  · intro as x y o reached ih step chronological
    have taken : (recurringLoop spec maxInstant anchor epoch).step x o = some y := step
    rw [List.filterMap_append] at chronological
    obtain ⟨earlier, -, order⟩ := List.pairwise_append.1 chronological
    obtain ⟨keeps, read⟩ := ih earlier
    rw [recurringRestarts, System.outputs_snoc reached, taken, Option.bind_some,
      List.filterMap_append]
    have next (other : y.tick ≠ x.tick) (same : y.restarts = x.restarts) :
        Window.Keeps policy.window policy.maximumRestarts
            (recurringRestarts spec maxInstant anchor epoch as ++
              (if y.tick = x.tick then some o.restartNow else none).toList) y.restarts ∧
          ∀ t ∈ recurringRestarts spec maxInstant anchor epoch as ++
              (if y.tick = x.tick then some o.restartNow else none).toList,
            t ∈ as.filterMap (spec.panickedAt maxInstant) ++
              [o].filterMap (spec.panickedAt maxInstant) := by
      rw [if_neg other, Option.toList_none, List.append_nil, same]
      exact ⟨keeps, fun t there => List.mem_append_left _ (read t there)⟩
    cases (returns_of_step taken).2 with
    | @restarted source message restarts panicked admitted =>
      have reads : spec.panickedAt maxInstant o = some o.restartNow := by
        rw [RecurringSpec.panickedAt, panicked]
      have here : o.restartNow ∈ [o].filterMap (spec.panickedAt maxInstant) :=
        List.mem_filterMap.2 ⟨o, List.mem_singleton_self o, reads⟩
      rw [if_pos rfl, Option.toList_some]
      refine ⟨keeps.admitted (fun t there => order t (read t there) _ here)
        (admit_of_restarted restarting admitted), ?_⟩
      intro t there
      rcases List.mem_append.1 there with before | last
      · exact List.mem_append_left _ (read t before)
      · exact List.mem_append_right _ (List.mem_singleton.1 last ▸ here)
    | continued outcome advanced =>
      obtain ⟨target, missed, delay, due, epoch', at_, count, -, -, -, rfl⟩ :=
        spec.of_advance advanced
      exact next (Nat.succ_ne_self _) rfl
    | failed failure within advanced =>
      obtain ⟨target, missed, delay, due, epoch', at_, count, -, -, -, rfl⟩ :=
        spec.of_advance advanced
      exact next (Nat.succ_ne_self _) rfl

end Recurring

/-! ## The result -/

/-- **Main result.**  Both limiters are sliding windows: of the restarts of a run, those that are
`max_restarts` apart are more than the window apart in time.  A recurring run refuses a restart
for its limit only if that is reached within the window.  In a run of a service this holds, or
a stop was accepted, if and only if every back-off that was not stopped can be slept: its end is an
instant. -/
theorem restart_budget_is_a_window [FloatOps F] :
    (∀ (spec : RecurringSpec F) (policy : RestartPolicy) (maxInstant anchor : Instant) (epoch : Nat)
        (ticks : List (TickObserved T E)) (observed : TickObserved T E) (s : RecurringLoop),
      spec.panicPolicy = .restart policy →
      ((ticks ++ [observed]).filterMap (spec.panickedAt maxInstant)).Pairwise (· ≤ ·) →
      (recurringLoop spec maxInstant anchor epoch).exec
        (recurringLoop (T := T) (E := E) spec maxInstant anchor epoch).init ticks = some s →
        Window.Spaced policy.window policy.maximumRestarts
          (recurringRestarts spec maxInstant anchor epoch ticks) ∧
        ∀ source message, runTick spec.operation maxInstant observed =
            some (.panicked source message) →
          spec.afterPanic (T := T) (E := E) maxInstant s source message observed.restartNow
            observed.restartPause = .exit (.failed (.recurring .restartLimitExceeded)) →
          policy.maximumRestarts ≤ (Window.within policy.window observed.restartNow
            (recurringRestarts spec maxInstant anchor epoch ticks)).length) ∧
    ∀ (spec : ServiceSpec) (policy : RestartPolicy) (maximumChildren : Nat) (maxInstant : Instant)
        (actions : List (ServiceAction T E × Instant)) (s : TimedService T E),
      spec.restartPolicy = some policy → Chronological actions →
      (timedService T E spec maximumChildren maxInstant).exec
        (timedService T E spec maximumChildren maxInstant).init actions = some s →
        ((Window.Spaced policy.window policy.maximumRestarts
            (restartsOf spec maximumChildren maxInstant actions) ∧
          ∀ before action x, Refuses spec maximumChildren maxInstant actions before action x →
            x.Justified policy (restartsOf spec maximumChildren maxInstant before) action.1) ↔
        ∀ before x, Wakes spec maximumChildren maxInstant actions before x →
          x.run.isCancelled = true ∨ x.sleptAt + policy.backoff ≤ maxInstant) := by
  refine ⟨?_, ?_⟩
  · intro spec policy maxInstant anchor epoch ticks observed s restarting clock run
    rw [List.filterMap_append] at clock
    obtain ⟨earlier, -, order⟩ := List.pairwise_append.1 clock
    obtain ⟨keeps, read⟩ := keeps_restarts restarting earlier run
    refine ⟨keeps.spaced, fun source message panicked refused => ?_⟩
    have reads : spec.panickedAt maxInstant observed = some observed.restartNow := by
      rw [RecurringSpec.panickedAt, panicked]
    refine (keeps.accept_eq_none fun t there => ?_).1 (admit_of_refused restarting refused)
    exact order t (read t there) _
      (List.mem_filterMap.2 ⟨observed, List.mem_singleton_self observed, reads⟩)
  · intro spec policy maximumChildren maxInstant actions s restarts clock run
    constructor
    · rintro ⟨-, justified⟩ before x wakes
      exact fits_of_justified restarts clock run justified wakes
    · intro fits
      refine ⟨(windowInv_of_run restarts clock run).keeps.spaced, ?_⟩
      exact fun before action x refuses => justified_of_refuses restarts clock fits refuses

/-- The body fails at 5. -/
def failedOnce : List (ServiceAction Unit Unit × Instant) :=
  [.execution (.runner .proceed), .execution (.runner .proceed), .execution (.runner .proceed),
    .execution (.body .proceed), .enter, .factory none 0, .execution (.jobEnds 0),
    .bodyJoined (.failed ()), .execution (.body .proceed), .execution (.body .proceed),
    .decide 5].map fun action => (action, 5)

/-- One restart in a minute, after a back-off of 10. -/
def shortBackoff : ServiceSpec :=
  { ServiceBuilder.new with
    restartTrigger := .onFailure
    restartPolicy := some ⟨1, 60, 10⟩
    required := by decide
    budget := by decide
    window := by decide
    timeout := by decide }

/-- The restarted body fails at 20. -/
def failedAgain : List (ServiceAction Unit Unit × Instant) :=
  [.enter, .factory none 15, .execution (.jobEnds 1), .bodyJoined (.failed ()),
    .execution (.body .proceed), .execution (.body .proceed), .decide 20].map
      fun action => (action, 20)

/-- Where one restart is allowed: a tick that panics again within the window, and a service whose
body fails again within it. -/
theorem restart_budget_is_a_window_refused :
    1 ≤ (Window.within 60 10 (recurringRestarts (everyTen .skip .continue) 1000 0 0
      [tickAt 5 0 (.factoryPanicked "tick panic")])).length ∧
    ((timedService Unit Unit shortBackoff 0 100).exec
      (timedService Unit Unit shortBackoff 0 100).init
        (failedOnce ++ (.wake false, 15) :: failedAgain)).map
          (fun s => s.run.execution.body.refused) = some true ∧
    Window.Spaced 60 1
      (restartsOf shortBackoff 0 100 (failedOnce ++ (.wake false, 15) :: failedAgain)) ∧
    ∀ before action x, Refuses shortBackoff 0 100 (failedOnce ++ (.wake false, 15) :: failedAgain)
      before action x →
        x.Justified ⟨1, 60, 10⟩ (restartsOf shortBackoff 0 100 before) action.1 := by
  obtain ⟨recurring, -⟩ := @restart_budget_is_a_window Nat Nat Rat _
  obtain ⟨-, service⟩ := @restart_budget_is_a_window Unit Unit Rat _
  have clock : (([tickAt 5 0 (.factoryPanicked "tick panic")] ++
      [tickAt 10 0 (.factoryPanicked "tick panic")]).filterMap
        ((everyTen .skip .continue).panickedAt 1000)).Pairwise (· ≤ ·) := by
    simp [RecurringSpec.panickedAt, everyTen, runTick, tickAt, TickFuture.run]
  refine ⟨?_, ?_⟩
  · exact (recurring (everyTen .skip .continue) ⟨1, 60, 0⟩ 1000 0 0
      [tickAt 5 0 (.factoryPanicked "tick panic")] (tickAt 10 0 (.factoryPanicked "tick panic"))
      ⟨0, 1, 0, 0, [5], 0⟩ rfl clock rfl).2 .factory "tick panic" rfl rfl
  · have runs : ((timedService Unit Unit shortBackoff 0 100).exec
        (timedService Unit Unit shortBackoff 0 100).init
          (failedOnce ++ (.wake false, 15) :: failedAgain)).map
            (fun s => s.run.execution.body.refused) = some true := by
      decide +kernel
    have sleeps : ((timedService Unit Unit shortBackoff 0 100).exec
        (timedService Unit Unit shortBackoff 0 100).init failedOnce).map TimedService.sleptAt =
          some 5 := by
      decide +kernel
    obtain ⟨s, run, -⟩ := Option.map_eq_some_iff.1 runs
    refine ⟨runs, (service shortBackoff ⟨1, 60, 10⟩ 0 100 _ s rfl ?_ run).2 ?_⟩
    · simp [Chronological, failedOnce, failedAgain, ServiceAction.reading]
    · rintro before x ⟨⟨interrupted, slept, rest, split⟩, ran⟩
      -- the run sleeps once
      have once : ∀ entry ∈ failedOnce ++ failedAgain, entry ≠ (.wake interrupted, slept) := by
        simp [failedOnce, failedAgain]
      obtain ⟨same, -⟩ := (List.append_cons_inj_of_notMem
        (fun member => once _ (List.mem_append_left _ member) rfl)
        (fun member => once _ (List.mem_append_right _ member) rfl)).1 split
      subst same
      obtain ⟨x', ran', at_⟩ := Option.map_eq_some_iff.1 sleeps
      obtain rfl := Option.some.inj (ran.symm.trans ran')
      exact Or.inr (at_ ▸ by decide)

/-- Three restarts in a minute, each after a back-off that cannot be slept. -/
def endlessBackoff : ServiceSpec :=
  { ServiceBuilder.new with
    restartTrigger := .onFailure
    restartPolicy := some ⟨3, 60, 1000⟩
    required := by decide
    budget := by decide
    window := by decide
    timeout := by decide }

/-- The first restart is refused for its limit: its back-off ends after the last instant. -/
theorem endless_backoff_refused :
    ∃ s, Chronological (failedOnce ++ [(.wake true, 5)]) ∧
      Refuses endlessBackoff 0 100 (failedOnce ++ [(.wake true, 5)]) failedOnce (.wake true, 5) s ∧
      ¬ s.Justified ⟨3, 60, 1000⟩ (restartsOf endlessBackoff 0 100 failedOnce) (.wake true) := by
  have runs : ((timedService Unit Unit endlessBackoff 0 100).exec
      (timedService Unit Unit endlessBackoff 0 100).init failedOnce).map (fun s =>
        (s.run.isCancelled, s.run.execution.body.refused,
          ((timedService Unit Unit endlessBackoff 0 100).step s (.wake true, 5)).map fun after =>
            after.run.execution.body.refused)) = some (false, false, some true) := by
    decide +kernel
  have restarts : restartsOf endlessBackoff 0 100 failedOnce = [5] := by decide +kernel
  obtain ⟨s, run, found⟩ := Option.map_eq_some_iff.1 runs
  obtain ⟨free, found⟩ := Prod.mk.inj found
  obtain ⟨calm, steps⟩ := Prod.mk.inj found
  obtain ⟨after, step, refused⟩ := Option.map_eq_some_iff.1 steps
  refine ⟨s, by simp [Chronological, failedOnce, ServiceAction.reading],
    ⟨⟨[], rfl⟩, run, calm, after, step, refused⟩, ?_⟩
  rw [restarts]
  rintro (cancelled | ⟨others, now, asked, full⟩)
  · rw [free] at cancelled
    cases cancelled
  · obtain ⟨rfl, rfl⟩ := Prod.mk.inj (Option.some.inj asked)
    exact absurd full (by decide)

end BusyBeaver
