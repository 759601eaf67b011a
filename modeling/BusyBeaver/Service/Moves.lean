import BusyBeaver.Service.State

/-!
# What `run_service` does next

`ServiceRun.BodyMoved` lists the moves of `run_service`, each with what it finds and where
its body goes; `Phase.Foreign` those of the body that it decides nothing in.  The results on
services take their steps from these two.
-/

namespace BusyBeaver

variable {T E : Type}

namespace ServiceRun

variable {spec : ServiceSpec} {run written after : ServiceRun T E} {phase next : Phase}
  {choice : Choice T E} {action : ServiceAction T E}

/-- What `run_service` writes is in place, and its body goes on at another phase. -/
structure Goes (written : ServiceRun T E) (choice : Choice T E) (next : Phase)
    (after : ServiceRun T E) : Prop where
  proceeds : written.proceed choice = some after
  body : after.execution.body = .running next
  kind : after.execution.kind = written.execution.kind
  stop : after.execution.core.stopCause = written.execution.core.stopCause

inductive BodyMoved (spec : ServiceSpec) (run after : ServiceRun T E) :
    Phase → ServiceAction T E → Prop
  | enter {generation : Nat} {stops : Bool} :
    Goes { run with
      generation := generation
      contexts := generation
      status := .starting generation
      joined := none } .proceed (.begun (.generation generation stops)) after →
    BodyMoved spec run after (.entering (.generation generation stops)) .enter
  | launch {generation : Nat} {stops : Bool} {now : Instant} :
    Goes run .proceed (.driving (.generation generation stops) run.execution.nextJob) after →
    BodyMoved spec run after (.begun (.generation generation stops)) (.factory none now)
  | unwind {generation : Nat} {stops : Bool} {message : String} {now : Instant} :
    run.panicked spec generation .factory .factory message now = some after →
    BodyMoved spec run after (.begun (.generation generation stops)) (.factory (some message) now)
  | bodyJoined {turn : Iteration} {job : Nat} {result : JobResult T E} :
    Goes { run with joined := some result } .proceed (.leaving turn) after →
    BodyMoved spec run after (.driving turn job) (.bodyJoined result)
  | cancelled {generation : Nat} {stops : Bool} {job : Nat} :
    Goes { run with status := .stopping generation } .expire
      (.stopping (.generation generation true) job) after →
    BodyMoved spec run after (.driving (.generation generation stops) job) .cancelled
  -- a service without a hook goes straight to its join
  | callHook {turn : Iteration} {job : Nat} {next : Phase} :
    next = .hooking turn job run.execution.nextJob ∨
      next = .joining turn job ∧ run.execution.kind ≠ .service true →
    Goes { run with hook := .notRequired } .proceed next after →
    BodyMoved spec run after (.stopping turn job) (.callHook false)
  | hookPanics {turn : Iteration} {job : Nat} :
    Goes { run with hook := .panicked } (.panic "") (.joining turn job) after →
    BodyMoved spec run after (.stopping turn job) (.callHook true)
  | awaitHook {turn : Iteration} {job hook : Nat} {result : Option (JobResult Unit String)} :
    Goes { run with hook := hookOutcome result } (if result.isSome then .proceed else .expire)
      (.joining turn job) after →
    BodyMoved spec run after (.hooking turn job hook) (.awaitHook result)
  | join {turn : Iteration} {job : Nat} {result : JobResult T E} :
    Goes { run with joined := some result } .proceed (.leaving turn) after →
    BodyMoved spec run after (.joining turn job) (.join result)
  | stopped {generation : Nat} {result : JobResult T E} {now : Instant} :
    run.joined = some result →
    run.finish (some (.stopped generation run.hook)) (run.stoppedExit generation result) =
      some after →
    BodyMoved spec run after (.decided (.generation generation true)) (.decide now)
  | decide {generation : Nat} {result : JobResult T E} {now : Instant} :
    run.joined = some result → run.afterBody spec generation now result = some after →
    BodyMoved spec run after (.decided (.generation generation false)) (.decide now)
  | interrupted {generation : Nat} {stops : Bool} {cause : RestartCause E} :
    run.cause = some cause →
    run.finish (refusedStatus generation cause) (refusedExit generation cause.lastError) =
      some after →
    BodyMoved spec run after (.sleeping (.generation generation stops)) (.wake true)
  | wake {generation : Nat} {stops : Bool} {cause : RestartCause E} {turn : Iteration} :
    run.cause = some cause → (Iteration.generation generation stops).next = some turn →
    Goes run .proceed (.entering turn) after →
    BodyMoved spec run after (.sleeping (.generation generation stops)) (.wake false)
  | overflow {generation : Nat} {stops : Bool} {cause : RestartCause E} :
    run.cause = some cause → (Iteration.generation generation stops).next = none →
    run.finish none ⟨.failed (.service .generationOverflow), rfl⟩ = some after →
    BodyMoved spec run after (.sleeping (.generation generation stops)) (.wake false)

theorem Goes.exists_eq (goes : Goes written choice next after) :
    ∃ execution, after = { written with execution := execution } := by
  obtain ⟨execution, -, rfl⟩ := Option.map_eq_some_iff.1 goes.proceeds
  exact ⟨execution, rfl⟩

/-- The one step of the execution that a move takes. -/
theorem Goes.of_proceed (step : written.proceed choice = some after)
    (moves : ∀ execution, written.execution.bodyStep choice = some execution →
      execution.body = .running next ∧ execution.kind = written.execution.kind ∧
        execution.core.stopCause = written.execution.core.stopCause) :
    Goes written choice next after := by
  obtain ⟨execution, moved, rfl⟩ := Option.map_eq_some_iff.1 step
  obtain ⟨body, kind, stop⟩ := moves execution moved
  exact ⟨step, body, kind, stop⟩

/-- **Step lemma** of `run_service`. -/
theorem BodyMoved.of_bodyStep (here : run.execution.body = .running phase)
    (step : run.bodyStep spec phase action = some after) :
    BodyMoved spec run after phase action := by
  cases action with
  | enter =>
    simp only [bodyStep] at step
    split at step
    · refine .enter (.of_proceed step fun execution moved => ?_)
      simp only [Supervised.bodyStep, here, Supervised.enter] at moved
      obtain rfl := Option.some.inj moved
      exact ⟨rfl, rfl, rfl⟩
    · cases step
  | factory panic now =>
    simp only [bodyStep] at step
    split at step
    · refine .launch (.of_proceed step fun execution moved => ?_)
      simp only [Supervised.bodyStep, here, Supervised.launch] at moved
      obtain rfl := Option.some.inj moved
      exact ⟨rfl, rfl, rfl⟩
    · exact .unwind step
    · cases step
  | bodyJoined result =>
    simp only [bodyStep] at step
    split at step
    · refine .bodyJoined (.of_proceed step fun execution moved => ?_)
      simp only [Supervised.bodyStep, here, Supervised.drive] at moved
      obtain ⟨-, same⟩ := Option.ite_none_left_eq_some.1 moved
      obtain rfl := Option.some.inj same
      exact ⟨rfl, rfl, rfl⟩
    · cases step
  | cancelled =>
    simp only [bodyStep] at step
    split at step
    · refine .cancelled (.of_proceed step fun execution moved => ?_)
      simp only [Supervised.bodyStep, here, Supervised.drive] at moved
      obtain ⟨-, same⟩ := Option.ite_none_right_eq_some.1 moved
      obtain rfl := Option.some.inj same
      exact ⟨rfl, rfl, rfl⟩
    · cases step
  | callHook panics =>
    simp only [bodyStep] at step
    split at step
    · cases panics with
      | true =>
        refine .hookPanics (.of_proceed step fun execution moved => ?_)
        simp only [Supervised.bodyStep, here, Supervised.callHook] at moved
        split at moved
        · obtain rfl := Option.some.inj moved
          exact ⟨rfl, rfl, rfl⟩
        · cases moved
      | false =>
        by_cases hooked : run.execution.kind = .service true
        · refine .callHook (Or.inl rfl) (.of_proceed step fun execution moved => ?_)
          simp only [Supervised.bodyStep, here, Supervised.callHook, hooked] at moved
          obtain rfl := Option.some.inj moved
          exact ⟨rfl, rfl, rfl⟩
        · refine .callHook (Or.inr ⟨rfl, hooked⟩) (.of_proceed step fun execution moved => ?_)
          simp only [Supervised.bodyStep, here, Supervised.callHook] at moved
          obtain rfl := Option.some.inj moved
          exact ⟨rfl, rfl, rfl⟩
    · cases step
  | awaitHook result =>
    simp only [bodyStep] at step
    split at step
    · refine .awaitHook (.of_proceed step fun execution moved => ?_)
      simp only [Supervised.bodyStep, here] at moved
      cases result with
      | some result =>
        obtain ⟨-, same⟩ := Option.ite_none_left_eq_some.1 moved
        obtain rfl := Option.some.inj same
        exact ⟨rfl, rfl, rfl⟩
      | none =>
        obtain rfl := Option.some.inj moved
        exact ⟨rfl, rfl, rfl⟩
    · cases step
  | join result =>
    simp only [bodyStep] at step
    split at step
    · refine .join (.of_proceed step fun execution moved => ?_)
      simp only [Supervised.bodyStep, here, Supervised.join] at moved
      obtain ⟨-, same⟩ := Option.ite_none_left_eq_some.1 moved
      obtain rfl := Option.some.inj same
      exact ⟨rfl, rfl, rfl⟩
    · cases step
  | decide now =>
    simp only [bodyStep] at step
    split at step
    · exact .stopped ‹_› step
    · exact .decide ‹_› step
    · cases step
  | wake interrupted =>
    simp only [bodyStep] at step
    split at step
    · rename_i known
      cases interrupted with
      | true => exact .interrupted known step
      | false =>
        simp only [Bool.false_eq_true, if_false] at step
        split at step
        · rename_i following
          refine .wake known following (.of_proceed step fun execution moved => ?_)
          simp only [Supervised.bodyStep, here, Supervised.wake, following,
            Option.map_some] at moved
          obtain rfl := Option.some.inj moved
          exact ⟨rfl, rfl, rfl⟩
        · exact .overflow known ‹_› step
    · cases step
  | check generation health => cases step
  | report status => cases step
  | execution action => cases step

end ServiceRun

/-! ## What the body does by itself -/

/-- The moves of the body that `run_service` decides nothing in. -/
inductive Phase.Foreign : Phase → Phase → Prop
  | start : Foreign .spawned (.entering (.generation 1 false))
  | leave {turn : Iteration} {pending : List Nat} : Foreign (.leaving turn) (.closing turn pending)
  | closed {turn : Iteration} : Foreign (.closing turn []) (.decided turn)
  | await {turn : Iteration} {child : Nat} {pending : List Nat} :
    Foreign (.closing turn (child :: pending)) (.closing turn pending)

namespace ServiceRun

theorem foreign_of_step {run : ServiceRun T E} {phase : Phase} {execution : Supervised T E}
    {hook : Bool} (kind : run.execution.kind = .service hook)
    (here : run.execution.body = .running phase) (foreign : run.isForeign (.body .proceed) = true)
    (step : run.execution.step (.body .proceed) = some execution) :
    ∃ next, phase.Foreign next ∧ execution.body = .running next ∧
      execution.kind = run.execution.kind ∧
        execution.core.stopCause = run.execution.core.stopCause := by
  simp only [isForeign, here] at foreign
  simp only [Supervised.step, Supervised.bodyStep, here] at step
  split at foreign
  · rename_i same
    obtain rfl := BodyTask.running.inj same
    simp only [Supervised.start, kind] at step
    obtain rfl := Option.some.inj step
    exact ⟨_, .start, rfl, rfl, rfl⟩
  · rename_i turn same
    obtain rfl := BodyTask.running.inj same
    obtain rfl := Option.some.inj step
    exact ⟨_, .leave, rfl, rfl, rfl⟩
  · rename_i turn pending same
    obtain rfl := BodyTask.running.inj same
    cases pending with
    | nil =>
      obtain rfl := Option.some.inj step
      exact ⟨_, .closed, rfl, rfl, rfl⟩
    | cons child pending =>
      obtain ⟨-, same⟩ := Option.ite_none_left_eq_some.1 step
      obtain rfl := Option.some.inj same
      exact ⟨_, .await, rfl, rfl, rfl⟩
  · cases foreign

end ServiceRun

/-! ## A step -/

namespace ServiceRun

variable {spec : ServiceSpec} {run after : ServiceRun T E} {action : ServiceAction T E}

inductive Moved (spec : ServiceSpec) (run : ServiceRun T E) :
    ServiceAction T E → ServiceRun T E → Prop
  | check {generation : Nat} {health : HealthStatus} :
    run.checks generation = true →
    Moved spec run (.check generation health)
      { run with reports := run.reports ++ [.ready generation health] }
  | report {status : ServiceStatus} :
    status ∈ run.reports →
    Moved spec run (.report status)
      { run with status := status, reports := run.reports.erase status }
  | execution {move : SupervisedAction T E} {execution : Supervised T E} :
    run.isForeign move = true → run.execution.step move = some execution →
    Moved spec run (.execution move) { run with execution := execution }
  | body {action : ServiceAction T E} {phase : Phase} {after : ServiceRun T E} :
    run.execution.body = .running phase → BodyMoved spec run after phase action →
    Moved spec run action after

/-- **Step lemma** of a service. -/
theorem Moved.of_step (step : run.step spec action = some after) :
    Moved spec run action after := by
  cases action with
  | check generation health =>
    obtain ⟨checked, same⟩ := Option.ite_none_right_eq_some.1 step
    obtain rfl := Option.some.inj same
    exact .check checked
  | report status =>
    obtain ⟨member, same⟩ := Option.ite_none_right_eq_some.1 step
    obtain rfl := Option.some.inj same
    exact .report member
  | execution move =>
    obtain ⟨foreign, moves⟩ := Option.ite_none_right_eq_some.1 step
    obtain ⟨execution, moved, rfl⟩ := Option.map_eq_some_iff.1 moves
    exact .execution foreign moved
  | _ =>
    simp only [ServiceRun.step] at step
    split at step
    · rename_i here
      exact .body here (.of_bodyStep here step)
    · cases step

end ServiceRun

end BusyBeaver
