import BusyBeaver.Lib.History
import BusyBeaver.Lib.Window
import BusyBeaver.Service.Hook
import BusyBeaver.Service.Stopped

/-!
# The restart budget of a service

`admit_restart` lets restarts through by a sliding window, and its caller refuses the others.  It
also refuses a restart whose back-off was interrupted; `timedService` adds the instant from which
the back-off is slept, and with it what interrupts it.
-/

namespace BusyBeaver

open Transition

variable {T E : Type}

/-- The exit of a restart that was refused for its limit. -/
def TaskExit.isRefusal : TaskExit T E → Bool
  | .failed (.service (.restartLimitExceeded _ _)) => true
  | _ => false

/-- The body has returned that a restart was refused. -/
def BodyTask.refused : BodyTask T E → Bool
  | .ended (.returned returned) => returned.exit.isRefusal
  | _ => false

/-- The instant that is read when a restart is asked for. -/
def ServiceAction.reading : ServiceAction T E → Option Instant
  | .factory _ now | .decide now => some now
  | _ => none

theorem refused_of_goes {body : BodyTask T E} (goes : body.hasEnded = false) :
    body.refused = false := by
  cases body with
  | ended joined => cases goes
  | _ => rfl

namespace ServiceRun

variable {spec : ServiceSpec} {run after : ServiceRun T E} {choice : Choice T E}
  {action : ServiceAction T E} {generation : Nat} {cause : RestartCause E} {now : Instant}

/-- The window is left alone, and no restart is refused. -/
structure Calm (run after : ServiceRun T E) : Prop where
  times : after.restartTimes = run.restartTimes
  count : after.restartCount = run.restartCount
  kept : after.execution.body.refused = true → run.execution.body.refused = true

/-- What a step does about restarts. -/
inductive Restarts (spec : ServiceSpec) (run : ServiceRun T E) (action : ServiceAction T E)
    (after : ServiceRun T E) : Prop
  | calm (calm : Calm run after)
  | rejected {now : Instant} (reading : action.reading = some now)
    (rejected : admitRestart spec run now = .rejected)
    (times : after.restartTimes = run.restartTimes) (count : after.restartCount = run.restartCount)
  | slept {now : Instant} {restartTimes : List Instant} {restartCount : Nat}
    (reading : action.reading = some now)
    (admitted : admitRestart spec run now = .backoff restartTimes restartCount)
    (times : after.restartTimes = restartTimes) (count : after.restartCount = restartCount)
    (goes : after.execution.body.refused = false)
  | interrupted (wakes : action = .wake true) (times : after.restartTimes = run.restartTimes)
    (count : after.restartCount = run.restartCount)

theorem Calm.of_proceed {written : ServiceRun T E} (step : written.proceed choice = some after)
    (times : written.restartTimes = run.restartTimes)
    (count : written.restartCount = run.restartCount)
    (polite : ∀ returned, choice.returned = some returned → returned.exit.isRefusal = false) :
    Calm run after := by
  obtain ⟨execution, moves, rfl⟩ := Option.map_eq_some_iff.1 step
  refine ⟨times, count, fun refused => ?_⟩
  rcases Supervised.lands_of_bodyStep moves with goes | ⟨returned, returns, ended⟩
  · rw [refused_of_goes goes] at refused
    cases refused
  · have refuses : returned.exit.isRefusal = true := by
      rw [ended] at refused
      exact refused
    rw [polite returned returns] at refuses
    cases refuses

theorem Calm.of_finish {status : Option ServiceStatus} {exit : Returned T E}
    (step : run.finish status exit = some after) (polite : exit.exit.isRefusal = false) :
    Calm run after := by
  refine .of_proceed step rfl rfl fun returned returns => ?_
  obtain rfl := Option.some.inj returns
  exact polite

theorem times_of_finish {status : Option ServiceStatus} {exit : Returned T E}
    (step : run.finish status exit = some after) :
    after.restartTimes = run.restartTimes ∧ after.restartCount = run.restartCount := by
  obtain ⟨execution, moves, rfl⟩ := Option.map_eq_some_iff.1 step
  exact ⟨rfl, rfl⟩

theorem Restarts.of_restart (reading : action.reading = some now)
    (step : run.restart spec generation cause now = some after) :
    Restarts spec run action after := by
  unfold restart at step
  split at step
  · rename_i rejected
    obtain ⟨times, count⟩ := times_of_finish step
    exact .rejected reading rejected times count
  · exact .calm (.of_finish step rfl)
  · rename_i restartTimes restartCount admitted
    obtain ⟨execution, moves, rfl⟩ := Option.map_eq_some_iff.1 step
    have sleeps : run.execution.bodyStep .sleep = some execution := moves
    exact .slept reading admitted rfl rfl
      (refused_of_goes (Supervised.goes_of_bodyStep rfl sleeps))

theorem isRefusal_panicExit (source : PanicSource) (message : String) :
    (panicExit source message : TaskExit T E).isRefusal = false := by
  unfold panicExit
  split <;> rfl

theorem Restarts.of_panicked {source : PanicSource} {message : String}
    (reading : action.reading = some now)
    (step : run.panicked spec generation source cause message now = some after) :
    Restarts spec run action after := by
  unfold panicked at step
  split at step
  · exact .calm (.of_finish step (isRefusal_panicExit source message))
  · exact .of_restart reading step

theorem Restarts.of_afterBody {result : JobResult T E} (reading : action.reading = some now)
    (step : run.afterBody spec generation now result = some after) :
    Restarts spec run action after := by
  unfold afterBody at step
  split at step
  · exact .calm (.of_finish step rfl)
  · cases result with
    | returned value => exact .calm (.of_finish step rfl)
    | failed error =>
      simp only at step
      split at step
      · exact .of_restart reading step
      · exact .calm (.of_finish step rfl)
    | panicked message => exact .of_panicked reading step
    | lost => exact .calm (.of_finish step rfl)

theorem isRefusal_stoppedExit (result : JobResult T E) :
    (run.stoppedExit generation result).exit.isRefusal = false := by
  cases result with
  | panicked message => exact isRefusal_panicExit .serviceBody message
  | _ => rfl

theorem Restarts.of_moved {phase : Phase} (moved : BodyMoved spec run after phase action) :
    Restarts spec run action after := by
  have silent {choice : Choice T E} (none_ : choice.returned = none) (returned : Returned T E)
      (returns : choice.returned = some returned) : returned.exit.isRefusal = false := by
    rw [none_] at returns
    cases returns
  cases moved with
  | enter goes | launch goes | bodyJoined goes | cancelled goes | callHook _ goes
  | hookPanics goes | join goes | wake _ _ goes =>
    exact .calm (.of_proceed goes.proceeds rfl rfl (silent rfl))
  | awaitHook goes =>
    refine .calm (.of_proceed goes.proceeds rfl rfl (silent ?_))
    split <;> rfl
  | unwind unwinds => exact .of_panicked rfl unwinds
  | stopped _ returns => exact .calm (.of_finish returns (isRefusal_stoppedExit _))
  | decide _ decides => exact .of_afterBody rfl decides
  | interrupted _ returns =>
    obtain ⟨times, count⟩ := times_of_finish returns
    exact .interrupted rfl times count
  | overflow _ _ returns => exact .calm (.of_finish returns rfl)

/-- What the execution does by itself is no refusal. -/
theorem kept_of_foreign {move : SupervisedAction T E} {execution : Supervised T E}
    (foreign : run.isForeign move = true) (step : run.execution.step move = some execution)
    (refused : execution.body.refused = true) : run.execution.body.refused = true := by
  have kept (beside : Supervised.Beside run.execution execution) :
      run.execution.body.refused = true :=
    beside.body ▸ refused
  cases move with
  | runner choice =>
    cases choice with
    | proceed =>
      have moves : run.execution.runnerStep .proceed = some execution := step
      rcases (Supervised.RunnerMoved.of_runnerStep moves).body with same | ⟨-, spawned⟩
      · rw [← same]
        exact refused
      · rw [spawned] at refused
        cases refused
    | _ => cases foreign
  | body choice =>
    cases choice with
    | proceed =>
      have moves : run.execution.bodyStep .proceed = some execution := step
      rw [refused_of_goes (Supervised.goes_of_bodyStep rfl moves)] at refused
      cases refused
    | _ => cases foreign
  | unwind message =>
    simp only [Supervised.step] at step
    split at step
    · obtain ⟨-, same⟩ := Option.ite_none_right_eq_some.1 step
      obtain rfl := Option.some.inj same
      cases refused
    · cases step
  | abortBody =>
    simp only [Supervised.step] at step
    split at step
    · obtain ⟨-, same⟩ := Option.ite_none_right_eq_some.1 step
      obtain rfl := Option.some.inj same
      cases refused
    · cases step
  | _ => exact kept (.of_step step (by simp) (by simp) (by simp) (by simp))

/-- **Inversion of a step.** -/
theorem Restarts.of_step (step : run.step spec action = some after) :
    Restarts spec run action after := by
  cases Moved.of_step step with
  | check | report => exact .calm ⟨rfl, rfl, id⟩
  | execution foreign moves => exact .calm ⟨rfl, rfl, kept_of_foreign foreign moves⟩
  | body _ moved => exact .of_moved moved

/-! ## The limiter -/

theorem admit_of_backoff {policy : RestartPolicy} {restartTimes : List Instant}
    {restartCount : Nat} (restarts : spec.restartPolicy = some policy)
    (admitted : admitRestart spec run now = .backoff restartTimes restartCount) :
    Window.accept policy.window policy.maximumRestarts now run.restartTimes = some restartTimes ∧
      restartCount = run.restartCount + 1 := by
  rw [admitRestart, restarts] at admitted
  dsimp only at admitted
  split at admitted
  · cases admitted
  · rename_i room
    split at admitted
    · cases admitted
    · rename_i counted
      obtain ⟨rfl, rfl⟩ := Admission.backoff.inj admitted
      exact ⟨if_neg fun full => room (Or.inl full), (Checked.add_eq_some.1 counted).2⟩

theorem admit_of_rejected {policy : RestartPolicy} (restarts : spec.restartPolicy = some policy)
    (rejected : admitRestart spec run now = .rejected) :
    Window.accept policy.window policy.maximumRestarts now run.restartTimes = none ∨
      run.isCancelled = true := by
  rw [admitRestart, restarts] at rejected
  dsimp only at rejected
  split at rejected
  · rename_i reason
    exact reason.imp_left fun full => if_pos full
  · split at rejected
    · cases rejected
    · cases rejected

/-- A back-off that is interrupted is a refusal. -/
theorem refused_of_interrupted (step : run.step spec (.wake true) = some after) :
    run.execution.body.refused = false ∧ after.execution.body.refused = true := by
  cases Moved.of_step step with
  | body here moved =>
    cases moved with
    | interrupted _ returns =>
      rw [finish_eq returns here (Or.inr (Or.inr rfl)), here]
      exact ⟨rfl, rfl⟩

end ServiceRun

/-! ## The back-off -/

/-- A service, and the instant from which its last back-off is slept. -/
structure TimedService (T E : Type) : Type where
  run : ServiceRun T E
  sleptAt : Instant

namespace TimedService

/-- The back-off is interrupted: the service is cancelled, or the end of the sleep is no
instant. -/
def interrupts (spec : ServiceSpec) (maxInstant : Instant) (s : TimedService T E) : Bool :=
  s.run.isCancelled ||
    spec.restartPolicy.any fun policy =>
      (Checked.add maxInstant s.sleptAt policy.backoff).isNone

/-- `sleep` tells what has interrupted it. -/
def allows (spec : ServiceSpec) (maxInstant : Instant) (s : TimedService T E) :
    ServiceAction T E → Bool
  | .wake interrupted => interrupted == s.interrupts spec maxInstant
  | _ => true

/-- A restart is let through at this instant. -/
def letThrough (spec : ServiceSpec) (s : TimedService T E) (action : ServiceAction T E × Instant) :
    Option Instant :=
  (s.run.step spec action.1).bind fun after =>
    if after.restartCount = s.run.restartCount then none else action.1.reading

end TimedService

/-- All runs of a service; an action comes with the instant that `sleep` reads, should it start a
back-off. -/
def timedService (T E : Type) (spec : ServiceSpec) (maximumChildren : Nat) (maxInstant : Instant) :
    System (TimedService T E) (ServiceAction T E × Instant) where
  init := ⟨.new spec maximumChildren, 0⟩
  step := fun s action =>
    if s.allows spec maxInstant action.1 then
      (s.run.step spec action.1).map fun after =>
        ⟨after, if after.restartCount = s.run.restartCount then s.sleptAt else action.2⟩
    else none

/-- The restarts that were let through before an action asks about one, and when it was asked
for; at the end of a back-off it is the last one that was let through. -/
def ServiceAction.asked (times : List Instant) : ServiceAction T E → Option (List Instant × Instant)
  | .wake _ => times.getLast?.map fun now => (times.dropLast, now)
  | action => action.reading.map fun now => (times, now)

theorem asked_of_reading {times : List Instant} {action : ServiceAction T E} {now : Instant}
    (reading : action.reading = some now) : action.asked times = some (times, now) := by
  cases action with
  | factory panic at_ => exact congrArg (Option.map fun now => (times, now)) reading
  | decide at_ => exact congrArg (Option.map fun now => (times, now)) reading
  | _ => cases reading

/-- A refusal is justified: a stop was accepted, or the limit is reached within the window. -/
def TimedService.Justified (policy : RestartPolicy) (times : List Instant) (s : TimedService T E)
    (action : ServiceAction T E) : Prop :=
  s.run.isCancelled = true ∨ ∃ before now, action.asked times = some (before, now) ∧
    policy.maximumRestarts ≤ (Window.within policy.window now before).length

/-! ## The invariant -/

section Runs

variable {spec : ServiceSpec} {maximumChildren : Nat} {maxInstant : Instant}
  {policy : RestartPolicy} {s after : TimedService T E} {action : ServiceAction T E × Instant}
  {readings times : List Instant}

/-- What the service keeps of the restarts that were let through. -/
structure WindowInv (policy : RestartPolicy) (readings times : List Instant)
    (s : TimedService T E) : Prop where
  keeps : Window.Keeps policy.window policy.maximumRestarts times s.run.restartTimes
  read : ∀ t ∈ times, t ∈ readings
  last : ∀ before now, times = before ++ [now] →
    (Window.within policy.window now before).length < policy.maximumRestarts

theorem timed_step (step : (timedService T E spec maximumChildren maxInstant).step s action =
    some after) :
    s.allows spec maxInstant action.1 = true ∧ s.run.step spec action.1 = some after.run := by
  obtain ⟨allowed, same⟩ := Option.ite_none_right_eq_some.1 step
  obtain ⟨run, moves, rfl⟩ := Option.map_eq_some_iff.1 same
  exact ⟨allowed, moves⟩

/-- **Step lemma.** -/
theorem WindowInv.step (inv : WindowInv policy readings times s)
    (restarts : spec.restartPolicy = some policy)
    (clock : ∀ now ∈ action.1.reading, ∀ t ∈ readings, t ≤ now)
    (step : (timedService T E spec maximumChildren maxInstant).step s action = some after) :
    WindowInv policy (readings ++ action.1.reading.toList)
      (times ++ (s.letThrough spec action).toList) after := by
  obtain ⟨-, moves⟩ := timed_step step
  rw [TimedService.letThrough, moves, Option.bind_some]
  have same (kept : after.run.restartTimes = s.run.restartTimes)
      (count : after.run.restartCount = s.run.restartCount) :
      WindowInv policy (readings ++ action.1.reading.toList)
        (times ++ (if after.run.restartCount = s.run.restartCount then none
          else action.1.reading).toList) after := by
    rw [if_pos count, Option.toList_none, List.append_nil]
    exact ⟨kept ▸ inv.keeps, fun t there => List.mem_append_left _ (inv.read t there), inv.last⟩
  cases ServiceRun.Restarts.of_step moves with
  | calm calm => exact same calm.times calm.count
  | rejected reading rejected times count => exact same times count
  | interrupted wakes times count => exact same times count
  | @slept now restartTimes restartCount reading admitted kept count goes =>
    obtain ⟨admits, grows⟩ := ServiceRun.admit_of_backoff restarts admitted
    have passed : ∀ t ∈ times, t ≤ now := fun t there => clock now reading t (inv.read t there)
    rw [if_neg (by omega), reading, Option.toList_some]
    refine ⟨kept ▸ inv.keeps.admitted passed admits, ?_, ?_⟩
    · intro t there
      rcases List.mem_append.1 there with earlier | here
      · exact List.mem_append_left _ (inv.read t earlier)
      · exact List.mem_append_right _ here
    · intro before now' split
      obtain ⟨rfl, same⟩ := List.append_inj' split rfl
      obtain rfl := List.singleton_inj.1 same
      refine Nat.lt_of_not_le fun full => ?_
      rw [(inv.keeps.accept_eq_none passed).2 full] at admits
      cases admits

/-- The restarts that a run has let through. -/
def restartsOf (spec : ServiceSpec) (maximumChildren : Nat) (maxInstant : Instant)
    (actions : List (ServiceAction T E × Instant)) : List Instant :=
  (timedService T E spec maximumChildren maxInstant).outputs (TimedService.letThrough spec)
    (timedService T E spec maximumChildren maxInstant).init actions

/-- The clock readings of a run do not run backwards. -/
def Chronological (actions : List (ServiceAction T E × Instant)) : Prop :=
  (actions.filterMap fun action => action.1.reading).Pairwise (· ≤ ·)

variable {actions before rest : List (ServiceAction T E × Instant)}

/-- **Run lemma.** -/
theorem windowInv_of_run (restarts : spec.restartPolicy = some policy)
    (clock : Chronological actions)
    (run : (timedService T E spec maximumChildren maxInstant).exec
      (timedService T E spec maximumChildren maxInstant).init actions = some s) :
    WindowInv policy (actions.filterMap fun action => action.1.reading)
      (restartsOf spec maximumChildren maxInstant actions) s := by
  refine System.exec_invariant (I := fun as s => Chronological as →
    WindowInv policy (as.filterMap fun action => action.1.reading)
      (restartsOf spec maximumChildren maxInstant as) s) ?_ ?_ run clock
  · intro _
    refine ⟨Window.keeps_nil _ _, fun t there => absurd there List.not_mem_nil, ?_⟩
    intro before now split
    cases before <;> cases split
  · intro as x y action reached ih step chronological
    rw [Chronological, List.filterMap_append] at chronological
    obtain ⟨earlier, -, order⟩ := List.pairwise_append.1 chronological
    have reads : List.filterMap (fun action => ServiceAction.reading action.1) [action] =
        action.1.reading.toList := by
      cases reading : action.1.reading <;> simp [reading]
    rw [List.filterMap_append, restartsOf, System.outputs_snoc reached, reads]
    refine (ih earlier).step restarts ?_ step
    intro now reading t there
    refine order t there now ?_
    rw [reads]
    exact Option.mem_toList.2 reading

/-- A step of a run refuses a restart. -/
def Refuses (spec : ServiceSpec) (maximumChildren : Nat) (maxInstant : Instant)
    (actions before : List (ServiceAction T E × Instant)) (action : ServiceAction T E × Instant)
    (s : TimedService T E) : Prop :=
  (∃ rest, actions = before ++ action :: rest) ∧
    (timedService T E spec maximumChildren maxInstant).exec
      (timedService T E spec maximumChildren maxInstant).init before = some s ∧
    s.run.execution.body.refused = false ∧
    ∃ after, (timedService T E spec maximumChildren maxInstant).step s action = some after ∧
      after.run.execution.body.refused = true

/-- A back-off of a run is over. -/
def Wakes (spec : ServiceSpec) (maximumChildren : Nat) (maxInstant : Instant)
    (actions before : List (ServiceAction T E × Instant)) (s : TimedService T E) : Prop :=
  (∃ interrupted slept rest, actions = before ++ (.wake interrupted, slept) :: rest) ∧
    (timedService T E spec maximumChildren maxInstant).exec
      (timedService T E spec maximumChildren maxInstant).init before = some s

theorem interrupts_iff (restarts : spec.restartPolicy = some policy) :
    s.interrupts spec maxInstant = true ↔
      s.run.isCancelled = true ∨ maxInstant < s.sleptAt + policy.backoff := by
  rw [TimedService.interrupts, restarts, Bool.or_eq_true]
  simp [Checked.add_eq_none]

/-- What a refusal comes from. -/
theorem justified_of_refuses (restarts : spec.restartPolicy = some policy)
    (clock : Chronological actions)
    (fits : ∀ before s, Wakes spec maximumChildren maxInstant actions before s →
      s.run.isCancelled = true ∨ s.sleptAt + policy.backoff ≤ maxInstant)
    (refuses : Refuses spec maximumChildren maxInstant actions before action s) :
    s.Justified policy (restartsOf spec maximumChildren maxInstant before) action.1 := by
  obtain ⟨⟨rest, rfl⟩, run, calm, after, step, refused⟩ := refuses
  obtain ⟨allowed, moves⟩ := timed_step step
  rw [Chronological, List.filterMap_append] at clock
  obtain ⟨earlier, -, order⟩ := List.pairwise_append.1 clock
  have inv := windowInv_of_run restarts earlier run
  cases ServiceRun.Restarts.of_step moves with
  | calm steady =>
    rw [steady.kept refused] at calm
    cases calm
  | @rejected now reading rejected times count =>
    refine (ServiceRun.admit_of_rejected restarts rejected).symm.imp_right fun full => ?_
    refine ⟨_, now, asked_of_reading reading, (inv.keeps.accept_eq_none fun t there => ?_).1 full⟩
    exact order t (inv.read t there) now
      (List.mem_filterMap.2 ⟨action, List.mem_cons_self, reading⟩)
  | slept reading admitted times count goes =>
    rw [goes] at refused
    cases refused
  | interrupted wakes times count =>
    obtain ⟨move, slept⟩ := action
    obtain rfl : move = .wake true := wakes
    have interrupts : s.interrupts spec maxInstant = true := (beq_iff_eq.1 allowed).symm
    rcases fits before s ⟨⟨true, slept, rest, rfl⟩, run⟩ with cancelled | room
    · exact Or.inl cancelled
    · exact Or.inl (((interrupts_iff restarts).1 interrupts).resolve_right (Nat.not_lt.2 room))

/-- A back-off that cannot be slept is a refusal without a reason. -/
theorem fits_of_justified (restarts : spec.restartPolicy = some policy)
    (clock : Chronological actions) {t : TimedService T E}
    (run : (timedService T E spec maximumChildren maxInstant).exec
      (timedService T E spec maximumChildren maxInstant).init actions = some t)
    (justified : ∀ before action s,
      Refuses spec maximumChildren maxInstant actions before action s →
      s.Justified policy (restartsOf spec maximumChildren maxInstant before) action.1)
    (wakes : Wakes spec maximumChildren maxInstant actions before s) :
    s.run.isCancelled = true ∨ s.sleptAt + policy.backoff ≤ maxInstant := by
  obtain ⟨⟨interrupted, slept, rest, rfl⟩, reached⟩ := wakes
  rw [System.exec_append, reached, Option.bind_some, System.exec] at run
  split at run
  · cases run
  rename_i after step
  obtain ⟨allowed, moves⟩ := timed_step step
  have told : interrupted = s.interrupts spec maxInstant := beq_iff_eq.1 allowed
  by_contra neither
  obtain ⟨free, long⟩ := not_or.1 neither
  obtain rfl : interrupted = true :=
    told.trans ((interrupts_iff restarts).2 (Or.inr (Nat.lt_of_not_le long)))
  obtain ⟨calm, refused⟩ := ServiceRun.refused_of_interrupted moves
  rcases justified before (.wake true, slept) s
    ⟨⟨rest, rfl⟩, reached, calm, after, step, refused⟩ with cancelled | ⟨others, now, asked, full⟩
  · exact free cancelled
  · rw [Chronological, List.filterMap_append] at clock
    have inv := windowInv_of_run restarts (List.pairwise_append.1 clock).1 reached
    obtain ⟨last, here, same⟩ := Option.map_eq_some_iff.1 asked
    obtain ⟨rfl, rfl⟩ := Prod.mk.inj same
    have split := (List.dropLast_append_getLast? last here).symm
    exact absurd full (Nat.not_le.2 (inv.last _ _ split))

end Runs

end BusyBeaver
