import BusyBeaver.Retry.Run

/-!
# The retry loop

`RetryExit` lists the exits with what leads to each, by the attempt at which the loop ends;
`Starts` says what lets an attempt start.  `retry_loop_follows_plan` says of every run of a
built specification that its attempts and pauses alternate as planned, that an attempt starts
before the deadline, with no stop, and only after one whose retry is authorised, and that its
exit is one of the list; the internal errors do not occur.
-/

namespace BusyBeaver

open Iterators

variable {T E F : Type}

/-! ## The statement -/

/-- Only the deadline stops the attempt. -/
def RetryAttempt.Uncancelled (attempt : RetryAttempt T E) : Prop :=
  ∀ reason, attempt.stopBefore ≠ some (.cancel reason) ∧
    attempt.stopDuring ≠ some (.cancel reason) ∧ attempt.stopClosing ≠ some (.cancel reason) ∧
    attempt.stopPausing ≠ some (.cancel reason)

/-- The error an attempt leaves when it is retried. -/
def RetryAttempt.error? (attempt : RetryAttempt T E) : Option E :=
  match attempt.run.outcome with
  | .failed error => some error
  | _ => none

/-- The most recent error of attempts that were all retried. -/
def lastRetried (attempts : List (RetryAttempt T E)) : Option E :=
  attempts.foldl (fun last attempt => attempt.error?.or last) none

/-- Attempt `number` is to be retried: it is not the last, and its failure or timeout is
authorised. -/
def Retried (spec : RetrySpec F) (number : Nat) (attempt : RetryAttempt T E) : Prop :=
  number < spec.maxAttempts ∧ attempt.stop = none ∧
    ((∃ error, attempt.run.outcome = .failed error ∧
      (spec.retryAllErrors = true ∨ attempt.verdict = some true)) ∨
    attempt.run.outcome = .timedOut ∧ spec.retryTimedOutAttempts = true)

/-- The loop arrives at attempt `n + 1`: the attempt before it is retried, and no stop is
accepted in the pause. -/
def ArrivesAt (spec : RetrySpec F) (script : List (RetryAttempt T E)) (n : Nat) : Prop :=
  ∀ m, n = m + 1 → ∃ attempt, script[m]? = some attempt ∧ Retried spec n attempt ∧
    attempt.stopPausing = none

/-- Attempt `n + 1` starts: neither the deadline nor a stop is in its way. -/
structure Starts (spec : RetrySpec F) (deadline : Option Instant)
    (script : List (RetryAttempt T E)) (n : Nat) (attempt : RetryAttempt T E) : Prop where
  arrives : ArrivesAt spec script n
  here : script[n]? = some attempt
  early : ∀ instant ∈ deadline, attempt.startedAt < instant
  unstopped : attempt.stopBefore = none

/-- The exit of a run in which that many attempts started; `script` is what they met. -/
inductive RetryExit (spec : RetrySpec F) (deadline : Option Instant)
    (script : List (RetryAttempt T E)) : Nat → TaskExit T E → Prop
  /-- The deadline has passed, or is marked, before the attempt starts. -/
  | late {n : Nat} {attempt : RetryAttempt T E} :
    ArrivesAt spec script n → script[n]? = some attempt →
    (∃ instant, deadline = some instant ∧ instant ≤ attempt.startedAt) ∨
      attempt.stopBefore = some .deadline →
    RetryExit spec deadline script n (.failed (.deadlineExceeded (lastRetried (script.take n))))
  /-- The deadline is marked by the time the attempt is judged. -/
  | overtaken {n : Nat} {attempt : RetryAttempt T E} :
    script[n]? = some attempt → attempt.stop = some .deadline →
    RetryExit spec deadline script (n + 1)
      (.failed (.deadlineExceeded (lastRetried (script.take n))))
  /-- The deadline is marked in the pause after an attempt that is retried. -/
  | pausing {n : Nat} {attempt : RetryAttempt T E} :
    script[n]? = some attempt → Retried spec (n + 1) attempt →
    attempt.stopPausing = some .deadline →
    RetryExit spec deadline script (n + 1)
      (.failed (.deadlineExceeded (lastRetried (script.take (n + 1)))))
  | completed {n : Nat} {attempt : RetryAttempt T E} {value : T} :
    script[n]? = some attempt → attempt.stop = none → attempt.run.outcome = .completed value →
    RetryExit spec deadline script (n + 1) (.completed value)
  | exhausted {n : Nat} {attempt : RetryAttempt T E} {error : E} :
    script[n]? = some attempt → attempt.stop = none → attempt.run.outcome = .failed error →
    n + 1 = spec.maxAttempts →
    RetryExit spec deadline script (n + 1) (.failed (.retry (.exhausted error)))
  | nonRetryable {n : Nat} {attempt : RetryAttempt T E} {error : E} :
    script[n]? = some attempt → attempt.stop = none → attempt.run.outcome = .failed error →
    n + 1 < spec.maxAttempts → spec.retryAllErrors = false → attempt.verdict = some false →
    RetryExit spec deadline script (n + 1) (.failed (.retry (.nonRetryable error)))
  | policyPanicked {n : Nat} {attempt : RetryAttempt T E} {error : E} :
    script[n]? = some attempt → attempt.stop = none → attempt.run.outcome = .failed error →
    n + 1 < spec.maxAttempts → spec.retryAllErrors = false → attempt.verdict = none →
    RetryExit spec deadline script (n + 1) (.failed (.policyPanicked .predicate (some error)))
  | timedOut {n : Nat} {attempt : RetryAttempt T E} :
    script[n]? = some attempt → attempt.stop = none → attempt.run.outcome = .timedOut →
    spec.retryTimedOutAttempts = false ∨ n + 1 = spec.maxAttempts →
    RetryExit spec deadline script (n + 1)
      (.failed (.retry (.attemptTimedOut (n + 1) (lastRetried (script.take n)) true)))
  | panicked {n : Nat} {attempt : RetryAttempt T E} {source : PanicSource} {message : String} :
    script[n]? = some attempt → attempt.stop = none →
    attempt.run.outcome = .panicked source message →
    RetryExit spec deadline script (n + 1) (.panicked source message)
  | runtimeLost {n : Nat} {attempt : RetryAttempt T E} :
    script[n]? = some attempt → attempt.stop = none → attempt.run.outcome = .executorStopped →
    RetryExit spec deadline script (n + 1) (.executorStopped .runtimeUnavailable)
  | timerUnavailable {n : Nat} {attempt : RetryAttempt T E} :
    script[n]? = some attempt → attempt.stop = none → attempt.run.outcome = .timerUnavailable →
    RetryExit spec deadline script (n + 1) (.failed .timerUnavailable)

def RetryEvent.isStarted : RetryEvent → Bool
  | .started _ => true
  | .paused _ => false

/-- How many attempts a run has started. -/
def RetryRun.starts (run : RetryRun T E) : Nat := run.events.countP RetryEvent.isStarted

/-- What is said of the run from attempt `n + 1` on. -/
structure FollowsPlan (spec : RetrySpec F) (deadline : Option Instant)
    (script : List (RetryAttempt T E)) (delays : List Duration) (n : Nat) (run : RetryRun T E) :
    Prop where
  /-- Attempts and pauses alternate: attempt after attempt, delay after delay. -/
  attempts : ∀ j event, run.events[2 * j]? = some event → event = .started (n + j + 1)
  pauses : ∀ j event, run.events[2 * j + 1]? = some event →
    ∃ delay, delays[n + j]? = some delay ∧ event = .paused delay
  started : ∀ j, .started (n + j + 1) ∈ run.events →
    ∃ attempt, Starts spec deadline script (n + j) attempt
  exits : ∀ exit, run.exit = some exit → RetryExit spec deadline script (n + run.starts) exit
  /-- Only the end of the script leaves a run open. -/
  waits : run.exit = none →
    ArrivesAt spec script (n + run.starts) ∧ script.length ≤ n + run.starts
  returns : spec.maxAttempts ≤ script.length → run.exit ≠ none
  logged : run.logged = []

theorem RetryRun.starts_again {number : Nat} {delay : Duration} {rest : RetryRun T E} :
    (RetryRun.after (.started number) (.after (.paused delay) rest)).starts = rest.starts + 1 := by
  simp only [RetryRun.starts, RetryRun.after, List.countP_cons, RetryEvent.isStarted, if_true,
    Bool.false_eq_true, if_false]

theorem ArrivesAt.zero {spec : RetrySpec F} {script : List (RetryAttempt T E)} :
    ArrivesAt spec script 0 :=
  fun _ absurd => by cases absurd

theorem ArrivesAt.succ {spec : RetrySpec F} {script : List (RetryAttempt T E)} {n : Nat}
    {attempt : RetryAttempt T E} (here : script[n]? = some attempt)
    (retried : Retried spec (n + 1) attempt) (unpaused : attempt.stopPausing = none) :
    ArrivesAt spec script (n + 1) := by
  intro m same
  obtain rfl := Nat.succ.inj same
  exact ⟨attempt, here, retried, unpaused⟩

/-! ## Errors that are kept -/

theorem lastRetried_snoc (attempts : List (RetryAttempt T E)) (attempt : RetryAttempt T E) :
    lastRetried (attempts ++ [attempt]) = attempt.error?.or (lastRetried attempts) := by
  unfold lastRetried
  rw [List.foldl_append]
  rfl

theorem lastRetried_take_succ {script : List (RetryAttempt T E)} {n : Nat}
    {attempt : RetryAttempt T E} (here : script[n]? = some attempt) :
    lastRetried (script.take (n + 1)) = attempt.error?.or (lastRetried (script.take n)) := by
  rw [List.take_add_one, here]
  exact lastRetried_snoc _ _

namespace RetryAttempt.Uncancelled

variable {attempt : RetryAttempt T E} (uncancelled : attempt.Uncancelled)
include uncancelled

theorem stop_cases : attempt.stop = none ∨ attempt.stop = some .deadline := by
  unfold RetryAttempt.stop
  cases during : attempt.stopDuring with
  | some cause =>
    cases cause with
    | cancel reason => exact absurd during (uncancelled reason).2.1
    | deadline => exact Or.inr rfl
  | none =>
    cases closing : attempt.stopClosing with
    | some cause =>
      cases cause with
      | cancel reason => exact absurd closing (uncancelled reason).2.2.1
      | deadline =>
        refine Or.inr ?_
        cases attempt.run <;> rfl
    | none =>
      cases attempt.run with
      | deadline => exact Or.inr rfl
      | _ => exact Or.inl rfl

end RetryAttempt.Uncancelled

/-! ## What the builder promises -/

section Build

variable [FloatOps F] {builder : RetryBuilder F} {maxInstant now : Instant} {spec : RetrySpec F}

omit [FloatOps F] in
/-- A check that is passed. -/
theorem passes_of_ok {c : Prop} [Decidable c] {error : RetryBuildError}
    {rest : Except RetryBuildError (RetrySpec F)}
    (built : (if c then .error error else rest) = .ok spec) : ¬ c ∧ rest = .ok spec := by
  split at built
  · cases built
  · exact ⟨‹_›, built⟩

theorem built_of_ok (built : builder.build maxInstant now = .ok spec) :
    0 < spec.maxAttempts ∧
      (1 < spec.maxAttempts → spec.predicate = true ∨ spec.retryAllErrors = true) ∧
      ∃ delays : List Duration, delays.length + 1 = spec.maxAttempts ∧
        (planDelays F).collect spec.delays.iter = delays.map Except.ok := by
  unfold RetryBuilder.build at built
  obtain ⟨positive, built⟩ := passes_of_ok built
  obtain ⟨-, built⟩ := passes_of_ok built
  obtain ⟨policy, built⟩ := passes_of_ok built
  obtain ⟨-, built⟩ := passes_of_ok built
  obtain ⟨-, built⟩ := passes_of_ok built
  obtain ⟨-, built⟩ := passes_of_ok built
  obtain ⟨-, built⟩ := passes_of_ok built
  rcases build_cases builder.backoff (builder.maxAttempts - 1) builder.jitter with
    ⟨error, failed, -⟩ | ⟨plan, delays, planned, -, yields, length⟩
  · rw [failed] at built
    cases built
  · rw [planned] at built
    have fields : spec.predicate = builder.predicate ∧
        spec.retryAllErrors = builder.retryAllErrors ∧ spec.maxAttempts = builder.maxAttempts ∧
        spec.delays = plan := by
      simp only [bind, Except.bind, pure, Except.pure] at built
      cases absolute : builder.deadline with
      | none =>
        cases overall : builder.overallTimeout with
        | none =>
          rw [absolute, overall] at built
          cases built
          exact ⟨rfl, rfl, rfl, rfl⟩
        | some timeout =>
          rw [absolute, overall] at built
          cases built
          exact ⟨rfl, rfl, rfl, rfl⟩
      | some instant =>
        cases overall : builder.overallTimeout with
        | none =>
          rw [absolute, overall] at built
          cases built
          exact ⟨rfl, rfl, rfl, rfl⟩
        | some timeout =>
          rw [absolute, overall] at built
          cases built
    obtain ⟨predicate, retryAllErrors, maxAttempts, planned⟩ := fields
    rw [predicate, retryAllErrors, maxAttempts, planned]
    refine ⟨Nat.pos_of_ne_zero positive, fun several => ?_, delays, by omega, yields⟩
    by_contra neither
    rw [not_or, Bool.not_eq_true, Bool.not_eq_true] at neither
    exact policy ⟨several, neither.1, neither.2⟩

end Build

/-! ## One turn -/

namespace FollowsPlan

variable {spec : RetrySpec F} {deadline : Option Instant} {script : List (RetryAttempt T E)}
  {delays : List Duration} {n : Nat} {exit : TaskExit T E} {attempt : RetryAttempt T E}

theorem ends (exits : RetryExit spec deadline script n exit) :
    FollowsPlan spec deadline script delays n (.ends exit) where
  attempts := fun j event found => by cases found
  pauses := fun j event found => by cases found
  started := fun j member => by cases member
  exits := fun other same => by
    obtain rfl := Option.some.inj same
    exact exits
  waits := fun absurd => by cases absurd
  returns := fun _ absurd => by cases absurd
  logged := rfl

/-- The script is not long enough to see the end. -/
theorem runsOut (arrives : ArrivesAt spec script n) (short : script.length ≤ n)
    (next : n < spec.maxAttempts) :
    FollowsPlan spec deadline script delays n (⟨[], none, []⟩ : RetryRun T E) where
  attempts := fun j event found => by cases found
  pauses := fun j event found => by cases found
  started := fun j member => by cases member
  exits := fun other absurd => by cases absurd
  waits := fun _ => ⟨arrives, short⟩
  returns := fun long => absurd (next.trans_le (long.trans short)) (lt_irrefl n)
  logged := rfl

/-- The attempt starts, and the run ends with it. -/
theorem endsWith (starts : Starts spec deadline script n attempt)
    (exits : RetryExit spec deadline script (n + 1) exit) :
    FollowsPlan spec deadline script delays n (.after (.started (n + 1)) (.ends exit)) where
  attempts := by
    intro j event found
    cases j with
    | zero => exact (Option.some.inj found).symm
    | succ j => cases found
  pauses := fun j event found => by cases found
  started := by
    intro j member
    have number := RetryEvent.started.inj (List.mem_singleton.1 member)
    obtain rfl : j = 0 := by omega
    exact ⟨attempt, starts⟩
  exits := fun other same => by
    obtain rfl := Option.some.inj same
    exact exits
  waits := fun absurd => by cases absurd
  returns := fun _ absurd => by cases absurd
  logged := rfl

/-- The numbers of a run are past its beginning. -/
theorem number_lt {number : Nat} {run : RetryRun T E}
    (follows : FollowsPlan spec deadline script delays n run)
    (member : .started number ∈ run.events) : n < number := by
  obtain ⟨i, at_i⟩ := List.mem_iff_getElem?.1 member
  obtain ⟨j, even | odd⟩ : ∃ j, i = 2 * j ∨ i = 2 * j + 1 := ⟨i / 2, by omega⟩
  · have same := RetryEvent.started.inj (follows.attempts j _ (even ▸ at_i))
    omega
  · obtain ⟨delay, -, absurd⟩ := follows.pauses j _ (odd ▸ at_i)
    cases absurd

/-- The attempt is retried, and the run goes on after the pause. -/
theorem again {delay : Duration} {rest : RetryRun T E}
    (follows : FollowsPlan spec deadline script delays (n + 1) rest)
    (starts : Starts spec deadline script n attempt) (planned : delays[n]? = some delay) :
    FollowsPlan spec deadline script delays n
      (.after (.started (n + 1)) (.after (.paused delay) rest)) where
  attempts := by
    intro j event found
    cases j with
    | zero => exact (Option.some.inj found).symm
    | succ j =>
      rw [follows.attempts j event found]
      congr 1
      omega
  pauses := by
    intro j event found
    cases j with
    | zero => exact ⟨delay, planned, (Option.some.inj found).symm⟩
    | succ j =>
      obtain ⟨later, there, same⟩ := follows.pauses j event found
      exact ⟨later, by rwa [Nat.add_right_comm, Nat.add_assoc] at there, same⟩
  started := by
    intro j member
    rcases List.mem_cons.1 member with first | member
    · have number := RetryEvent.started.inj first
      obtain rfl : j = 0 := by omega
      exact ⟨attempt, starts⟩
    · rcases List.mem_cons.1 member with absurd | member
      · cases absurd
      · obtain ⟨i, rfl⟩ : ∃ i, j = i + 1 :=
          ⟨j - 1, by have later := follows.number_lt member; omega⟩
        have shift : n + (i + 1) = n + 1 + i := by omega
        rw [shift] at member ⊢
        exact follows.started i member
  exits := by
    intro other same
    rw [RetryRun.starts_again, ← Nat.add_assoc, Nat.add_right_comm]
    exact follows.exits other same
  waits := by
    intro waiting
    rw [RetryRun.starts_again, ← Nat.add_assoc, Nat.add_right_comm]
    exact follows.waits waiting
  returns := follows.returns
  logged := follows.logged

/-- A deadline that is marked during a yield. -/
theorem yielded {delay : Duration} (exits : RetryExit spec deadline script (n + 1) exit)
    (starts : Starts spec deadline script n attempt) (planned : delays[n]? = some delay) :
    FollowsPlan spec deadline script delays n
      (.after (.started (n + 1)) (.after (.paused delay) (.ends exit))) :=
  again (ends exits) starts planned

end FollowsPlan

/-! ## The judgement -/

section Judge

variable {spec : RetrySpec F} {deadline : Option Instant} {script : List (RetryAttempt T E)}

/-- A failure or a timeout that is judged to go on is one that is retried, and its error is
kept. -/
theorem retried_of_again {n : Nat} {attempt : RetryAttempt T E} {previous next : Option E}
    (unmarked : attempt.stop = none) (within : n < spec.maxAttempts)
    (again : judge spec (n + 1) previous attempt.run.outcome attempt.verdict = .again next) :
    Retried spec (n + 1) attempt ∧ next = attempt.error?.or previous := by
  unfold judge at again
  unfold RetryAttempt.error?
  cases outcome : attempt.run.outcome with
  | failed error =>
    simp only [outcome] at again
    split at again
    · cases again
    · rename_i later
      split at again
      · rename_i all
        cases again
        exact ⟨⟨by omega, unmarked, Or.inl ⟨error, outcome, Or.inl all⟩⟩, rfl⟩
      · split at again
        · cases again
        · split at again
          · cases again
          · rename_i verdict
            cases again
            exact ⟨⟨by omega, unmarked, Or.inl ⟨error, outcome, Or.inr verdict⟩⟩, rfl⟩
          · cases again
  | timedOut =>
    simp only [outcome] at again
    split at again
    · cases again
    · rename_i retries
      cases again
      rw [not_or, Bool.not_eq_false] at retries
      exact ⟨⟨by omega, unmarked, Or.inr ⟨outcome, retries.1⟩⟩, rfl⟩
  | _ =>
    simp only [outcome] at again
    cases again

theorem panickedOutcome_ne_deadline (source : PanicSource) (message : String) :
    (panickedOutcome source message : AttemptOutcome T E) ≠ .deadline := by
  unfold panickedOutcome
  split <;> exact fun absurd => by cases absurd

theorem run_of_outcome_deadline {run : AttemptRun T E} (outcome : run.outcome = .deadline) :
    run = .deadline := by
  cases run with
  | factoryPanicked message => exact (panickedOutcome_ne_deadline _ _ outcome).elim
  | panicked message => exact (panickedOutcome_ne_deadline _ _ outcome).elim
  | finished result => cases result <;> cases outcome
  | deadline => rfl
  | lost => cases outcome
  | expired => cases outcome

/-- An attempt that is judged to end the run ends it as listed. -/
theorem exit_of_judge {n : Nat} {attempt : RetryAttempt T E} {exit : TaskExit T E}
    (here : script[n]? = some attempt) (unmarked : attempt.stop = none)
    (within : n < spec.maxAttempts)
    (ends : judge spec (n + 1) (lastRetried (script.take n)) attempt.run.outcome attempt.verdict =
      .exit exit) : RetryExit spec deadline script (n + 1) exit := by
  unfold judge at ends
  cases outcome : attempt.run.outcome with
  | completed value =>
    simp only [outcome] at ends
    cases ends
    exact .completed here unmarked outcome
  | panicked source message =>
    simp only [outcome] at ends
    cases ends
    exact .panicked here unmarked outcome
  | executorStopped =>
    simp only [outcome] at ends
    cases ends
    exact .runtimeLost here unmarked outcome
  | timerUnavailable =>
    simp only [outcome] at ends
    cases ends
    exact .timerUnavailable here unmarked outcome
  | deadline =>
    have fired := run_of_outcome_deadline outcome
    rw [RetryAttempt.stop, fired] at unmarked
    cases during : attempt.stopDuring with
    | none =>
      rw [during] at unmarked
      cases unmarked
    | some cause =>
      rw [during] at unmarked
      cases unmarked
  | timedOut =>
    simp only [outcome] at ends
    split at ends
    · rename_i last
      cases ends
      exact .timedOut here unmarked outcome last
    · cases ends
  | failed error =>
    simp only [outcome] at ends
    split at ends
    · rename_i last
      cases ends
      exact .exhausted here unmarked outcome last
    · split at ends
      · cases ends
      · rename_i later all
        rw [Bool.not_eq_true] at all
        split at ends
        · cases ends
        · split at ends
          · rename_i verdict
            cases ends
            exact .nonRetryable here unmarked outcome (by omega) all verdict
          · cases ends
          · rename_i verdict
            cases ends
            exact .policyPanicked here unmarked outcome (by omega) all verdict

/-- A built specification has a predicate when it needs one. -/
theorem judge_ne_predicateMissing {n : Nat} {attempt : RetryAttempt T E} {previous : Option E}
    (policy : 1 < spec.maxAttempts → spec.predicate = true ∨ spec.retryAllErrors = true)
    (within : n < spec.maxAttempts) :
    judge spec (n + 1) previous attempt.run.outcome attempt.verdict ≠ .predicateMissing := by
  intro missing
  unfold judge at missing
  split at missing
  case h_7 error outcome =>
    split at missing
    · cases missing
    · rename_i later
      split at missing
      · cases missing
      · rename_i all
        split at missing
        · rename_i absent
          rcases policy (by omega) with present | present
          · rw [absent] at present
            cases present
          · exact all present
        · split at missing <;> cases missing
  case h_6 =>
    split at missing <;> cases missing
  all_goals cases missing

end Judge

/-! ## The loop -/

section Loop

variable [FloatOps F] {spec : RetrySpec F} {maxInstant : Instant} {deadline : Option Instant}
  {script : List (RetryAttempt T E)} {delays : List Duration}

omit [FloatOps F] in
theorem early_of_not_any {attempt : RetryAttempt T E}
    (ahead : ¬ (deadline.any fun deadline => decide (deadline ≤ attempt.startedAt)) = true) :
    ∀ instant ∈ deadline, attempt.startedAt < instant := by
  intro instant same
  by_contra late
  exact ahead ((Option.any_eq_true _ _).2 ⟨instant, same, decide_eq_true (Nat.not_lt.1 late)⟩)

/-- The pause after an attempt that is retried takes the next delay of the plan. -/
theorem pauseAfter_follows {n : Nat} {attempt : RetryAttempt T E} {iter : DelayIter F}
    {next : DelayIter F → RetryRun T E} (starts : Starts spec deadline script n attempt)
    (own : attempt.Uncancelled) (retried : Retried spec (n + 1) attempt)
    (length : delays.length + 1 = spec.maxAttempts)
    (representable : ∀ delay ∈ delays, Checked.add maxInstant attempt.pausedAt delay ≠ none)
    (items : (planDelays F).collect iter = (delays.drop n).map Except.ok)
    (follows : ∀ iter, ArrivesAt spec script (n + 1) →
      (planDelays F).collect iter = (delays.drop (n + 1)).map Except.ok →
      FollowsPlan spec deadline script delays (n + 1) (next iter)) :
    FollowsPlan spec deadline script delays n
      (.after (.started (n + 1))
        (pauseAfter maxInstant attempt (lastRetried (script.take (n + 1))) iter next)) := by
  have bound : n < delays.length := by
    have later := retried.1
    omega
  have planned : delays[n]? = some delays[n] := List.getElem?_eq_getElem bound
  rw [List.drop_eq_getElem_cons bound, List.map_cons] at items
  obtain ⟨others, moved, items⟩ := Iter.next_of_collect_cons items
  have yields : iter.next = some (.ok delays[n], others) := moved
  unfold pauseAfter
  rw [yields]
  dsimp only
  rw [if_neg (fun past => representable _ (List.getElem_mem bound) past.2)]
  cases pausing : attempt.stopPausing with
  | none => exact .again (follows others (.succ starts.here retried pausing) items) starts planned
  | some cause =>
    cases cause with
    | cancel reason => exact absurd pausing (own reason).2.2.2
    | deadline =>
      have exits : RetryExit spec deadline script (n + 1) _ :=
        .pausing starts.here retried pausing
      dsimp only [selectedStopExit]
      split
      · exact .yielded exits starts planned
      · exact .endsWith starts exits

/-- **The loop**, from an attempt on. -/
theorem retryFrom_follows (policy : 1 < spec.maxAttempts → spec.predicate = true ∨
      spec.retryAllErrors = true)
    (length : delays.length + 1 = spec.maxAttempts)
    (uncancelled : ∀ attempt ∈ script, attempt.Uncancelled)
    (representable : ∀ attempt ∈ script, ∀ delay ∈ delays,
      Checked.add maxInstant attempt.pausedAt delay ≠ none)
    (rest : List (RetryAttempt T E)) (n : Nat) (iter : DelayIter F)
    (left : script.drop n = rest) (within : n < spec.maxAttempts)
    (arrives : ArrivesAt spec script n)
    (items : (planDelays F).collect iter = (delays.drop n).map Except.ok) :
    FollowsPlan spec deadline script delays n
      (retryFrom spec maxInstant deadline ⟨n + 1, lastRetried (script.take n), iter⟩ rest) := by
  induction rest generalizing n iter with
  | nil =>
    unfold retryFrom
    rw [if_neg (Nat.not_lt.2 within)]
    exact .runsOut arrives (List.drop_eq_nil_iff.1 left) within
  | cons attempt rest ih =>
    have here : script[n]? = some attempt := by
      rw [← List.head?_drop, left]
      rfl
    have onward : script.drop (n + 1) = rest := by
      rw [← List.tail_drop, left]
      rfl
    have member := List.mem_of_getElem? here
    have own := uncancelled attempt member
    unfold retryFrom
    rw [if_neg (Nat.not_lt.2 within)]
    dsimp only
    split
    · -- the deadline has passed
      rename_i passed
      obtain ⟨instant, same, early⟩ := (Option.any_eq_true _ _).1 passed
      exact .ends (.late arrives here (Or.inl ⟨instant, same, of_decide_eq_true early⟩))
    · rename_i ahead
      cases before : attempt.stopBefore with
      | some cause =>
        cases cause with
        | cancel reason => exact absurd before (own reason).1
        | deadline => exact .ends (.late arrives here (Or.inr before))
      | none =>
        have starts : Starts spec deadline script n attempt :=
          ⟨arrives, here, early_of_not_any ahead, before⟩
        dsimp only [selectedStopExit]
        rcases own.stop_cases with unmarked | marked
        · rw [unmarked]
          dsimp only
          cases judged : judge spec (n + 1) (lastRetried (script.take n)) attempt.run.outcome
              attempt.verdict with
          | exit exit => exact .endsWith starts (exit_of_judge here unmarked within judged)
          | predicateMissing => exact absurd judged (judge_ne_predicateMissing policy within)
          | again next =>
            obtain ⟨retried, rfl⟩ := retried_of_again unmarked within judged
            rw [← lastRetried_take_succ here]
            exact pauseAfter_follows starts own retried length (representable attempt member)
              items fun iter arrives items => ih (n + 1) iter onward retried.1 arrives items
        · rw [marked]
          exact .endsWith starts (.overtaken here marked)

variable {builder : RetryBuilder F} {now : Instant}

/-- **The retry loop.**  With no cancellation and no sleep past the end of the clock, the run
of a built specification follows its plan of delays. -/
theorem retry_loop_follows_plan (built : builder.build maxInstant now = .ok spec)
    (uncancelled : ∀ attempt ∈ script, attempt.Uncancelled)
    (representable : ∀ delay, .ok delay ∈ (planDelays F).collect spec.delays.iter →
      ∀ attempt ∈ script, Checked.add maxInstant attempt.pausedAt delay ≠ none) :
    ∃ delays : List Duration, delays.length + 1 = spec.maxAttempts ∧
      (planDelays F).collect spec.delays.iter = delays.map Except.ok ∧
      FollowsPlan spec deadline script delays 0 (runRetry spec maxInstant deadline script) := by
  obtain ⟨positive, policy, delays, length, items⟩ := built_of_ok built
  refine ⟨delays, length, items, retryFrom_follows policy length uncancelled ?_ script 0
    spec.delays.iter rfl positive .zero items⟩
  intro attempt member delay planned
  refine representable delay ?_ attempt member
  rw [items]
  exact List.mem_map_of_mem planned

end Loop

/-! ### Two scripts -/

/-- Exact arithmetic for the operations of `f64`. -/
instance exactFloats : FloatOps Rat where
  zero := 0
  one := 1
  two := 2
  add := fun a b => a + b
  sub := fun a b => a - b
  mul := fun a b => a * b
  div := fun a b => a / b
  min := fun a b => if a ≤ b then a else b
  lt := fun a b => decide (a < b)
  le := fun a b => decide (a ≤ b)
  isFinite := fun _ => true
  ofU64 := fun a => a.toNat
  asSecs := fun delay => (delay : Rat) / 1000000000
  tryFromSecs := fun seconds =>
    if seconds < 0 then none else some (seconds * 1000000000).floor.toNat

/-- An attempt that meets no stop. -/
def plainAttempt (run : AttemptRun Nat Nat) : RetryAttempt Nat Nat where
  startedAt := 0
  stopBefore := none
  stopDuring := none
  stopClosing := none
  stopPausing := none
  run := run
  verdict := none
  pausedAt := 0

theorem plainAttempt_uncancelled (run : AttemptRun Nat Nat) :
    (plainAttempt run).Uncancelled := by
  intro reason
  refine ⟨?_, ?_, ?_, ?_⟩ <;> exact fun absurd => by cases absurd

/-- All errors are retried once, five nanoseconds later. -/
def onceMore : RetrySpec Rat where
  predicate := false
  retryAllErrors := true
  maxAttempts := 2
  delays := ⟨.fixed 5, none, none, 1⟩
  attemptTimeout := none
  retryTimedOutAttempts := false
  deadline := .none

/-- What is built with `retry_all_errors`, two attempts and a fixed backoff. -/
theorem onceMore_built : ({ retryAllErrors := true, maxAttempts := 2, backoff := .fixed 5 } :
    RetryBuilder Rat).build 100 0 = .ok onceMore := rfl

/-- An attempt that fails, and one that succeeds. -/
theorem retry_loop_follows_plan_once_more :
    ∃ delays : List Duration, delays.length + 1 = 2 ∧
      (planDelays Rat).collect onceMore.delays.iter = delays.map Except.ok ∧
      FollowsPlan onceMore none
        [plainAttempt (.finished (.error 3)), plainAttempt (.finished (.ok 7))] delays 0
        (runRetry onceMore 100 none
          [plainAttempt (.finished (.error 3)), plainAttempt (.finished (.ok 7))]) := by
  refine retry_loop_follows_plan onceMore_built ?_ ?_
  · intro attempt member
    rcases List.mem_pair.1 member with rfl | rfl <;> exact plainAttempt_uncancelled _
  · intro delay planned attempt member
    have items : (planDelays Rat).collect onceMore.delays.iter = [.ok 5] := rfl
    rw [items, List.mem_singleton] at planned
    obtain rfl := Except.ok.inj planned
    rcases List.mem_pair.1 member with rfl | rfl <;> decide

/-- The runtime drops the only attempt that starts: the exit is no success, no failure and no
panic. -/
theorem runtime_lost_is_executorStopped :
    ∃ (spec : RetrySpec Rat) (script : List (RetryAttempt Nat Nat)),
      (∃ builder : RetryBuilder Rat, builder.build 100 0 = .ok spec) ∧
      (∀ attempt ∈ script, attempt.Uncancelled) ∧
      ¬ ∃ exit, (runRetry spec 100 none script).exit = some exit ∧
        ((∃ value, exit = .completed value) ∨ (∃ failure, exit = .failed failure) ∨
          ∃ source message, exit = .panicked source message) := by
  refine ⟨onceMore, [plainAttempt .lost], ⟨_, onceMore_built⟩, ?_, ?_⟩
  · intro attempt member
    obtain rfl := List.mem_singleton.1 member
    exact plainAttempt_uncancelled _
  · rintro ⟨exit, ended, listed⟩
    have stopped : (runRetry onceMore 100 none [plainAttempt .lost]).exit =
        some (.executorStopped .runtimeUnavailable) := rfl
    rw [stopped] at ended
    obtain rfl := Option.some.inj ended
    rcases listed with ⟨value, same⟩ | ⟨failure, same⟩ | ⟨source, message, same⟩ <;> cases same

end BusyBeaver
