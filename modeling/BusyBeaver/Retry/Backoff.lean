import BusyBeaver.Retry.Loop

/-!
# The back-off of a retry

`work.sleep` fails for a stop, and also for a delay that the clock cannot reach the end of; the
loop takes what is no stop for a panic of its back-off policy.  In a run without a stop it ends
that way if and only if such a delay comes up (`backoff_panics_iff`).
-/

namespace BusyBeaver

open Iterators

variable {T E F : Type}

/-- No stop is accepted around the attempt. -/
structure RetryAttempt.Unstopped (attempt : RetryAttempt T E) : Prop where
  before : attempt.stopBefore = none
  during : attempt.stopDuring = none
  closing : attempt.stopClosing = none
  pausing : attempt.stopPausing = none

/-- Attempt `n + 1` starts before the deadline and is retried. -/
def TriedAgain (spec : RetrySpec F) (deadline : Option Instant) (script : List (RetryAttempt T E))
    (n : Nat) : Prop :=
  ∃ attempt, script[n]? = some attempt ∧ (∀ instant ∈ deadline, attempt.startedAt < instant) ∧
    Retried spec (n + 1) attempt

/-- The delay after attempt `n + 1` is none, or ends at an instant. -/
def BackoffFits (maxInstant : Instant) (script : List (RetryAttempt T E)) (delays : List Duration)
    (n : Nat) : Prop :=
  ∀ attempt delay, script[n]? = some attempt → delays[n]? = some delay →
    delay = 0 ∨ attempt.pausedAt + delay ≤ maxInstant

section Judge

variable {spec : RetrySpec F}

/-- What is retried is judged to go on. -/
theorem again_of_retried {n : Nat} {attempt : RetryAttempt T E} (previous : Option E)
    (policy : 1 < spec.maxAttempts → spec.predicate = true ∨ spec.retryAllErrors = true)
    (retried : Retried spec (n + 1) attempt) :
    ∃ next, judge spec (n + 1) previous attempt.run.outcome attempt.verdict = .again next := by
  obtain ⟨later, -, ⟨error, outcome, granted⟩ | ⟨outcome, retries⟩⟩ := retried
  · unfold judge
    rw [outcome]
    dsimp only
    rw [if_neg (Nat.ne_of_lt later)]
    by_cases all : spec.retryAllErrors = true
    · rw [if_pos all]
      exact ⟨_, rfl⟩
    · have present := (policy (by omega)).resolve_right all
      rw [if_neg all, if_neg (by simp [present]), granted.resolve_left all]
      exact ⟨_, rfl⟩
  · unfold judge
    rw [outcome]
    dsimp only
    rw [if_neg (by simp [retries, Nat.ne_of_lt later])]
    exact ⟨_, rfl⟩

/-- No judgement blames the back-off, and none says that the runner was cancelled. -/
theorem exit_ne_of_judge {n : Nat} {outcome : AttemptOutcome T E} {previous : Option E}
    {verdict : Option Bool} {exit : TaskExit T E}
    (judged : judge spec n previous outcome verdict = .exit exit) :
    (∀ error, exit ≠ .failed (.policyPanicked .backoff error)) ∧
      exit ≠ .executorStopped .runnerCancelled := by
  unfold judge at judged
  cases outcome with
  | timedOut =>
    dsimp only at judged
    split at judged <;> cases judged
    exact ⟨fun _ => by simp, by simp⟩
  | failed error =>
    dsimp only at judged
    split at judged
    · cases judged
      exact ⟨fun _ => by simp, by simp⟩
    · split at judged
      · cases judged
      · split at judged
        · cases judged
        · split at judged <;> cases judged
          · exact ⟨fun _ => by simp, by simp⟩
          · exact ⟨fun _ => by simp, by simp⟩
  | _ =>
    obtain rfl := RetryVerdict.exit.inj judged
    exact ⟨fun _ => by simp, by simp⟩

theorem exit_ne_of_selectedStopExit {stop : Option StopCauseSummary} {lastError : Option E}
    {exit : TaskExit T E} (selected : selectedStopExit stop lastError = some exit) :
    exit ≠ .executorStopped .runnerCancelled := by
  rcases stop with _ | (reason | _) <;> cases selected <;> simp

end Judge

section Loop

variable [FloatOps F] {spec : RetrySpec F} {maxInstant : Instant} {deadline : Option Instant}
  {script : List (RetryAttempt T E)} {delays : List Duration}

/-- A retry does not end with its runner cancelled. -/
theorem retryFrom_ne_runnerCancelled (rest : List (RetryAttempt T E)) (s : RetryLoop F E) :
    (retryFrom spec maxInstant deadline s rest).exit ≠
      some (.executorStopped .runnerCancelled) := by
  induction rest generalizing s with
  | nil =>
    unfold retryFrom
    split <;> simp [RetryRun.breaks]
  | cons attempt rest ih =>
    unfold retryFrom
    split
    · simp [RetryRun.breaks]
    dsimp only
    split
    · simp [RetryRun.ends]
    split
    · rename_i selected
      exact fun same => exit_ne_of_selectedStopExit selected (Option.some.inj same)
    dsimp only [RetryRun.after]
    split
    · rename_i selected
      exact fun same => exit_ne_of_selectedStopExit selected (Option.some.inj same)
    split
    · rename_i judged
      exact fun same => (exit_ne_of_judge judged).2 (Option.some.inj same)
    · simp [RetryRun.breaks]
    · unfold pauseAfter
      split
      · simp [RetryRun.breaks]
      · simp [RetryRun.breaks]
      · split
        · split
          · rename_i selected
            exact fun same => exit_ne_of_selectedStopExit selected (Option.some.inj same)
          · simp [RetryRun.ends]
        · split
          · rename_i selected
            have other := exit_ne_of_selectedStopExit selected
            split <;> exact fun same => other (Option.some.inj same)
          · exact ih _

/-- The loop at one attempt of a run without a stop. -/
theorem retryFrom_cons_iff (policy : 1 < spec.maxAttempts → spec.predicate = true ∨
      spec.retryAllErrors = true)
    {attempt : RetryAttempt T E} {rest : List (RetryAttempt T E)} {n : Nat} {iter : DelayIter F}
    {previous : Option E} (delay : Duration) (others : DelayIter F) (unstopped : attempt.Unstopped)
    (here : script[n]? = some attempt) (within : n < spec.maxAttempts)
    (yields : n + 1 < spec.maxAttempts → iter.next = some (.ok delay, others)) :
    (∃ error, (retryFrom spec maxInstant deadline ⟨n + 1, previous, iter⟩ (attempt :: rest)).exit =
      some (.failed (.policyPanicked .backoff error))) ↔
    TriedAgain spec deadline script n ∧
      (¬ (delay = 0 ∨ attempt.pausedAt + delay ≤ maxInstant) ∨
        ∃ error, (retryFrom spec maxInstant deadline
          ⟨n + 2, attempt.error?.or previous, others⟩ rest).exit =
            some (.failed (.policyPanicked .backoff error))) := by
  have tried (again : TriedAgain spec deadline script n) :
      (∀ instant ∈ deadline, attempt.startedAt < instant) ∧ Retried spec (n + 1) attempt := by
    obtain ⟨attempt', there, early, retried⟩ := again
    obtain rfl := Option.some.inj (here.symm.trans there)
    exact ⟨early, retried⟩
  generalize onward : retryFrom spec maxInstant deadline ⟨n + 2, attempt.error?.or previous, others⟩
    rest = later
  unfold retryFrom
  rw [if_neg (Nat.not_lt.2 within)]
  dsimp only
  split
  · -- the deadline has passed
    rename_i passed
    obtain ⟨instant, same, late⟩ := (Option.any_eq_true _ _).1 passed
    constructor
    · rintro ⟨error, ends⟩
      cases ends
    · rintro ⟨again, -⟩
      exact absurd ((tried again).1 instant same) (Nat.not_lt.2 (of_decide_eq_true late))
  rename_i early
  rw [unstopped.before, selectedStopExit]
  dsimp only [RetryRun.after]
  cases stop : attempt.stop with
  | some cause =>
    constructor
    · rintro ⟨error, ends⟩
      cases cause <;> cases ends
    · rintro ⟨again, -⟩
      cases stop.symm.trans (tried again).2.2.1
  | none =>
    dsimp only [selectedStopExit]
    cases judged : judge spec (n + 1) previous attempt.run.outcome attempt.verdict with
    | exit exit =>
      constructor
      · rintro ⟨error, ends⟩
        exact absurd (Option.some.inj ends) ((exit_ne_of_judge judged).1 error)
      · rintro ⟨again, -⟩
        obtain ⟨next, again⟩ := again_of_retried previous policy (tried again).2
        cases judged.symm.trans again
    | predicateMissing => exact absurd judged (judge_ne_predicateMissing policy within)
    | again next =>
      obtain ⟨retried, rfl⟩ := retried_of_again stop within judged
      have again : TriedAgain spec deadline script n := by
        refine ⟨attempt, here, fun instant same => Nat.lt_of_not_le fun late => early ?_, retried⟩
        exact (Option.any_eq_true _ _).2 ⟨instant, same, decide_eq_true late⟩
      dsimp only
      unfold pauseAfter
      rw [yields retried.1]
      dsimp only
      rw [unstopped.pausing, selectedStopExit]
      dsimp only [RetryRun.after]
      by_cases long : delay ≠ 0 ∧ Checked.add maxInstant attempt.pausedAt delay = none
      · rw [if_pos long]
        refine ⟨fun _ => ⟨again, Or.inl ?_⟩, fun _ => ⟨_, rfl⟩⟩
        rintro (none_ | fits)
        · exact long.1 none_
        · exact absurd (Checked.add_eq_none.1 long.2) (Nat.not_lt.2 fits)
      · rw [if_neg long]
        have fits : delay = 0 ∨ attempt.pausedAt + delay ≤ maxInstant := by
          by_contra neither
          rw [not_or] at neither
          exact long ⟨neither.1, Checked.add_eq_none.2 (Nat.lt_of_not_le neither.2)⟩
        rw [← onward]
        exact ⟨fun ends => ⟨again, Or.inr ends⟩,
          fun goes => goes.2.resolve_left (not_not_intro fits)⟩

/-- **The loop**, from an attempt on. -/
theorem retryFrom_backoff_iff (policy : 1 < spec.maxAttempts → spec.predicate = true ∨
      spec.retryAllErrors = true)
    (length : delays.length + 1 = spec.maxAttempts)
    (unstopped : ∀ attempt ∈ script, attempt.Unstopped) (rest : List (RetryAttempt T E)) (n : Nat)
    (iter : DelayIter F) (previous : Option E) (left : script.drop n = rest)
    (within : n < spec.maxAttempts)
    (items : (planDelays F).collect iter = (delays.drop n).map Except.ok) :
    (∃ error, (retryFrom spec maxInstant deadline ⟨n + 1, previous, iter⟩ rest).exit =
      some (.failed (.policyPanicked .backoff error))) ↔
    ∃ k, n ≤ k ∧ (∀ i, n ≤ i → i ≤ k → TriedAgain spec deadline script i) ∧
      ¬ BackoffFits maxInstant script delays k := by
  induction rest generalizing n iter previous with
  | nil =>
    have short : script.length ≤ n := List.drop_eq_nil_iff.1 left
    constructor
    · rintro ⟨error, ends⟩
      unfold retryFrom at ends
      rw [if_neg (Nat.not_lt.2 within)] at ends
      cases ends
    · rintro ⟨k, from_, -, long⟩
      refine absurd ?_ long
      intro attempt delay there
      rw [List.getElem?_eq_none (Nat.le_trans short from_)] at there
      cases there
  | cons attempt rest ih =>
    have here : script[n]? = some attempt := by
      rw [← List.head?_drop, left]
      rfl
    have onward : script.drop (n + 1) = rest := by
      rw [← List.tail_drop, left]
      rfl
    have own := unstopped attempt (List.mem_of_getElem? here)
    by_cases last : n + 1 < spec.maxAttempts
    · -- the plan has a delay for the pause after the attempt
      have bound : n < delays.length := by omega
      have planned : delays.drop n = delays[n] :: delays.drop (n + 1) :=
        List.drop_eq_getElem_cons bound
      rw [planned, List.map_cons] at items
      obtain ⟨others, yields, items⟩ := Iter.next_of_collect_cons items
      rw [retryFrom_cons_iff policy delays[n] others own here within fun _ => yields,
        ih (n + 1) others _ onward last items]
      constructor
      · rintro ⟨again, long | ⟨k, later, tried, long⟩⟩
        · refine ⟨n, Nat.le_refl n, fun i low high => ?_, fun fits => long ?_⟩
          · rw [Nat.le_antisymm high low]
            exact again
          · exact fits attempt delays[n] here (List.getElem?_eq_getElem bound)
        · refine ⟨k, by omega, fun i low high => ?_, long⟩
          rcases Nat.eq_or_lt_of_le low with rfl | low
          · exact again
          · exact tried i low high
      · rintro ⟨k, later, tried, long⟩
        refine ⟨tried n (Nat.le_refl n) later, ?_⟩
        rcases Nat.eq_or_lt_of_le later with rfl | later
        · refine Or.inl fun fits => long ?_
          intro attempt' delay there planned
          obtain rfl := Option.some.inj (here.symm.trans there)
          obtain rfl := Option.some.inj ((List.getElem?_eq_getElem bound).symm.trans planned)
          exact fits
        · exact Or.inr ⟨k, later, fun i low high => tried i (by omega) high, long⟩
    · -- the last attempt is not retried
      have final (again : TriedAgain spec deadline script n) : False := by
        obtain ⟨_, _, _, retried, _⟩ := again
        exact last retried
      rw [retryFrom_cons_iff policy 0 iter own here within fun more => absurd more last]
      constructor
      · rintro ⟨again, -⟩
        exact (final again).elim
      · rintro ⟨k, later, tried, -⟩
        exact (final (tried n (Nat.le_refl n) later)).elim

/-- **A built retry.**  Without a stop, it blames its back-off if and only if a delay comes up that
the clock cannot reach the end of. -/
theorem backoff_panics_iff {builder : RetryBuilder F} {now : Instant}
    (built : builder.build maxInstant now = .ok spec) :
    ∃ delays : List Duration, delays.length + 1 = spec.maxAttempts ∧
      (planDelays F).collect spec.delays.iter = delays.map Except.ok ∧
      ∀ (deadline : Option Instant) (script : List (RetryAttempt T E)),
        (∀ attempt ∈ script, attempt.Unstopped) →
        ((∃ error, (runRetry spec maxInstant deadline script).exit =
            some (.failed (.policyPanicked .backoff error))) ↔
          ∃ n, (∀ i, i ≤ n → TriedAgain spec deadline script i) ∧
            ¬ BackoffFits maxInstant script delays n) := by
  obtain ⟨positive, policy, delays, length, items⟩ := built_of_ok built
  refine ⟨delays, length, items, fun deadline script unstopped => ?_⟩
  rw [runRetry, retryFrom_backoff_iff policy length unstopped script 0 spec.delays.iter none rfl
    positive items]
  simp only [Nat.zero_le, true_and, true_imp_iff]

end Loop

end BusyBeaver
