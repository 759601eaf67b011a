import BusyBeaver.Lib.Iter

/-!
# The retry delays

`DelayPlan` (`src/retry.rs`) keeps the backoff and yields the delays one by one; the dense
form (`buildDelays`, `applyJitter`) computes the whole list first, and is what the source
compares the plan with in its tests.  The two validate in a different order: the plan looks
at all base delays before it jitters the first.

Floating point is a parameter: nothing is assumed of its operations.
-/

namespace BusyBeaver

open Iterators

/-- A `std::time::Duration`, in nanoseconds. -/
abbrev Duration : Type := Nat

/-- The operations of `f64` that the delays use. -/
class FloatOps (F : Type) where
  zero : F
  one : F
  two : F
  add : F → F → F
  sub : F → F → F
  mul : F → F → F
  div : F → F → F
  min : F → F → F
  lt : F → F → Bool
  le : F → F → Bool
  isFinite : F → Bool
  /-- `as f64`, on a `u64`. -/
  ofU64 : UInt64 → F
  asSecs : Duration → F
  /-- `Duration::try_from_secs_f64`. -/
  tryFromSecs : F → Option Duration

inductive Backoff (F : Type) : Type
  | none
  | fixed (delay : Duration)
  | explicit (delays : List Duration)
  | exponential (base : Duration) (multiplier : F) (cap : Duration)

structure Jitter (F : Type) : Type where
  seed : UInt64
  ratio : F

inductive RetryBuildError : Type
  | invalidAttemptCount
  | attemptCountTooLarge
  | retryPolicyRequired
  | delayCountMismatch (expected actual : Nat)
  | invalidBackoffMultiplier
  | backoffCapBelowBase
  | invalidJitterRatio
  | zeroAttemptTimeout
  | conflictingDeadline
  | durationOverflow
  deriving DecidableEq, Repr

variable {F : Type} [FloatOps F]

open FloatOps

/-- An `f64` that is no duration is an overflow. -/
def toDuration (seconds : F) : Except RetryBuildError Duration :=
  match tryFromSecs seconds with
  | some delay => .ok delay
  | none => .error .durationOverflow

namespace Jitter

def isValid (jitter : Jitter F) : Bool :=
  isFinite jitter.ratio && (le zero jitter.ratio && le jitter.ratio one)

/-- The three shifts of the generator. -/
def advance (state : UInt64) : UInt64 :=
  let state := state ^^^ (state <<< 13)
  let state := state ^^^ (state >>> 7)
  state ^^^ (state <<< 17)

/-- What a delay is multiplied with, in a state of the generator. -/
def factor (ratio : F) (state : UInt64) : F :=
  let unit := div (ofU64 state) (ofU64 (F := F) 18446744073709551615)
  add (sub one ratio) (mul (mul two ratio) unit)

/-- A delay that is jittered, and capped. -/
def jittered (ratio : F) (state : UInt64) (cap : Option Duration) (delay : Duration) :
    Except RetryBuildError Duration :=
  (toDuration (mul (asSecs delay) (factor ratio state))).map fun delay =>
    cap.elim delay fun cap => Nat.min delay cap

end Jitter

/-! ## The iterators -/

inductive BaseDelayIter (F : Type) : Type
  | repeated (delay : Duration) (remaining : Nat)
  | explicit (delays : List Duration)
  | exponential (remaining : Nat) (seconds multiplier capSeconds : F)

namespace BaseDelayIter

/-- The delay of the exponential backoff, and what its accumulator becomes. -/
def exponentialDelay (seconds multiplier capSeconds : F) : Except RetryBuildError Duration :=
  let delay := toDuration (FloatOps.min seconds capSeconds)
  if isFinite (FloatOps.min (mul seconds multiplier) capSeconds) then delay
  else .error .durationOverflow

def next : BaseDelayIter F → Option (Except RetryBuildError Duration × BaseDelayIter F)
  | repeated delay remaining =>
    if remaining = 0 then none else some (.ok delay, repeated delay (remaining - 1))
  | explicit [] => none
  | explicit (delay :: delays) => some (.ok delay, explicit delays)
  | exponential remaining seconds multiplier capSeconds =>
    if remaining = 0 then none
    else
      some (exponentialDelay seconds multiplier capSeconds,
        exponential (remaining - 1) (FloatOps.min (mul seconds multiplier) capSeconds) multiplier
          capSeconds)

def remaining : BaseDelayIter F → Nat
  | repeated _ remaining => remaining
  | explicit delays => delays.length
  | exponential remaining _ _ _ => remaining

theorem next_lt {s t : BaseDelayIter F} {item : Except RetryBuildError Duration}
    (step : s.next = some (item, t)) : t.remaining < s.remaining := by
  cases s with
  | repeated delay remaining =>
    obtain ⟨left, moved⟩ := Option.ite_none_left_eq_some.1 step
    cases moved
    exact Nat.sub_lt (Nat.pos_of_ne_zero left) Nat.one_pos
  | explicit delays =>
    cases delays with
    | nil => cases step
    | cons delay delays =>
      cases step
      exact Nat.lt_succ_self _
  | exponential remaining seconds multiplier capSeconds =>
    obtain ⟨left, moved⟩ := Option.ite_none_left_eq_some.1 step
    cases moved
    exact Nat.sub_lt (Nat.pos_of_ne_zero left) Nat.one_pos

end BaseDelayIter

/-- The base delays, one by one. -/
def baseDelays (F : Type) [FloatOps F] : Iter (BaseDelayIter F) (Except RetryBuildError Duration)
    where
  next := BaseDelayIter.next
  remaining := BaseDelayIter.remaining
  next_lt := BaseDelayIter.next_lt

structure JitterState (F : Type) : Type where
  state : UInt64
  ratio : F

structure DelayIter (F : Type) : Type where
  base : BaseDelayIter F
  jitter : Option (JitterState F)
  cap : Option Duration

namespace DelayIter

def next (s : DelayIter F) : Option (Except RetryBuildError Duration × DelayIter F) :=
  match s.base.next with
  | none => none
  | some (.error error, base) => some (.error error, { s with base := base })
  | some (.ok delay, base) =>
    match s.jitter with
    | none => some (.ok delay, { s with base := base })
    | some jitter =>
      let state := Jitter.advance jitter.state
      some (Jitter.jittered jitter.ratio state s.cap delay,
        { s with base := base, jitter := some { jitter with state := state } })

theorem base_of_next {s t : DelayIter F} {item : Except RetryBuildError Duration}
    (step : s.next = some (item, t)) : ∃ item, s.base.next = some (item, t.base) := by
  unfold next at step
  split at step
  · cases step
  · rename_i error base moved
    cases step
    exact ⟨_, moved⟩
  · rename_i delay base moved
    split at step
    · cases step
      exact ⟨_, moved⟩
    · cases step
      exact ⟨_, moved⟩

end DelayIter

/-- The delays of a plan, one by one. -/
def planDelays (F : Type) [FloatOps F] : Iter (DelayIter F) (Except RetryBuildError Duration) where
  next := DelayIter.next
  remaining := fun s => s.base.remaining
  next_lt := by
    intro s t item step
    obtain ⟨item, moved⟩ := DelayIter.base_of_next step
    exact BaseDelayIter.next_lt moved

/-! ## The plan -/

inductive DelaySource (F : Type) : Type
  | zero
  | fixed (delay : Duration)
  | explicit (delays : List Duration)
  | exponential (base : Duration) (multiplier : F) (cap : Duration)

structure DelayPlan (F : Type) : Type where
  source : DelaySource F
  jitter : Option (Jitter F)
  jitterCap : Option Duration
  len : Nat

namespace DelayPlan

def baseIter (plan : DelayPlan F) : BaseDelayIter F :=
  match plan.source with
  | .zero => .repeated 0 plan.len
  | .fixed delay => .repeated delay plan.len
  | .explicit delays => .explicit delays
  | .exponential base multiplier cap =>
    .exponential plan.len (asSecs base) multiplier (asSecs cap)

def iter (plan : DelayPlan F) : DelayIter F where
  base := plan.baseIter
  jitter := plan.jitter.map fun jitter => ⟨jitter.seed, jitter.ratio⟩
  cap := plan.jitterCap

/-- The source of the delays and the cap of the jitter: the first part of `build`. -/
def sourceOf (backoff : Backoff F) (retryCount : Nat) :
    Except RetryBuildError (DelaySource F × Option Duration) :=
  match backoff with
  | .none => .ok (.zero, none)
  | .fixed delay => .ok (.fixed delay, none)
  | .explicit delays =>
    if delays.length ≠ retryCount then .error (.delayCountMismatch retryCount delays.length)
    else .ok (.explicit delays, none)
  | .exponential base multiplier cap =>
    if !isFinite multiplier || lt multiplier one then .error .invalidBackoffMultiplier
    else if cap < base then .error .backoffCapBelowBase
    else .ok (.exponential base multiplier cap, some cap)

def build (backoff : Backoff F) (retryCount : Nat) (jitter : Option (Jitter F)) :
    Except RetryBuildError (DelayPlan F) := do
  let (source, cap) ← sourceOf backoff retryCount
  let plan : DelayPlan F := ⟨source, jitter, cap, retryCount⟩
  check ((baseDelays F).collect plan.baseIter)
  match jitter with
  | none => return plan
  | some jitter =>
    if !jitter.isValid then .error .invalidJitterRatio
    else
      check ((planDelays F).collect plan.iter)
      return plan

end DelayPlan

/-! ## The dense form -/

/-- The loop of `build_delays`. -/
def growDelays (multiplier capSeconds : F) : Nat → F → Except RetryBuildError (List Duration)
  | 0, _ => .ok []
  | count + 1, seconds => do
    let delay ← toDuration (FloatOps.min seconds capSeconds)
    let seconds := FloatOps.min (mul seconds multiplier) capSeconds
    if !isFinite seconds then .error .durationOverflow
    else
      let delays ← growDelays multiplier capSeconds count seconds
      return delay :: delays

def buildDelays (backoff : Backoff F) (retryCount : Nat) : Except RetryBuildError (List Duration) :=
  match backoff with
  | .none => .ok (List.replicate retryCount 0)
  | .fixed delay => .ok (List.replicate retryCount delay)
  | .explicit delays =>
    if delays.length ≠ retryCount then .error (.delayCountMismatch retryCount delays.length)
    else .ok delays
  | .exponential base multiplier cap =>
    if !isFinite multiplier || lt multiplier one then .error .invalidBackoffMultiplier
    else if cap < base then .error .backoffCapBelowBase
    else growDelays multiplier (asSecs cap) retryCount (asSecs base)

/-- The loop of `apply_jitter`. -/
def jitterDelays (ratio : F) (cap : Option Duration) :
    UInt64 → List Duration → Except RetryBuildError (List Duration)
  | _, [] => .ok []
  | state, delay :: delays => do
    let state := Jitter.advance state
    let first ← Jitter.jittered ratio state cap delay
    let others ← jitterDelays ratio cap state delays
    return first :: others

def applyJitter (delays : List Duration) (jitter : Jitter F) (cap : Option Duration) :
    Except RetryBuildError (List Duration) :=
  if !isFinite jitter.ratio || !(le zero jitter.ratio && le jitter.ratio one) then
    .error .invalidJitterRatio
  else jitterDelays jitter.ratio cap jitter.seed delays

/-- The cap of the exponential backoff. -/
def Backoff.cap : Backoff F → Option Duration
  | .exponential _ _ cap => .some cap
  | _ => .none

/-- The delays, eagerly. -/
def denseDelays (backoff : Backoff F) (retryCount : Nat) (jitter : Option (Jitter F)) :
    Except RetryBuildError (List Duration) := do
  let delays ← buildDelays backoff retryCount
  match jitter with
  | none => return delays
  | some jitter => applyJitter delays jitter backoff.cap

/-! ## The plan against the dense form -/

theorem error_of_toDuration {seconds : F} {error : RetryBuildError}
    (failed : toDuration seconds = .error error) : error = .durationOverflow := by
  unfold toDuration at failed
  split at failed
  · cases failed
  · cases failed
    rfl

theorem collect_repeated (delay : Duration) (count : Nat) :
    (baseDelays F).collect (.repeated delay count) =
      (List.replicate count delay).map Except.ok := by
  induction count with
  | zero => exact Iter.collect_of_none rfl
  | succ count ih =>
    have step : (baseDelays F).next (.repeated delay (count + 1)) =
        some (.ok delay, .repeated delay count) := rfl
    rw [Iter.collect_of_some step, ih]
    rfl

theorem collect_explicit (delays : List Duration) :
    (baseDelays F).collect (.explicit delays) = delays.map Except.ok := by
  induction delays with
  | nil => exact Iter.collect_of_none rfl
  | cons delay delays ih =>
    have step : (baseDelays F).next (.explicit (delay :: delays)) =
        some (.ok delay, .explicit delays) := rfl
    rw [Iter.collect_of_some step, ih]
    rfl

/-- The lazy accumulator goes on after an error, and the eager one does not: the first error
is the same. -/
theorem gather_exponential (multiplier capSeconds : F) (count : Nat) (seconds : F) :
    gather ((baseDelays F).collect (.exponential count seconds multiplier capSeconds)) =
      growDelays multiplier capSeconds count seconds := by
  induction count generalizing seconds with
  | zero => rw [Iter.collect_of_none rfl]; rfl
  | succ count ih =>
    have step : (baseDelays F).next (.exponential (count + 1) seconds multiplier capSeconds) =
        some (BaseDelayIter.exponentialDelay seconds multiplier capSeconds,
          .exponential count (FloatOps.min (mul seconds multiplier) capSeconds) multiplier
            capSeconds) := rfl
    rw [Iter.collect_of_some step]
    unfold BaseDelayIter.exponentialDelay growDelays
    cases delay : toDuration (FloatOps.min seconds capSeconds) with
    | error error =>
      obtain rfl := error_of_toDuration delay
      cases isFinite (FloatOps.min (mul seconds multiplier) capSeconds) <;> rfl
    | ok delay =>
      cases finite : isFinite (FloatOps.min (mul seconds multiplier) capSeconds) with
      | false => simp [finite, bind, Except.bind]
      | true =>
        simp only [finite, if_true, gather_ok_cons, ih, bind, Except.bind, Bool.not_true,
          Bool.false_eq_true, if_false]
        rfl

/-- Without jitter the plan yields the base delays. -/
theorem collect_unjittered (base : BaseDelayIter F) (cap : Option Duration) :
    (planDelays F).collect ⟨base, none, cap⟩ = (baseDelays F).collect base := by
  generalize items : (baseDelays F).collect base = list
  induction list generalizing base with
  | nil =>
    have ended : base.next = none := Iter.next_of_collect_nil items
    refine Iter.collect_of_none ?_
    simp only [planDelays, DelayIter.next, ended]
  | cons item rest ih =>
    obtain ⟨after, step, others⟩ := Iter.next_of_collect_cons items
    have moved : base.next = some (item, after) := step
    have yields : (planDelays F).next ⟨base, none, cap⟩ = some (item, ⟨after, none, cap⟩) := by
      simp only [planDelays, DelayIter.next, moved]
      cases item <;> rfl
    rw [Iter.collect_of_some yields, ih after others]

/-- Over base delays that are all there, the generator runs as in the eager loop. -/
theorem gather_jittered (ratio : F) (cap : Option Duration) {delays : List Duration}
    (base : BaseDelayIter F) (state : UInt64)
    (items : (baseDelays F).collect base = delays.map Except.ok) :
    gather ((planDelays F).collect ⟨base, some ⟨state, ratio⟩, cap⟩) =
      jitterDelays ratio cap state delays := by
  induction delays generalizing base state with
  | nil =>
    have ended : base.next = none := Iter.next_of_collect_nil items
    rw [Iter.collect_of_none]
    · rfl
    · simp only [planDelays, DelayIter.next, ended]
  | cons delay delays ih =>
    obtain ⟨after, step, others⟩ := Iter.next_of_collect_cons items
    have moved : base.next = some (.ok delay, after) := step
    have yields : (planDelays F).next ⟨base, some ⟨state, ratio⟩, cap⟩ =
        some (Jitter.jittered ratio (Jitter.advance state) cap delay,
          ⟨after, some ⟨Jitter.advance state, ratio⟩, cap⟩) := by
      simp only [planDelays, DelayIter.next, moved]
    rw [Iter.collect_of_some yields, jitterDelays]
    cases Jitter.jittered ratio (Jitter.advance state) cap delay with
    | error error => rfl
    | ok first =>
      rw [gather_ok_cons, ih after _ others]
      cases jitterDelays ratio cap (Jitter.advance state) delays <;> rfl

theorem length_of_jitterDelays {ratio : F} {cap : Option Duration} {state : UInt64}
    {delays jittered : List Duration} (all : jitterDelays ratio cap state delays = .ok jittered) :
    jittered.length = delays.length := by
  induction delays generalizing state jittered with
  | nil =>
    cases all
    rfl
  | cons delay delays ih =>
    rw [jitterDelays] at all
    cases first : Jitter.jittered ratio (Jitter.advance state) cap delay with
    | error error =>
      rw [first] at all
      cases all
    | ok value =>
      rw [first] at all
      cases others : jitterDelays ratio cap (Jitter.advance state) delays with
      | error error =>
        simp only [bind, Except.bind, others] at all
        cases all
      | ok values =>
        simp only [bind, Except.bind, others] at all
        cases all
        rw [List.length_cons, List.length_cons, ih others]

theorem applyJitter_eq (delays : List Duration) (jitter : Jitter F) (cap : Option Duration) :
    applyJitter delays jitter cap =
      if !jitter.isValid then .error .invalidJitterRatio
      else jitterDelays jitter.ratio cap jitter.seed delays := by
  unfold applyJitter Jitter.isValid
  rw [Bool.not_and (isFinite jitter.ratio)]

/-- The base delays of the dense form are those the plan goes through first. -/
theorem buildDelays_eq (backoff : Backoff F) (retryCount : Nat) (jitter : Option (Jitter F)) :
    buildDelays backoff retryCount =
      (DelayPlan.sourceOf backoff retryCount).bind fun found =>
        gather ((baseDelays F).collect
          (DelayPlan.mk found.1 jitter found.2 retryCount).baseIter) := by
  cases backoff with
  | none => exact ((congrArg gather (collect_repeated 0 retryCount)).trans gather_map_ok).symm
  | fixed delay =>
    exact ((congrArg gather (collect_repeated delay retryCount)).trans gather_map_ok).symm
  | explicit delays =>
    simp only [buildDelays, DelayPlan.sourceOf]
    by_cases other : delays.length ≠ retryCount
    · rw [if_pos other, if_pos other]
      rfl
    · rw [if_neg other, if_neg other]
      exact ((congrArg gather (collect_explicit delays)).trans gather_map_ok).symm
  | exponential base multiplier cap =>
    simp only [buildDelays, DelayPlan.sourceOf]
    by_cases invalid : (!isFinite multiplier || lt multiplier one) = true
    · rw [if_pos invalid, if_pos invalid]
      rfl
    · rw [if_neg invalid, if_neg invalid]
      by_cases below : cap < base
      · rw [if_pos below, if_pos below]
        rfl
      · rw [if_neg below, if_neg below]
        exact (gather_exponential multiplier (asSecs cap) retryCount (asSecs base)).symm

theorem cap_of_sourceOf {backoff : Backoff F} {retryCount : Nat}
    {found : DelaySource F × Option Duration}
    (source : DelayPlan.sourceOf backoff retryCount = .ok found) : found.2 = backoff.cap := by
  cases backoff with
  | none =>
    cases source
    rfl
  | fixed delay =>
    cases source
    rfl
  | explicit delays =>
    simp only [DelayPlan.sourceOf] at source
    split at source
    · cases source
    · cases source
      rfl
  | exponential base multiplier cap =>
    simp only [DelayPlan.sourceOf] at source
    split at source
    · cases source
    · split at source
      · cases source
      · cases source
        rfl

theorem length_of_growDelays {multiplier capSeconds : F} {count : Nat} {seconds : F}
    {delays : List Duration} (grown : growDelays multiplier capSeconds count seconds = .ok delays) :
    delays.length = count := by
  rw [← gather_exponential] at grown
  rw [length_of_gather grown]
  clear grown
  induction count generalizing seconds with
  | zero => rw [Iter.collect_of_none rfl]; rfl
  | succ count ih =>
    have step : (baseDelays F).next (.exponential (count + 1) seconds multiplier capSeconds) =
        some (BaseDelayIter.exponentialDelay seconds multiplier capSeconds,
          .exponential count (FloatOps.min (mul seconds multiplier) capSeconds) multiplier
            capSeconds) := rfl
    rw [Iter.collect_of_some step, List.length_cons, ih]

theorem length_of_buildDelays {backoff : Backoff F} {retryCount : Nat} {delays : List Duration}
    (built : buildDelays backoff retryCount = .ok delays) : delays.length = retryCount := by
  cases backoff with
  | none =>
    cases built
    exact List.length_replicate
  | fixed delay =>
    cases built
    exact List.length_replicate
  | explicit explicit =>
    simp only [buildDelays] at built
    split at built
    · cases built
    · rename_i same
      cases built
      exact not_ne_iff.1 same
  | exponential base multiplier cap =>
    simp only [buildDelays] at built
    split at built
    · cases built
    · split at built
      · cases built
      · exact length_of_growDelays built

/-- Both forms fail with the same error, or both succeed with the same delays. -/
theorem build_cases (backoff : Backoff F) (retryCount : Nat) (jitter : Option (Jitter F)) :
    (∃ error, DelayPlan.build backoff retryCount jitter = .error error ∧
      denseDelays backoff retryCount jitter = .error error) ∨
    ∃ plan delays, DelayPlan.build backoff retryCount jitter = .ok plan ∧
      denseDelays backoff retryCount jitter = .ok delays ∧
      (planDelays F).collect plan.iter = delays.map Except.ok ∧ delays.length = retryCount := by
  have dense := buildDelays_eq backoff retryCount jitter
  unfold DelayPlan.build denseDelays
  cases source : DelayPlan.sourceOf backoff retryCount with
  | error error =>
    rw [source] at dense
    rw [dense]
    exact Or.inl ⟨error, rfl, rfl⟩
  | ok found =>
    obtain ⟨source', cap⟩ := found
    have capped : cap = backoff.cap := cap_of_sourceOf source
    simp only [source, Except.bind] at dense
    simp only [bind, Except.bind, check_eq_gather]
    cases base : gather ((baseDelays F).collect
        (DelayPlan.mk source' jitter cap retryCount).baseIter) with
    | error error =>
      rw [dense, base]
      exact Or.inl ⟨error, rfl, rfl⟩
    | ok delays =>
      have length := length_of_buildDelays (dense.trans base)
      have items := gather_eq_ok.1 base
      rw [dense, base]
      cases jitter with
      | none =>
        exact Or.inr ⟨_, delays, rfl, rfl, (collect_unjittered _ cap).trans items, length⟩
      | some jitter =>
        have yields : gather ((planDelays F).collect
            (DelayPlan.mk source' (some jitter) cap retryCount).iter) =
            jitterDelays jitter.ratio cap jitter.seed delays :=
          gather_jittered jitter.ratio cap _ jitter.seed items
        simp only [applyJitter_eq, ← capped, ← yields]
        cases jitter.isValid with
        | false => exact Or.inl ⟨.invalidJitterRatio, rfl, rfl⟩
        | true =>
          simp only [Bool.not_true, Bool.false_eq_true, if_false]
          cases all : gather ((planDelays F).collect
              (DelayPlan.mk source' (some jitter) cap retryCount).iter) with
          | error error => exact Or.inl ⟨error, rfl, rfl⟩
          | ok jittered =>
            exact Or.inr ⟨_, jittered, rfl, rfl, gather_eq_ok.1 all,
              (length_of_jitterDelays (yields.symm.trans all)).trans length⟩

/-- **Main result.**  The plan is built exactly when the dense form is, with the same error
otherwise, and yields the dense delays. -/
theorem delay_plan_eq_dense (backoff : Backoff F) (retryCount : Nat)
    (jitter : Option (Jitter F)) :
    (DelayPlan.build backoff retryCount jitter).map (fun plan =>
        ((planDelays F).collect plan.iter, ((planDelays F).collect plan.iter).length)) =
      (denseDelays backoff retryCount jitter).map fun delays =>
        (delays.map Except.ok, retryCount) := by
  rcases build_cases backoff retryCount jitter with
    ⟨error, built, dense⟩ | ⟨plan, delays, built, dense, yields, length⟩
  · rw [built, dense]
    rfl
  · rw [built, dense]
    simp only [Except.map, yields, List.length_map, length]

end BusyBeaver
