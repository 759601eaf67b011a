import BusyBeaver.Supervision.Ticks

/-!
# Contexts of attempts

`spawn_child` compares the number of its context's attempt with the one that is open.  A
retry numbers its attempts from 1, and a recurring `from_retry` runs a retry in every tick:
the numbers tell the attempts of one tick apart, and those of two ticks not.  So a context is
named here by its place in the calls of the run (`retryCalls`), and `Contexts` says which of
those that were handed out in the current tick can spawn: the one of the open attempt.

`RetryMoved` lists what a step of `run_retry`, or of the ticks around it, does to the
attempts.
-/

namespace BusyBeaver

open Transition

variable {T E : Type}

/-! ## What is called -/

/-- What a run calls: the next tick of the recurring loop, or the factory of an attempt. -/
inductive RetryCall : Type
  | tick
  | attempt (number : Nat)
  deriving DecidableEq, Repr

/-- The factory of the attempt is called. -/
def Choice.calls : Choice T E → Bool
  | .proceed | .panic _ | .detach => true
  | _ => false

/-- What a step of the body calls. -/
def Phase.call (phase : Phase) (choice : Choice T E) : Option RetryCall :=
  match phase, choice with
  | .entering (.tick _), .proceed => some .tick
  | .begun (.attempt number _), choice => if choice.calls then some (.attempt number) else none
  | _, _ => none

namespace Phase

/-- The first attempt whose factory the tick has not called; `none` when there is no other. -/
def uncalled : Phase → Option Nat
  | .spawned | .delaying | .begun (.tick _) => some 0
  | .entering (.attempt number _) | .begun (.attempt number _) => some number
  | .driving (.attempt number _) _ | .reaping (.attempt number _) _
  | .leaving (.attempt number _) | .closing (.attempt number _) _
  | .decided (.attempt number _) | .sleeping (.attempt number _) => some (number + 1)
  | _ => none

end Phase

/-- The attempt that `begin_attempt` has opened, until its closer. -/
def ChildSet.openAttempt (children : ChildSet) : Option Nat :=
  if children.attemptAdmissionOpen then some children.currentAttempt else none

/-- The attempt was called since the last tick began. -/
def CalledNow (calls : List RetryCall) (number : Nat) : Prop :=
  ∃ before after, calls = before ++ .attempt number :: after ∧ .tick ∉ after

theorem not_calledNow_tick {calls : List RetryCall} {number : Nat} :
    ¬ CalledNow (calls ++ [.tick]) number := by
  rintro ⟨before, after, split, now⟩
  rcases List.eq_nil_or_concat' after with rfl | ⟨rest, call, rfl⟩
  · cases List.singleton_inj.1 (List.append_inj' split rfl).2
  · rw [← List.cons_append, ← List.append_assoc] at split
    obtain rfl := List.singleton_inj.1 (List.append_inj' split rfl).2
    exact now (List.mem_append_right _ List.mem_cons_self)

theorem calledNow_attempt {calls : List RetryCall} {called number : Nat}
    (now : CalledNow (calls ++ [.attempt called]) number) :
    CalledNow calls number ∨ number = called := by
  obtain ⟨before, after, split, now⟩ := now
  rcases List.eq_nil_or_concat' after with rfl | ⟨rest, call, rfl⟩
  · obtain same := List.singleton_inj.1 (List.append_inj' split rfl).2
    exact Or.inr (RetryCall.attempt.inj same).symm
  · rw [← List.cons_append, ← List.append_assoc] at split
    obtain ⟨rfl, -⟩ := List.append_inj' split rfl
    exact Or.inl ⟨before, rest, rfl, fun member => now (List.mem_append_left _ member)⟩

namespace Supervised

variable {state after : Supervised T E}

/-! ## What a step does to the attempts -/

/-- A step of the body, from one phase to another. -/
inductive RetryMoved (state after : Supervised T E) : Phase → Choice T E → Phase → Prop
  | begins {turn : Iteration} : turn.ofRetry = true →
    after.children = state.children.beginAttempt turn.contextAttempt →
    RetryMoved state after (.entering turn) .proceed (.begun turn)
  | calls {number : Nat} {outer : Option Nat} {choice : Choice T E} {phase' : Phase} :
    choice.calls = true → after.children = state.children →
    phase'.openAttempt = some number → phase'.uncalled = some (number + 1) →
    RetryMoved state after (.begun (.attempt number outer)) choice phase'
  | closes {turn : Iteration} {choice : Choice T E} {pending : List Nat} :
    after.children = (state.children.closeAttemptChildren turn.contextAttempt).1 →
    RetryMoved state after (.leaving turn) choice (.closing turn pending)
  /-- To a phase outside `run_retry`. -/
  | outside {phase phase' : Phase} {choice : Choice T E} :
    phase.call choice = none → after.children = state.children →
    phase'.openAttempt = none → phase'.uncalled = none →
    phase.openAttempt = none ∨ (∃ number, phase.openAttempt = some number ∧
      phase.uncalled = some number) →
    RetryMoved state after phase choice phase'
  | goesOn {phase phase' : Phase} {choice : Choice T E} {number number' : Nat} :
    phase.call choice = none → after.children = state.children →
    phase'.openAttempt = phase.openAttempt →
    phase.uncalled = some number → phase'.uncalled = some number' → number ≤ number' →
    RetryMoved state after phase choice phase'

namespace RetryMoved

variable {turn : Iteration} {phase phase' : Phase} {choice : Choice T E} {job : Nat}

/-- The body task returns, or the operation of a tick does. -/
theorem finish {between : Supervised T E} {exit : Returned T E}
    (silent : phase.call choice = none) (same : between.children = state.children)
    (shut : phase.openAttempt = none ∨ ∃ number, phase.openAttempt = some number ∧
      phase.uncalled = some number)
    (there : (between.finish turn exit).body = .running phase') :
    RetryMoved state (between.finish turn exit) phase choice phase' := by
  unfold Supervised.finish at there ⊢
  split at there
  · obtain rfl := BodyTask.running.inj there
    exact .outside silent same rfl rfl shut
  · cases there

theorem of_enter (allowed : turn.ofRetry = true) (step : state.enter turn choice = some after)
    (there : after.body = .running phase') :
    RetryMoved state after (.entering turn) choice phase' := by
  cases choice with
  | proceed =>
    cases turn with
    | attempt number outer =>
      simp only [enter] at step
      split at step
      · obtain rfl := Option.some.inj step
        obtain rfl := BodyTask.running.inj there
        exact .begins rfl rfl
      · cases step
    | tick number =>
      obtain rfl := Option.some.inj step
      obtain rfl := BodyTask.running.inj there
      exact .begins rfl rfl
    | generation number stopping => cases allowed
  | exit exit =>
    cases turn with
    | attempt number outer =>
      simp only [enter] at step
      split at step
      · obtain rfl := Option.some.inj step
        exact finish rfl rfl (Or.inl rfl) there
      · cases step
    | tick number =>
      obtain rfl := Option.some.inj step
      exact finish rfl rfl (Or.inl rfl) there
    | generation number stopping => cases step
  | _ => cases step

theorem of_launch (retries : state.kind.retries = true) (allowed : turn.ofRetry = true)
    (step : state.launch turn choice = some after) (there : after.body = .running phase') :
    RetryMoved state after (.begun turn) choice phase' := by
  cases turn with
  | attempt number outer =>
    have early : Phase.openAttempt (.begun (.attempt number outer)) = none ∨
        ∃ other, Phase.openAttempt (.begun (.attempt number outer)) = some other ∧
          Phase.uncalled (.begun (.attempt number outer)) = some other :=
      Or.inr ⟨number, rfl, rfl⟩
    cases choice with
    | deadline lastError | exit exit =>
      obtain rfl := Option.some.inj step
      exact finish rfl rfl early there
    | panic message | proceed | detach =>
      obtain rfl := Option.some.inj step
      obtain rfl := BodyTask.running.inj there
      exact .calls rfl rfl rfl rfl
    | _ => cases step
  | tick number =>
    simp only [launch] at step
    split at step
    · obtain rfl := Option.some.inj step
      obtain rfl := BodyTask.running.inj there
      exact .goesOn rfl rfl rfl rfl rfl (Nat.zero_le 1)
    · obtain rfl := Option.some.inj step
      obtain rfl := BodyTask.running.inj there
      exact .outside rfl rfl rfl rfl (Or.inl rfl)
    · rename_i here
      rw [here] at retries
      cases retries
    · rename_i here
      rw [here] at retries
      cases retries
    · cases step
  | generation number stopping => cases allowed

theorem of_drive (inside : turn.inRetry = true) (step : state.drive turn job choice = some after)
    (there : after.body = .running phase') :
    RetryMoved state after (.driving turn job) choice phase' := by
  cases turn with
  | attempt number outer =>
    cases choice with
    | proceed =>
      simp only [drive] at step
      split at step
      · cases step
      · obtain rfl := Option.some.inj step
        obtain rfl := BodyTask.running.inj there
        exact .goesOn rfl rfl rfl rfl rfl le_rfl
    | deadline lastError | expire =>
      obtain rfl := Option.some.inj step
      obtain rfl := BodyTask.running.inj there
      exact .goesOn rfl rfl rfl rfl rfl le_rfl
    | _ => cases step
  | _ => cases inside

theorem of_reap (inside : turn.inRetry = true) (step : state.reap turn job choice = some after)
    (there : after.body = .running phase') :
    RetryMoved state after (.reaping turn job) choice phase' := by
  cases turn with
  | attempt number outer =>
    cases choice with
    | proceed =>
      simp only [reap] at step
      split at step
      · cases step
      · obtain rfl := Option.some.inj step
        obtain rfl := BodyTask.running.inj there
        exact .goesOn rfl rfl rfl rfl rfl le_rfl
    | _ => cases step
  | _ => cases inside

/-- Between two phases after the closer of one iteration. -/
theorem closed (turn : Iteration) (between : Phase) (allowed : turn.ofRetry = true)
    (silent : phase.call choice = none) (same : after.children = state.children)
    (shut : phase.openAttempt = none) (shut' : between.openAttempt = none)
    (uncalled : phase.uncalled = (Phase.sleeping turn).uncalled)
    (uncalled' : between.uncalled = (Phase.sleeping turn).uncalled)
    (there : (.running between : BodyTask T E) = .running phase') :
    RetryMoved state after phase choice phase' := by
  obtain rfl := BodyTask.running.inj there
  cases turn with
  | attempt number outer =>
    exact .goesOn silent same (shut'.trans shut.symm) uncalled uncalled' le_rfl
  | tick number => exact .outside silent same shut' uncalled' (Or.inl shut)
  | generation number stopping => cases allowed

theorem of_awaitChildren {pending : List Nat} (allowed : turn.ofRetry = true)
    (step : state.awaitChildren turn pending choice = some after)
    (there : after.body = .running phase') :
    RetryMoved state after (.closing turn pending) choice phase' := by
  cases choice with
  | proceed =>
    cases pending with
    | nil =>
      obtain rfl := Option.some.inj step
      exact closed turn (.decided turn) allowed rfl rfl rfl rfl (by cases turn <;> rfl)
        (by cases turn <;> rfl) there
    | cons first rest =>
      simp only [awaitChildren] at step
      split at step
      · cases step
      · obtain rfl := Option.some.inj step
        exact closed turn (.closing turn rest) allowed rfl rfl rfl rfl (by cases turn <;> rfl)
          (by cases turn <;> rfl) there
  | _ => cases pending <;> cases step

theorem of_decide (allowed : turn.ofRetry = true) (step : state.decide turn choice = some after)
    (there : after.body = .running phase') :
    RetryMoved state after (.decided turn) choice phase' := by
  cases choice with
  | exit exit =>
    obtain rfl := Option.some.inj step
    exact finish rfl rfl (Or.inl rfl) there
  | deadline lastError =>
    cases turn with
    | attempt number outer =>
      obtain rfl := Option.some.inj step
      exact finish rfl rfl (Or.inl rfl) there
    | _ => cases step
  | sleep =>
    simp only [Supervised.decide] at step
    split at step
    · cases step
    · obtain rfl := Option.some.inj step
      exact closed _ _ allowed rfl rfl rfl rfl (by cases turn <;> rfl) rfl there
  | _ => cases step

theorem of_wake (allowed : turn.ofRetry = true) (step : state.wake turn choice = some after)
    (there : after.body = .running phase') :
    RetryMoved state after (.sleeping turn) choice phase' := by
  cases choice with
  | exit exit =>
    obtain rfl := Option.some.inj step
    exact finish rfl rfl (Or.inl rfl) there
  | proceed =>
    obtain ⟨following, next, rfl⟩ := Option.map_eq_some_iff.1 step
    obtain rfl := BodyTask.running.inj there
    cases turn with
    | attempt number outer =>
      obtain rfl := Option.some.inj next
      exact .goesOn rfl rfl rfl rfl rfl le_rfl
    | tick number =>
      obtain ⟨number, -, rfl⟩ := Option.map_eq_some_iff.1 next
      exact .outside rfl rfl rfl rfl (Or.inl rfl)
    | generation number stopping => cases allowed
  | sleep | restart =>
    cases turn with
    | tick number =>
      obtain rfl := Option.some.inj step
      obtain rfl := BodyTask.running.inj there
      exact .outside rfl rfl rfl rfl (Or.inl rfl)
    | _ => cases step
  | _ => cases step

theorem of_start (retries : state.kind.retries = true)
    (there : state.start.body = .running phase') :
    RetryMoved state state.start .spawned choice phase' := by
  have place : phase' = .entering (.attempt 1 none) ∨ phase' = .delaying := by
    obtain rfl := BodyTask.running.inj there
    cases here : state.kind with
    | retry maxAttempts => exact Or.inl rfl
    | recurring operation => exact Or.inr rfl
    | _ =>
      rw [here] at retries
      cases retries
  rcases place with rfl | rfl
  · exact .goesOn rfl rfl rfl rfl rfl (Nat.zero_le 1)
  · exact .goesOn rfl rfl rfl rfl rfl le_rfl

theorem of_bodyStep (retries : state.kind.retries = true) (allowed : phase.ofRetry = true)
    (here : state.body = .running phase) (step : state.bodyStep choice = some after)
    (there : after.body = .running phase') : RetryMoved state after phase choice phase' := by
  unfold bodyStep at step
  rw [here] at step
  cases phase with
  | spawned =>
    obtain rfl := Option.some.inj step
    exact of_start retries there
  | delaying =>
    cases choice with
    | proceed =>
      obtain rfl := Option.some.inj step
      obtain rfl := BodyTask.running.inj there
      exact .outside rfl rfl rfl rfl (Or.inl rfl)
    | exit exit =>
      obtain rfl := Option.some.inj step
      cases there
    | _ => cases step
  | entering turn => exact of_enter allowed step there
  | begun turn => exact of_launch retries allowed step there
  | driving turn job => exact of_drive allowed step there
  | reaping turn job => exact of_reap allowed step there
  | leaving turn =>
    obtain rfl := Option.some.inj step
    obtain rfl := BodyTask.running.inj there
    exact .closes rfl
  | closing turn pending => exact of_awaitChildren allowed step there
  | decided turn => exact of_decide allowed step there
  | sleeping turn => exact of_wake allowed step there
  | _ => cases allowed

end RetryMoved

/-! ## Which contexts can spawn -/

/-- What holds where the body stands, after these calls: the contexts of the tick are those
of the attempts below `uncalled`, and only the one whose attempt is open can spawn. -/
structure Contexts (calls : List RetryCall) (state : Supervised T E) (phase : Phase) : Prop where
  admits : state.children.admissionOpen = true
  below : ∀ number bound, CalledNow calls number → phase.uncalled = some bound → number < bound
  own : ∀ number, CalledNow calls number → state.children.openAttempt = some number →
    phase.openAttempt = some number

namespace Contexts

variable {calls : List RetryCall} {phase phase' : Phase} {choice : Choice T E}

theorem openAttempt_beginAttempt {children : ChildSet} {attempt number : Nat}
    (opened : (children.beginAttempt attempt).openAttempt = some number) : number = attempt := by
  unfold ChildSet.openAttempt ChildSet.beginAttempt at opened
  obtain ⟨-, same⟩ := Option.ite_none_right_eq_some.1 opened
  exact (Option.some.inj same).symm

theorem openAttempt_closeAttemptChildren {children : ChildSet} {attempt number : Nat}
    (opened : (children.closeAttemptChildren attempt).1.openAttempt = some number) :
    children.openAttempt = some number ∧ number ≠ attempt := by
  unfold ChildSet.openAttempt ChildSet.closeAttemptChildren at opened
  obtain ⟨admission, same⟩ := Option.ite_none_right_eq_some.1 opened
  obtain rfl := Option.some.inj same
  by_cases own : children.currentAttempt = attempt
  · rw [if_pos own] at admission
    cases admission
  · rw [if_neg own] at admission
    exact ⟨if_pos admission, own⟩

/-- **Step lemma.** -/
theorem of_moved (contexts : Contexts calls state phase)
    (moved : RetryMoved state after phase choice phase') :
    Contexts (calls ++ (phase.call choice).toList) after phase' := by
  cases moved with
  | @begins turn allowed children =>
    have admits : after.children.admissionOpen = true := by
      rw [children]
      exact contexts.admits
    cases turn with
    | attempt number outer =>
      rw [show Phase.call (.entering (.attempt number outer)) (.proceed : Choice T E) = none from
        rfl, Option.toList_none, List.append_nil]
      refine ⟨admits, contexts.below, fun other now opened => ?_⟩
      rw [children] at opened
      exact congrArg some (openAttempt_beginAttempt opened).symm
    | tick number =>
      exact ⟨admits, fun _ _ now => (not_calledNow_tick now).elim,
        fun _ now => (not_calledNow_tick now).elim⟩
    | generation number stopping => cases allowed
  | @calls number outer choice phase' called children opened uncalled =>
    have logged : Phase.call (.begun (.attempt number outer)) choice = some (.attempt number) :=
      if_pos called
    rw [logged]
    refine ⟨by rw [children]; exact contexts.admits, fun other bound now first => ?_,
      fun other now admission => ?_⟩
    · obtain rfl := Option.some.inj (uncalled.symm.trans first)
      rcases calledNow_attempt now with earlier | rfl
      · exact (contexts.below other number earlier rfl).trans (Nat.lt_succ_self number)
      · exact Nat.lt_succ_self other
    · rw [children] at admission
      rcases calledNow_attempt now with earlier | rfl
      · exact opened.trans (contexts.own other earlier admission)
      · exact opened
  | @closes turn choice pending children =>
    rw [show Phase.call (.leaving turn) choice = none from rfl, Option.toList_none,
      List.append_nil]
    refine ⟨by rw [children]; exact contexts.admits, fun other bound now first => ?_,
      fun other now opened => ?_⟩
    · exact contexts.below other bound now (by cases turn <;> exact first)
    · rw [children] at opened
      obtain ⟨before, apart⟩ := openAttempt_closeAttemptChildren opened
      have own := contexts.own other now before
      cases turn with
      | attempt number outer => exact absurd (Option.some.inj own).symm apart
      | _ => cases own
  | outside silent children shut uncalled early =>
    rw [silent, Option.toList_none, List.append_nil]
    refine ⟨by rw [children]; exact contexts.admits, fun other bound _ first => ?_,
      fun other now opened => ?_⟩
    · rw [uncalled] at first
      cases first
    · rw [children] at opened
      have own := contexts.own other now opened
      rcases early with closed | ⟨number, here, next⟩
      · rw [closed] at own
        cases own
      · obtain rfl := Option.some.inj (here.symm.trans own)
        exact absurd (contexts.below number number now next) (lt_irrefl number)
  | goesOn silent children same first first' later =>
    rw [silent, Option.toList_none, List.append_nil]
    refine ⟨by rw [children]; exact contexts.admits, fun other bound now next => ?_,
      fun other now opened => ?_⟩
    · obtain rfl := Option.some.inj (first'.symm.trans next)
      exact (contexts.below other _ now first).trans_le later
    · rw [children] at opened
      exact same.trans (contexts.own other now opened)

theorem ofChildren : OfChildren (Contexts (T := T) (E := E) calls) := by
  intro state after phase contexts _ children _
  refine ⟨?_, contexts.below, ?_⟩
  · rw [children]
    exact contexts.admits
  · rw [children]
    exact contexts.own

/-- A child that is admitted opens and closes nothing. -/
theorem ofSpawn {attempt : Nat} {available : Bool} (contexts : Contexts calls state phase)
    (spawned : state.spawnChild attempt available = .ok after) : Contexts calls after phase := by
  unfold Supervised.spawnChild at spawned
  split at spawned
  · rename_i children tracked
    obtain ⟨-, rfl⟩ := ChildSet.of_spawnChild tracked
    obtain rfl := Except.ok.inj spawned
    exact ⟨contexts.admits, contexts.below, contexts.own⟩
  · cases spawned

end Contexts

/-- What a step calls. -/
def call (state : Supervised T E) : SupervisedAction T E → Option RetryCall
  | .body choice =>
    match state.body with
    | .running phase => phase.call choice
    | _ => none
  | _ => none

end Supervised

open Supervised

theorem ChildSet.spawnChild_parentClosing_iff {children : ChildSet}
    (admits : children.admissionOpen = true) {maximum attempt child : Nat} {available : Bool} :
    children.spawnChild maximum attempt available child = .error .parentClosing ↔
      children.openAttempt ≠ some attempt := by
  unfold ChildSet.spawnChild ChildSet.openAttempt
  rw [admits]
  cases children.attemptAdmissionOpen with
  | false => simp
  | true =>
    by_cases own : children.currentAttempt = attempt
    · simp only [own, Bool.not_true, Bool.or_self, ne_eq, not_true_eq_false, decide_false,
        Bool.false_eq_true, if_false, if_true, iff_false]
      split
      · simp
      · split <;> simp
    · simp [own]

section Retry

variable {kind : Kind} {abortPolicy : AbortPolicy} {maximumChildren : Nat}
  {actions : List (SupervisedAction T E)} {state : Supervised T E}

/-- What a run has called, in order. -/
def retryCalls (kind : Kind) (abortPolicy : AbortPolicy) (maximumChildren : Nat)
    (actions : List (SupervisedAction T E)) : List RetryCall :=
  (supervision T E kind abortPolicy maximumChildren).outputs Supervised.call
    (supervision T E kind abortPolicy maximumChildren).init actions

/-- **Run lemma.** -/
theorem contexts_of_run (retries : kind.retries = true)
    (run : (supervision T E kind abortPolicy maximumChildren).exec
      (supervision T E kind abortPolicy maximumChildren).init actions = some state)
    (representable : .body .detach ∉ actions) :
    Carries (Contexts (retryCalls kind abortPolicy maximumChildren actions)) state := by
  revert representable
  refine System.exec_invariant (I := fun actions state => .body .detach ∉ actions →
    Carries (Contexts (retryCalls kind abortPolicy maximumChildren actions)) state) ?_ ?_ run
  · intro _
    refine ⟨fun running => (by cases running), fun phase here => ?_⟩
    have none_called (number : Nat) : ¬ CalledNow [] number := by
      rintro ⟨before, after, split, -⟩
      simp at split
    exact ⟨rfl, fun number _ now => (none_called number now).elim,
      fun number now => (none_called number now).elim⟩
  · intro before x y action reached ih taken representable
    have step : x.step action = some y := taken
    have earlier : .body .detach ∉ before := fun member =>
      representable (List.mem_append_left _ member)
    have carries := ih earlier
    have calls : retryCalls kind abortPolicy maximumChildren (before ++ [action]) =
        retryCalls kind abortPolicy maximumChildren before ++ (x.call action).toList :=
      System.outputs_snoc reached
    rw [calls]
    cases action with
    | body choice =>
      refine carries.body step fun {phase _} contexts here there => ?_
      have apart := (retryInv_of_run retries reached earlier).of_running here
      have logged : x.call (.body choice) = phase.call choice := by
        unfold Supervised.call
        rw [here]
      rw [logged]
      exact contexts.of_moved (.of_bodyStep apart.kind apart.allowed here step there)
    | _ =>
      rw [show x.call _ = none from rfl, Option.toList_none, List.append_nil]
      exact carries.notBody Contexts.ofChildren Contexts.ofSpawn step (by simp)

/-- **Attempts do not overlap.**  In every run that lets no future go: when the factory of an
attempt is called, and when `run_retry` returns, no future of an attempt is left, and the
children admitted under the attempts before it are terminal; and a context whose attempt is
not the one that is open spawns nothing, unless it is kept from an earlier tick and the
attempt that is open has its number. -/
theorem attempts_do_not_overlap (retries : kind.retries = true)
    (run : (supervision T E kind abortPolicy maximumChildren).exec
      (supervision T E kind abortPolicy maximumChildren).init actions = some state)
    (representable : .body .detach ∉ actions) :
    (∀ number outer, state.body = .running (.begun (.attempt number outer)) →
      state.jobs = ∅ ∧ ∀ attempt child, 1 ≤ attempt → attempt < number →
        Admitted kind abortPolicy maximumChildren actions attempt child → child ∉ state.live) ∧
    (∀ phase choice after, state.body = .running phase → phase.inRetry = true →
      state.step (.body choice) = some after → after.body.inRetry = false →
      after.jobs = ∅ ∧ ∀ attempt child, 1 ≤ attempt → attempt ≤ phase.called →
        Admitted kind abortPolicy maximumChildren actions attempt child → child ∉ after.live) ∧
    (∀ phase before number after available, state.body = .running phase →
      retryCalls kind abortPolicy maximumChildren actions = before ++ .attempt number :: after →
      ¬ (.tick ∉ after ∧ phase.openAttempt = some number) →
      (state.spawnChild number available = .error .parentClosing ↔
        ¬ (.tick ∈ after ∧ state.children.openAttempt = some number))) := by
  refine ⟨fun number outer here => factory_called_alone retries run representable here,
    fun phase choice after here retrying step left =>
      retry_returns_alone retries run representable here retrying step left, ?_⟩
  intro phase before number after available here called other
  have contexts := (contexts_of_run retries run representable).of_running here
  have refused : state.spawnChild number available = .error .parentClosing ↔
      state.children.openAttempt ≠ some number := by
    rw [← ChildSet.spawnChild_parentClosing_iff contexts.admits, Supervised.spawnChild]
    cases state.children.spawnChild state.maximumChildren number available state.nextChild with
    | ok children => simp
    | error error => simp
  rw [refused]
  constructor
  · exact fun apart kept => apart kept.2
  · intro fresh opened
    have now : .tick ∉ after := fun kept => fresh ⟨kept, opened⟩
    exact other ⟨now, contexts.own number ⟨before, after, called, now⟩ opened⟩

end Retry

/-- Up to the second factory of a retry: the first attempt has a child, and ends before it. -/
def secondAttempt : List (SupervisedAction Nat Nat) :=
  [.runner .proceed, .runner .proceed, .runner .proceed, .body .proceed, .body .proceed,
    .body .proceed, .spawnChild 1 true, .jobEnds 0, .body .proceed, .body .proceed, .childEnds 0,
    .body .proceed, .body .proceed, .body .sleep, .body .proceed, .body .proceed]

theorem attempts_do_not_overlap_second :
    ∃ state, (supervision Nat Nat (.retry 2) .cooperativeOnly 4).exec
        (supervision Nat Nat (.retry 2) .cooperativeOnly 4).init secondAttempt = some state ∧
      state.jobs = ∅ ∧
      (∀ child, Admitted (.retry 2) .cooperativeOnly 4 secondAttempt 1 child →
        child ∉ state.live) ∧
      state.spawnChild 1 true = .error .parentClosing := by
  have reached : ((supervision Nat Nat (.retry 2) .cooperativeOnly 4).exec
      (supervision Nat Nat (.retry 2) .cooperativeOnly 4).init secondAttempt).map
        Supervised.body = some (.running (.begun (.attempt 2 none))) := by rfl
  obtain ⟨state, run, here⟩ := Option.map_eq_some_iff.1 reached
  obtain ⟨factory, -, spawn⟩ := attempts_do_not_overlap rfl run (by simp [secondAttempt])
  obtain ⟨none_left, terminal⟩ := factory 2 none here
  have called : retryCalls (.retry 2) .cooperativeOnly 4 secondAttempt =
      [] ++ .attempt 1 :: [] := by rfl
  refine ⟨state, run, none_left, fun child => terminal 1 child le_rfl (by decide), ?_⟩
  exact (spawn _ [] 1 [] true here called (by simp [Phase.openAttempt])).2 (by simp)

/-- Up to the first attempt of the second tick of a recurring retry. -/
def secondTick : List (SupervisedAction Nat Nat) :=
  [.runner .proceed, .runner .proceed, .runner .proceed, .body .proceed, .body .proceed,
    .body .proceed, .body .proceed, .body .proceed, .body .proceed, .jobEnds 0, .body .proceed,
    .body .proceed, .body .proceed, .body (.exit ⟨.completed 7, rfl⟩), .body .proceed,
    .body .proceed, .body .sleep, .body .proceed, .body .proceed, .body .proceed, .body .proceed,
    .body .proceed]

/-- The context of the first tick's attempt 1, kept until attempt 1 of the second tick is open,
spawns a child. -/
theorem kept_context_spawns :
    ¬ ∀ (kind : Kind) (abortPolicy : AbortPolicy) (maximumChildren : Nat)
      (actions : List (SupervisedAction Nat Nat)) (state : Supervised Nat Nat),
      kind.retries = true → (supervision Nat Nat kind abortPolicy maximumChildren).exec
        (supervision Nat Nat kind abortPolicy maximumChildren).init actions = some state →
      .body .detach ∉ actions → ∀ phase before number after available,
        state.body = .running phase →
        retryCalls kind abortPolicy maximumChildren actions = before ++ .attempt number :: after →
        ¬ (.tick ∉ after ∧ phase.openAttempt = some number) →
        state.spawnChild number available = .error .parentClosing := by
  intro closed
  have reached : ((supervision Nat Nat (.recurring (.retry 1)) .cooperativeOnly 4).exec
      (supervision Nat Nat (.recurring (.retry 1)) .cooperativeOnly 4).init secondTick).map
        (fun state => (state.body, (state.spawnChild 1 true).isOk)) =
      some (.running (.driving (.attempt 1 (some 2)) 1), true) := by rfl
  obtain ⟨state, run, here⟩ := Option.map_eq_some_iff.1 reached
  obtain ⟨body, accepted⟩ := Prod.mk.inj here
  have called : retryCalls (.recurring (.retry 1)) .cooperativeOnly 4 secondTick =
      [.tick] ++ .attempt 1 :: [.tick, .attempt 1] := by rfl
  have refused := closed _ _ _ _ state rfl run (by simp [secondTick]) _ _ _ _ true body called
    (by simp)
  rw [refused] at accepted
  cases accepted

end BusyBeaver
