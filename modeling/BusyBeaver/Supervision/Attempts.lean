import BusyBeaver.Lib.History
import BusyBeaver.Supervision.Moves

/-!
# Attempts one after the other

`run_retry` as the body of an execution, alone or inside a recurring tick.  Between two
attempts no future of an attempt is left and no child admitted under one that was closed
is live.  An attempt is known here by its number, as it is to `spawn_child`.

The run is free of `.detach`, the branch where the end of `attempt_timeout` is no instant and
the future is let go.
-/

namespace BusyBeaver

open Transition

/-! ## The phases of `run_retry` -/

/-- The execution runs `run_retry`. -/
def Kind.retries : Kind → Bool
  | .retry _ | .recurring (.retry _) => true
  | _ => false

/-- The iteration is one of `run_retry` or of the ticks around it. -/
def Iteration.ofRetry : Iteration → Bool
  | .attempt _ _ | .tick _ => true
  | .generation _ _ => false

def Iteration.inRetry : Iteration → Bool
  | .attempt _ _ => true
  | _ => false

namespace Phase

/-- The phases an execution that runs `run_retry` goes through. -/
def ofRetry : Phase → Bool
  | .spawned | .delaying => true
  | .entering turn | .begun turn | .leaving turn | .closing turn _ | .decided turn
  | .sleeping turn => turn.ofRetry
  | .driving turn _ | .reaping turn _ => turn.inRetry
  | _ => false

/-- The body is inside `run_retry`. -/
def inRetry : Phase → Bool
  | .entering turn | .begun turn | .driving turn _ | .reaping turn _ | .leaving turn
  | .closing turn _ | .decided turn | .sleeping turn => turn.inRetry
  | _ => false

/-- How many factories the `run_retry` that is under way has called. -/
def called : Phase → Nat
  | .entering (.attempt number _) | .begun (.attempt number _) => number - 1
  | .driving (.attempt number _) _ | .reaping (.attempt number _) _
  | .leaving (.attempt number _) | .closing (.attempt number _) _
  | .decided (.attempt number _) | .sleeping (.attempt number _) => number
  | _ => 0

/-- The attempt that is open: from its `begin_attempt` to its closer. -/
def openAttempt : Phase → Option Nat
  | .begun (.attempt number _) | .driving (.attempt number _) _
  | .reaping (.attempt number _) _ | .leaving (.attempt number _) => some number
  | _ => none

/-- How many attempts have been closed. -/
def closed (phase : Phase) : Nat :=
  match phase.openAttempt with
  | some number => number - 1
  | none => phase.called

/-- The task of the attempt's future. -/
def ownJobs : Phase → Finset Nat
  | .driving _ job | .reaping _ job => {job}
  | _ => ∅

end Phase

def BodyTask.inRetry {T E : Type} : BodyTask T E → Bool
  | .running phase => phase.inRetry
  | _ => false

variable {T E : Type}

namespace Supervised

variable {state after : Supervised T E}

/-- The step is a `spawn_child` on a context of this attempt, and admits this child. -/
def Admits (attempt child : Nat) (state : Supervised T E) : SupervisedAction T E → Prop
  | .spawnChild number available =>
    number = attempt ∧ child = state.nextChild ∧ state.context = true ∧
      ∃ after, state.spawnChild number available = .ok after
  | _ => False

/-! ## The invariant -/

/-- What holds in a phase; `admitted` relates an attempt and a child it has admitted. -/
structure Apart (admitted : Nat → Nat → Prop) (state : Supervised T E) (phase : Phase) :
    Prop where
  kind : state.kind.retries = true
  allowed : phase.ofRetry = true
  jobs : state.jobs ⊆ phase.ownJobs
  current : ∀ number, phase.openAttempt = some number → state.children.currentAttempt = number
  shut : phase.openAttempt = none → 0 < phase.called →
    state.children.attemptAdmissionOpen = false
  behind : ∀ entry ∈ state.children.controls, entry.attempt = 0 ∨ phase.closed < entry.attempt
  held : ∀ attempt child, admitted attempt child → child ∈ state.live →
    ⟨attempt, child⟩ ∈ state.children.controls ∨ child ∈ phase.pending
  fresh : ∀ attempt child, admitted attempt child → child < state.nextChild

namespace Apart

variable {admitted : Nat → Nat → Prop} {phase phase' : Phase} {turn : Iteration}
  {choice : Choice T E} {job : Nat} (apart : Apart admitted state phase)
include apart

/-- No job is left in a phase without one. -/
theorem jobs_eq (none_own : phase.ownJobs = ∅) : state.jobs = ∅ :=
  Finset.subset_empty.1 (none_own ▸ apart.jobs)

/-- The children admitted under an attempt that is closed are in the closer's hands. -/
theorem not_live {attempt child : Nat} (admits : admitted attempt child) (positive : 1 ≤ attempt)
    (before : attempt ≤ phase.closed) (free : phase.pending = []) : child ∉ state.live := by
  intro live
  rcases apart.held attempt child admits live with tracked | pending
  · rcases apart.behind _ tracked with zero | later
    · exact absurd zero (Nat.pos_iff_ne_zero.1 positive)
    · exact absurd later (Nat.not_lt.2 before)
  · rw [free] at pending
    cases pending

/-- A move that leaves the children alone, between phases with the same attempts. -/
theorem move (kind : after.kind = state.kind) (children : after.children = state.children)
    (live : after.live = state.live) (next : after.nextChild = state.nextChild)
    (allowed : phase'.ofRetry = true) (jobs : after.jobs ⊆ phase'.ownJobs)
    (current : ∀ number, phase'.openAttempt = some number → phase.openAttempt = some number)
    (shut : phase'.openAttempt = none → 0 < phase'.called →
      phase.openAttempt = none ∧ 0 < phase.called)
    (closed : phase'.closed ≤ phase.closed) (free : phase.pending = phase'.pending) :
    Apart admitted after phase' where
  kind := by rw [kind]; exact apart.kind
  allowed := allowed
  jobs := jobs
  current := by
    intro number here
    rw [children]
    exact apart.current number (current number here)
  shut := by
    intro here some_
    obtain ⟨before, called⟩ := shut here some_
    rw [children]
    exact apart.shut before called
  behind := by
    intro entry member
    rw [children] at member
    exact (apart.behind entry member).imp_right closed.trans_lt
  held := by
    rw [children, live, ← free]
    exact apart.held
  fresh := by
    rw [next]
    exact apart.fresh

/-- A move to a phase outside every attempt. -/
theorem outside (kind : after.kind = state.kind) (children : after.children = state.children)
    (live : after.live = state.live) (next : after.nextChild = state.nextChild)
    (allowed : phase'.ofRetry = true) (jobs : after.jobs = ∅) (closed : phase'.openAttempt = none)
    (uncalled : phase'.called = 0) (free : phase.pending = phase'.pending) :
    Apart admitted after phase' := by
  have none_closed : phase'.closed = 0 := by rw [Phase.closed, closed, uncalled]
  refine apart.move kind children live next allowed (by rw [jobs]; exact Finset.empty_subset _)
    ?_ ?_ (none_closed ▸ Nat.zero_le _) free
  · intro number here
    rw [closed] at here
    cases here
  · intro _ called
    rw [uncalled] at called
    exact absurd called (lt_irrefl 0)

end Apart

/-! ## A step of the body -/

/-- What a step of the body does: it keeps the invariant, and where it leaves `run_retry` all
attempts that were called are closed. -/
structure Turned (admitted : Nat → Nat → Prop) (state : Supervised T E) (phase : Phase)
    (after : Supervised T E) : Prop where
  stays : ∀ phase', after.body = .running phase' → Apart admitted after phase'
  returns : phase.inRetry = true → after.body.inRetry = false →
    after.jobs = ∅ ∧ after.live = state.live ∧ phase.called ≤ phase.closed ∧ phase.pending = []

namespace Turned

variable {admitted : Nat → Nat → Prop} {phase phase' : Phase} {turn : Iteration}
  {choice : Choice T E} {job : Nat}

theorem running (here : after.body = .running phase') (apart : Apart admitted after phase')
    (inside : phase.inRetry = true → phase'.inRetry = true) :
    Turned admitted state phase after where
  stays := by
    intro other there
    obtain rfl := BodyTask.running.inj (here.symm.trans there)
    exact apart
  returns := by
    intro retrying left
    rw [here] at left
    exact absurd (inside retrying) (Bool.eq_false_iff.1 left)

/-- The body task returns, or the operation of a tick does. -/
theorem finish (apart : Apart admitted state phase) (between : Supervised T E)
    (kind : between.kind = state.kind) (children : between.children = state.children)
    (live : between.live = state.live) (next : between.nextChild = state.nextChild)
    (jobs : between.jobs = state.jobs) (own : phase.ownJobs = ∅) (free : phase.pending = [])
    (closed : phase.called ≤ phase.closed) (exit : Returned T E) :
    Turned admitted state phase (between.finish turn exit) := by
  have none_left : between.jobs = ∅ := jobs.trans (apart.jobs_eq own)
  unfold Supervised.finish
  split
  · constructor
    · intro other here
      obtain rfl := BodyTask.running.inj here
      exact apart.outside kind children live next rfl none_left rfl rfl free
    · exact fun _ _ => ⟨none_left, live, closed, free⟩
  · constructor
    · intro other here
      cases here
    · exact fun _ _ => ⟨none_left, live, closed, free⟩

end Turned

namespace Apart

variable {admitted : Nat → Nat → Prop} {phase phase' : Phase} {turn : Iteration}
  {choice : Choice T E} {job : Nat}

theorem of_enter (apart : Apart admitted state (.entering turn))
    (step : state.enter turn choice = some after) :
    Turned admitted state (.entering turn) after := by
  have none_left := apart.jobs_eq rfl
  have begins : Apart admitted { state with
      children := state.children.beginAttempt turn.contextAttempt
      body := .running (.begun turn) } (.begun turn) := by
    refine ⟨apart.kind, apart.allowed, none_left.le, ?_, ?_, ?_, apart.held, apart.fresh⟩
    · intro number here
      cases turn with
      | attempt other outer => exact Option.some.inj here
      | _ => cases here
    · intro here called
      cases turn with
      | attempt number outer => cases here
      | _ => exact absurd called (lt_irrefl 0)
    · intro entry member
      cases turn <;> exact apart.behind entry member
  have moved : Turned admitted state (.entering turn) { state with
      children := state.children.beginAttempt turn.contextAttempt
      body := .running (.begun turn) } := .running rfl begins id
  cases choice with
  | proceed =>
    cases turn with
    | attempt number outer =>
      simp only [enter] at step
      split at step
      · exact Option.some.inj step ▸ moved
      · cases step
    | tick number => exact Option.some.inj step ▸ moved
    | generation number stopping => cases apart.allowed
  | exit exit =>
    cases turn with
    | attempt number outer =>
      simp only [enter] at step
      split at step
      · exact Option.some.inj step ▸ .finish apart state rfl rfl rfl rfl rfl rfl rfl le_rfl exit
      · cases step
    | tick number =>
      exact Option.some.inj step ▸ .finish apart state rfl rfl rfl rfl rfl rfl rfl le_rfl exit
    | generation number stopping => cases step
  | _ => cases step

theorem of_launch (apart : Apart admitted state (.begun turn))
    (step : state.launch turn choice = some after) (representable : choice ≠ .detach) :
    Turned admitted state (.begun turn) after := by
  have none_left := apart.jobs_eq rfl
  cases turn with
  | attempt number outer =>
    cases choice with
    | deadline lastError =>
      obtain rfl := Option.some.inj step
      exact .finish apart state.markDeadline rfl rfl rfl rfl rfl rfl rfl le_rfl _
    | exit exit =>
      exact Option.some.inj step ▸ .finish apart state rfl rfl rfl rfl rfl rfl rfl le_rfl exit
    | panic message =>
      exact Option.some.inj step ▸ .running rfl (apart.move rfl rfl rfl rfl rfl none_left.le
        (fun _ => id) (fun absurd => by cases absurd) le_rfl rfl) id
    | proceed =>
      refine Option.some.inj step ▸ .running rfl (apart.move rfl rfl rfl rfl rfl ?_
        (fun _ => id) (fun absurd => by cases absurd) le_rfl rfl) id
      change insert state.nextJob state.jobs ⊆ {state.nextJob}
      rw [none_left]
      exact Finset.Subset.refl _
    | detach => exact absurd rfl representable
    | _ => cases step
  | tick number =>
    simp only [launch] at step
    split at step
    · exact Option.some.inj step ▸ .running rfl
        (apart.outside rfl rfl rfl rfl rfl none_left rfl rfl rfl) (fun absurd => by cases absurd)
    · exact Option.some.inj step ▸ .running rfl
        (apart.outside rfl rfl rfl rfl rfl none_left rfl rfl rfl) (fun absurd => by cases absurd)
    · rename_i here
      have kind := apart.kind
      rw [here] at kind
      cases kind
    · rename_i here
      have kind := apart.kind
      rw [here] at kind
      cases kind
    · cases step
  | generation number stopping => cases apart.allowed

theorem of_drive (apart : Apart admitted state (.driving turn job))
    (step : state.drive turn job choice = some after) :
    Turned admitted state (.driving turn job) after := by
  cases turn with
  | attempt number outer =>
    cases choice with
    | proceed =>
      simp only [drive] at step
      split at step
      · cases step
      · rename_i gone
        refine Option.some.inj step ▸ .running rfl (apart.move rfl rfl rfl rfl rfl ?_
          (fun _ => id) (fun absurd => by cases absurd) le_rfl rfl) id
        exact (Finset.subset_singleton_iff.1 apart.jobs).elim Eq.le fun same =>
          absurd (same ▸ Finset.mem_singleton_self job) gone
    | deadline lastError =>
      exact Option.some.inj step ▸ .running rfl (apart.move rfl rfl rfl rfl rfl apart.jobs
        (fun _ => id) (fun absurd => by cases absurd) le_rfl rfl) id
    | expire =>
      exact Option.some.inj step ▸ .running rfl (apart.move rfl rfl rfl rfl rfl apart.jobs
        (fun _ => id) (fun absurd => by cases absurd) le_rfl rfl) id
    | _ => cases step
  | _ => cases apart.allowed

theorem of_reap (apart : Apart admitted state (.reaping turn job))
    (step : state.reap turn job choice = some after) :
    Turned admitted state (.reaping turn job) after := by
  cases turn with
  | attempt number outer =>
    cases choice with
    | proceed =>
      simp only [reap] at step
      split at step
      · cases step
      · rename_i gone
        refine Option.some.inj step ▸ .running rfl (apart.move rfl rfl rfl rfl rfl ?_
          (fun _ => id) (fun absurd => by cases absurd) le_rfl rfl) id
        exact (Finset.subset_singleton_iff.1 apart.jobs).elim Eq.le fun same =>
          absurd (same ▸ Finset.mem_singleton_self job) gone
    | _ => cases step
  | _ => cases apart.allowed

/-- The closer takes what its attempt has admitted, and nothing more is admitted. -/
theorem of_closeAttempt (apart : Apart admitted state (.leaving turn)) :
    Turned admitted state (.leaving turn) (state.closeAttempt turn) := by
  refine .running rfl ?_ id
  refine ⟨apart.kind, apart.allowed, (apart.jobs_eq rfl).le, ?_, ?_, ?_, ?_, apart.fresh⟩
  · intro _ absurd
    cases absurd
  · intro _ called
    cases turn with
    | attempt number outer => exact if_pos (apart.current number rfl)
    | _ => exact absurd called (lt_irrefl 0)
  · intro entry member
    obtain ⟨tracked, other⟩ := List.mem_filter.1 member
    have apart_from : entry.attempt ≠ turn.contextAttempt := of_decide_eq_true other
    rcases apart.behind entry tracked with zero | later
    · exact Or.inl zero
    · refine Or.inr ?_
      cases turn with
      | attempt number outer =>
        have here : number - 1 < entry.attempt := later
        have different : entry.attempt ≠ number := apart_from
        change number < entry.attempt
        omega
      | _ => exact later
  · intro attempt child admits live
    rcases apart.held attempt child admits live with tracked | pending
    · by_cases own : attempt = turn.contextAttempt
      · exact Or.inr (List.mem_map.2 ⟨_, List.mem_filter.2 ⟨tracked, decide_eq_true own⟩, rfl⟩)
      · exact Or.inl (List.mem_filter.2 ⟨tracked, decide_eq_true own⟩)
    · cases pending

/-- A child leaves the closer's hands when it is terminal. -/
theorem of_awaitChildren {pending : List Nat} (apart : Apart admitted state (.closing turn pending))
    (step : state.awaitChildren turn pending choice = some after) :
    Turned admitted state (.closing turn pending) after := by
  have none_left := apart.jobs_eq rfl
  cases choice with
  | proceed =>
    cases pending with
    | nil =>
      refine Option.some.inj step ▸ .running rfl (apart.move rfl rfl rfl rfl apart.allowed
        none_left.le (fun _ absurd => by cases absurd) ?_ ?_ rfl) id
      · cases turn <;> exact fun _ called => ⟨rfl, called⟩
      · cases turn <;> exact le_rfl
    | cons first rest =>
      simp only [awaitChildren] at step
      split at step
      · cases step
      · rename_i terminal
        refine Option.some.inj step ▸ .running rfl ?_ id
        refine ⟨apart.kind, apart.allowed, none_left.le, ?_, ?_, ?_, ?_, apart.fresh⟩
        · intro _ absurd
          cases absurd
        · cases turn <;> exact fun _ called => apart.shut rfl called
        · cases turn <;> exact apart.behind
        · intro attempt child admits live
          refine (apart.held attempt child admits live).imp_right fun mine => ?_
          rcases List.mem_cons.1 mine with rfl | later
          · exact absurd live terminal
          · exact later
  | _ => cases pending <;> cases step

theorem of_decide (apart : Apart admitted state (.decided turn))
    (step : state.decide turn choice = some after) :
    Turned admitted state (.decided turn) after := by
  have closed : (Phase.decided turn).called ≤ (Phase.decided turn).closed := le_rfl
  cases choice with
  | exit exit =>
    exact Option.some.inj step ▸ .finish apart state rfl rfl rfl rfl rfl rfl rfl closed exit
  | deadline lastError =>
    cases turn with
    | attempt number outer =>
      obtain rfl := Option.some.inj step
      exact .finish apart state.markDeadline rfl rfl rfl rfl rfl rfl rfl closed _
    | _ => cases step
  | sleep =>
    simp only [Supervised.decide] at step
    split at step
    · cases step
    · refine Option.some.inj step ▸ .running rfl (apart.move rfl rfl rfl rfl apart.allowed
        (apart.jobs_eq rfl).le (fun _ absurd => by cases absurd) ?_ ?_ rfl) id
      · cases turn <;> exact fun _ called => ⟨rfl, called⟩
      · cases turn <;> exact le_rfl
  | _ => cases step

theorem of_wake (apart : Apart admitted state (.sleeping turn))
    (step : state.wake turn choice = some after) :
    Turned admitted state (.sleeping turn) after := by
  have none_left := apart.jobs_eq rfl
  cases choice with
  | exit exit =>
    exact Option.some.inj step ▸ .finish apart state rfl rfl rfl rfl rfl rfl rfl le_rfl exit
  | proceed =>
    obtain ⟨following, next, rfl⟩ := Option.map_eq_some_iff.1 step
    cases turn with
    | attempt number outer =>
      obtain rfl := Option.some.inj next
      exact .running rfl (apart.move rfl rfl rfl rfl rfl none_left.le
        (fun _ absurd => by cases absurd) (fun _ called => ⟨rfl, called⟩) le_rfl rfl) id
    | tick number =>
      obtain ⟨number, -, rfl⟩ := Option.map_eq_some_iff.1 next
      exact .running rfl (apart.outside rfl rfl rfl rfl rfl none_left rfl rfl rfl) id
    | generation number stopping => cases apart.allowed
  | sleep =>
    cases turn with
    | tick number =>
      exact Option.some.inj step ▸ .running rfl
        (apart.outside rfl rfl rfl rfl rfl none_left rfl rfl rfl) id
    | _ => cases step
  | restart =>
    cases turn with
    | tick number =>
      exact Option.some.inj step ▸ .running rfl
        (apart.outside rfl rfl rfl rfl rfl none_left rfl rfl rfl) id
    | _ => cases step
  | _ => cases step

theorem of_start (apart : Apart admitted state .spawned) :
    Turned admitted state .spawned state.start := by
  have none_left := apart.jobs_eq rfl
  unfold start
  cases here : state.kind with
  | retry maxAttempts =>
    exact .running rfl (apart.outside rfl rfl rfl rfl rfl none_left rfl rfl rfl)
      (fun absurd => by cases absurd)
  | recurring operation =>
    exact .running rfl (apart.outside rfl rfl rfl rfl rfl none_left rfl rfl rfl) id
  | _ =>
    have kind := apart.kind
    rw [here] at kind
    cases kind

/-- **Step lemma** of the body. -/
theorem of_bodyStep (apart : Apart admitted state phase) (here : state.body = .running phase)
    (step : state.bodyStep choice = some after) (representable : choice ≠ .detach) :
    Turned admitted state phase after := by
  have none_left : phase = .delaying → state.jobs = ∅ := fun same =>
    apart.jobs_eq (by rw [same]; rfl)
  unfold bodyStep at step
  rw [here] at step
  cases phase with
  | spawned => exact Option.some.inj step ▸ of_start apart
  | delaying =>
    cases choice with
    | proceed =>
      exact Option.some.inj step ▸ .running rfl
        (apart.outside rfl rfl rfl rfl rfl (none_left rfl) rfl rfl rfl) id
    | exit exit =>
      obtain rfl := Option.some.inj step
      constructor
      · intro _ absurd
        cases absurd
      · intro absurd
        cases absurd
    | _ => cases step
  | entering turn => exact of_enter apart step
  | begun turn => exact of_launch apart step representable
  | driving turn job => exact of_drive apart step
  | reaping turn job => exact of_reap apart step
  | leaving turn => exact Option.some.inj step ▸ of_closeAttempt apart
  | closing turn pending => exact of_awaitChildren apart step
  | decided turn => exact of_decide apart step
  | sleeping turn => exact of_wake apart step
  | _ => cases apart.allowed

/-- Steps that leave the children and the place of the body alone. -/
theorem still (apart : Apart admitted state phase) (kind : after.kind = state.kind)
    (children : after.children = state.children) (live : after.live ⊆ state.live)
    (next : after.nextChild = state.nextChild) (jobs : after.jobs ⊆ state.jobs) :
    Apart admitted after phase where
  kind := by rw [kind]; exact apart.kind
  allowed := apart.allowed
  jobs := jobs.trans apart.jobs
  current := by rw [children]; exact apart.current
  shut := by rw [children]; exact apart.shut
  behind := by rw [children]; exact apart.behind
  held := by
    intro attempt child admits there
    rw [children]
    exact apart.held attempt child admits (live there)
  fresh := by rw [next]; exact apart.fresh

/-- A child is admitted under the attempt that is open. -/
theorem spawnChild (apart : Apart admitted state phase) {attempt : Nat} {available : Bool}
    (spawned : state.spawnChild attempt available = .ok after) :
    Apart (fun number child => admitted number child ∨ number = attempt ∧ child = state.nextChild)
      after phase := by
  unfold Supervised.spawnChild at spawned
  split at spawned
  · rename_i children tracked
    obtain ⟨open_, here⟩ := ChildSet.attempt_of_spawnChild tracked
    obtain ⟨-, rfl⟩ := ChildSet.of_spawnChild tracked
    obtain rfl := Except.ok.inj spawned
    refine ⟨apart.kind, apart.allowed, apart.jobs, apart.current, apart.shut, ?_, ?_, ?_⟩
    · intro entry member
      rcases List.mem_append.1 member with before | new
      · exact apart.behind entry before
      · obtain rfl := List.mem_singleton.1 new
        change attempt = 0 ∨ phase.closed < attempt
        unfold Phase.closed
        cases within : phase.openAttempt with
        | some number =>
          have same := (apart.current number within).symm.trans here
          change attempt = 0 ∨ number - 1 < attempt
          omega
        | none =>
          have uncalled : phase.called = 0 := by
            by_contra some_called
            have shut := apart.shut within (Nat.pos_of_ne_zero some_called)
            rw [open_] at shut
            cases shut
          change attempt = 0 ∨ phase.called < attempt
          omega
    · rintro number child (before | ⟨rfl, rfl⟩) live
      · rcases Finset.mem_insert.1 live with rfl | live
        · exact absurd (apart.fresh number _ before) (lt_irrefl _)
        · exact (apart.held number child before live).imp_left (List.mem_append_left _)
      · exact Or.inl (List.mem_append_right _ List.mem_cons_self)
    · rintro number child (before | ⟨-, rfl⟩)
      · exact (apart.fresh number child before).trans (Nat.lt_succ_self _)
      · exact Nat.lt_succ_self _
  · cases spawned

end Apart

/-! ## Runs -/

/-- Where the body stands, from before its first poll until its runner has heard of its end. -/
def place (state : Supervised T E) : Option Phase :=
  match state.runner, state.body with
  | .waiting, _ | .claimed, _ => some .spawned
  | .installing, .running phase | .joining, .running phase | .dropping, .running phase =>
    some phase
  | _, _ => none

/-- The runner awaits the body. -/
def Awaits (state : Supervised T E) : Prop :=
  state.runner = .installing ∨ state.runner = .joining ∨ state.runner = .dropping

theorem place_of_awaits (awaits : state.Awaits) {phase : Phase} :
    state.place = some phase ↔ state.body = .running phase := by
  unfold place
  rcases awaits with here | here | here
  all_goals
    rw [here]
    cases state.body with
    | running other => simp
    | absent => simp
    | ended joined => simp

theorem place_eq_none (away : ¬ state.Awaits) (waiting : state.runner ≠ .waiting)
    (claimed : state.runner ≠ .claimed) : state.place = none := by
  unfold place
  split
  · exact absurd ‹_› waiting
  · exact absurd ‹_› claimed
  · exact absurd (Or.inl ‹_›) away
  · exact absurd (Or.inr (Or.inl ‹_›)) away
  · exact absurd (Or.inr (Or.inr ‹_›)) away
  · rfl

/-- A body that runs is awaited, and the invariant holds where it stands. -/
structure RetryInv (admitted : Nat → Nat → Prop) (state : Supervised T E) : Prop where
  awaited : state.body.isRunning = true → state.Awaits
  apart : ∀ phase, state.place = some phase → Apart admitted state phase

namespace RetryInv

variable {admitted : Nat → Nat → Prop} {phase : Phase}

theorem of_running (inv : RetryInv admitted state) (here : state.body = .running phase) :
    Apart admitted state phase :=
  inv.apart phase ((place_of_awaits (inv.awaited (by rw [here]; rfl))).2 here)

/-- The body has ended, or was never begun, and the runner is past it. -/
theorem past (unbegun : after.body.isRunning = false) (away : ¬ after.Awaits)
    (waiting : after.runner ≠ .waiting) (claimed : after.runner ≠ .claimed) :
    RetryInv admitted after where
  awaited := fun running => by
    rw [unbegun] at running
    cases running
  apart := fun phase here => by
    rw [place_eq_none away waiting claimed] at here
    cases here

theorem runner (inv : RetryInv admitted state) (moved : RunnerMoved state after) :
    RetryInv admitted after := by
  have unbegun : ¬ state.Awaits → state.body.isRunning = false := fun away =>
    Bool.eq_false_iff.2 fun running => away (inv.awaited running)
  have ended : ∀ {result : Joined T E}, state.body = .ended result →
      state.body.isRunning = false := fun same => by rw [same]; rfl
  cases moved with
  | claim here claimed =>
    have idle := unbegun (by simp [Awaits, here])
    constructor
    · intro running
      exact absurd running (Bool.eq_false_iff.1 idle)
    · intro phase same
      obtain rfl := Option.some.inj same
      have apart := inv.apart .spawned (by rw [place, here])
      exact apart.still rfl rfl (Finset.Subset.refl _) rfl (Finset.Subset.refl _)
  | refuse here =>
    exact past (unbegun (by simp [Awaits, here])) (by simp [Awaits]) (by simp) (by simp)
  | retire here =>
    obtain ⟨core, commit⟩ := state.commit_eq (.executorStopped .runnerCancelled)
    rw [commit]
    refine past (unbegun ?_) (by simp [Awaits]) (by simp) (by simp)
    rcases here with here | here <;> simp [Awaits, here]
  | unwound message here =>
    exact past (unbegun (by simp [Awaits, here])) (by simp [Awaits]) (by simp) (by simp)
  | spawn here =>
    constructor
    · exact fun _ => Or.inl rfl
    · intro phase same
      obtain rfl := Option.some.inj same
      have apart := inv.apart .spawned (by rw [place, here])
      exact apart.still rfl rfl (Finset.Subset.refl _) rfl (Finset.Subset.refl _)
  | install here =>
    constructor
    · exact fun _ => Or.inr (Or.inl rfl)
    · intro phase same
      have running := (place_of_awaits (Or.inr (Or.inl rfl))).1 same
      exact (inv.of_running running).still rfl rfl (Finset.Subset.refl _) rfl
        (Finset.Subset.refl _)
  | drop here =>
    constructor
    · exact fun _ => Or.inr (Or.inr rfl)
    · intro phase same
      have running := (place_of_awaits (Or.inr (Or.inr rfl))).1 same
      exact (inv.of_running running).still rfl rfl (Finset.Subset.refl _) rfl
        (Finset.Subset.refl _)
  | hear here done_ => exact past (ended done_) (by simp [Awaits]) (by simp) (by simp)
  | dropped here done_ => exact past (ended done_) (by simp [Awaits]) (by simp) (by simp)
  | clear here =>
    exact past (unbegun (by simp [Awaits, here])) (by simp [Awaits]) (by simp) (by simp)
  | propose here =>
    exact past (unbegun (by simp [Awaits, here])) (by simp [Awaits]) (by simp) (by simp)
  | close here =>
    exact past (unbegun (by simp [Awaits, here])) (by simp [Awaits]) (by simp) (by simp)
  | await here terminal =>
    exact past (unbegun (by simp [Awaits, here])) (by simp [Awaits]) (by simp) (by simp)
  | finish here =>
    obtain ⟨core, commit⟩ := state.commit_eq _
    rw [commit]
    exact past (unbegun (by simp [Awaits, here])) (by simp [Awaits]) (by simp) (by simp)

/-- Steps of the environment that admit no child. -/
theorem still (inv : RetryInv admitted state) (step : Still state after) :
    RetryInv admitted after := by
  have place : after.place = state.place := by
    unfold Supervised.place
    rw [step.runner, step.body]
  constructor
  · intro running
    rw [step.body] at running
    simpa only [Awaits, step.runner] using inv.awaited running
  · intro phase here
    rw [place] at here
    exact (inv.apart phase here).still step.kind step.children step.live.le step.nextChild
      step.jobs

/-- The body is dropped. -/
theorem dropBody (inv : RetryInv admitted state) (here : state.body = .running phase)
    (joined : Joined T E) : RetryInv admitted (state.dropBody phase joined) := by
  have awaits : (state.dropBody phase joined).Awaits := inv.awaited (by rw [here]; rfl)
  constructor
  · exact fun _ => awaits
  · intro other same
    cases (place_of_awaits awaits).1 same

theorem body (inv : RetryInv admitted state) {choice : Choice T E}
    (step : state.bodyStep choice = some after) (representable : choice ≠ .detach) :
    RetryInv admitted after := by
  have moved := BodyMoved.of_bodyStep step
  have awaits : after.Awaits := by
    simpa only [Awaits, moved.runner] using inv.awaited moved.running
  constructor
  · exact fun _ => awaits
  · intro other same
    cases here : state.body with
    | running phase =>
      exact ((inv.of_running here).of_bodyStep here step representable).stays other
        ((place_of_awaits awaits).1 same)
    | absent =>
      have running := moved.running
      rw [here] at running
      cases running
    | ended joined =>
      have running := moved.running
      rw [here] at running
      cases running

theorem spawnChild (inv : RetryInv admitted state) {attempt : Nat} {available : Bool}
    (spawned : state.spawnChild attempt available = .ok after) :
    RetryInv (fun number child => admitted number child ∨
      number = attempt ∧ child = state.nextChild) after := by
  have same : after.runner = state.runner ∧ after.body = state.body := by
    unfold Supervised.spawnChild at spawned
    split at spawned
    · obtain rfl := Except.ok.inj spawned
      exact ⟨rfl, rfl⟩
    · cases spawned
  have place : after.place = state.place := by
    unfold Supervised.place
    rw [same.1, same.2]
  constructor
  · intro running
    rw [same.2] at running
    simpa only [Awaits, same.1] using inv.awaited running
  · intro phase here
    rw [place] at here
    exact (inv.apart phase here).spawnChild spawned

end RetryInv

/-- Fewer admissions are asked about. -/
theorem RetryInv.mono {admitted fewer : Nat → Nat → Prop} (inv : RetryInv admitted state)
    (some_of : ∀ attempt child, fewer attempt child → admitted attempt child) :
    RetryInv fewer state where
  awaited := inv.awaited
  apart := by
    intro phase here
    have apart := inv.apart phase here
    exact ⟨apart.kind, apart.allowed, apart.jobs, apart.current, apart.shut, apart.behind,
      fun attempt child admits => apart.held attempt child (some_of _ _ admits),
      fun attempt child admits => apart.fresh attempt child (some_of _ _ admits)⟩

/-- The other steps of the environment. -/
theorem RetryInv.other {admitted : Nat → Nat → Prop} {action : SupervisedAction T E}
    (inv : RetryInv admitted state) (step : state.step action = some after)
    (notBody : ∀ choice, action ≠ .body choice)
    (notSpawn : ∀ attempt available, action ≠ .spawnChild attempt available) :
    RetryInv admitted after := by
  cases Stepped.of_step step with
  | runner moved => exact inv.runner moved
  | body moved => exact absurd rfl (notBody _)
  | unwound message here free => exact inv.dropBody here _
  | aborted here => exact inv.dropBody here _
  | still same => exact inv.still same
  | childSpawned context admission => exact absurd rfl (notSpawn _ _)
  | childEnded =>
    constructor
    · exact inv.awaited
    · intro phase here
      exact (inv.apart phase here).still rfl rfl (Finset.erase_subset _ _) rfl
        (Finset.Subset.refl _)

end Supervised

open Supervised

/-- A future that is let go does not end `run_retry`. -/
theorem inRetry_of_detach {state after : Supervised T E} {phase : Phase}
    (here : state.body = .running phase) (retrying : phase.inRetry = true)
    (step : state.bodyStep .detach = some after) : after.body.inRetry = true := by
  unfold bodyStep at step
  rw [here] at step
  cases phase with
  | begun turn =>
    cases turn with
    | attempt number outer => exact Option.some.inj step ▸ rfl
    | _ => cases retrying
  | leaving turn => exact Option.some.inj step ▸ retrying
  | closing turn pending => cases pending <;> cases step
  | entering turn | driving turn _ | reaping turn _ | decided turn | sleeping turn => cases step
  | _ => cases retrying

section Retry

variable {kind : Kind} {abortPolicy : AbortPolicy} {maximumChildren : Nat}
  {actions : List (SupervisedAction T E)} {state : Supervised T E}

/-- The attempt has admitted the child. -/
def Admitted (kind : Kind) (abortPolicy : AbortPolicy) (maximumChildren : Nat)
    (actions : List (SupervisedAction T E)) (attempt child : Nat) : Prop :=
  (supervision T E kind abortPolicy maximumChildren).Happened (Admits attempt child)
    (supervision T E kind abortPolicy maximumChildren).init actions

/-- **Run lemma.** -/
theorem retryInv_of_run (retries : kind.retries = true)
    (run : (supervision T E kind abortPolicy maximumChildren).exec
      (supervision T E kind abortPolicy maximumChildren).init actions = some state)
    (representable : .body .detach ∉ actions) :
    RetryInv (Admitted kind abortPolicy maximumChildren actions) state := by
  revert representable
  refine System.exec_invariant (I := fun actions state => .body .detach ∉ actions →
    RetryInv (Admitted kind abortPolicy maximumChildren actions) state) ?_ ?_ run
  · intro _
    constructor
    · intro running
      cases running
    · intro phase here
      obtain rfl := Option.some.inj here
      refine ⟨retries, rfl, Finset.Subset.refl _, ?_, ?_, ?_, ?_, ?_⟩
      · intro _ absurd
        cases absurd
      · intro _ called
        exact absurd called (lt_irrefl 0)
      · intro entry absurd
        cases absurd
      · intro attempt child admits
        exact (System.not_happened_nil admits).elim
      · intro attempt child admits
        exact (System.not_happened_nil admits).elim
  · intro before x y action reached ih taken representable
    have inv := ih fun member => representable (List.mem_append_left _ member)
    have step : x.step action = some y := taken
    have snoc : ∀ attempt child, Admitted kind abortPolicy maximumChildren (before ++ [action])
        attempt child → Admitted kind abortPolicy maximumChildren before attempt child ∨
          Admits attempt child x action :=
      fun attempt child => (System.happened_snoc reached).1
    cases action with
    | body choice =>
      refine (inv.body step ?_).mono fun attempt child admits => (snoc _ _ admits).resolve_right id
      rintro rfl
      exact representable (List.mem_append_right _ List.mem_cons_self)
    | spawnChild number available =>
      obtain ⟨context, step⟩ := Option.ite_none_right_eq_some.1 step
      cases spawned : x.spawnChild number available with
      | ok after =>
        rw [spawned] at step
        obtain rfl := Option.some.inj step
        refine (inv.spawnChild spawned).mono fun attempt child admits => ?_
        exact (snoc _ _ admits).imp_right fun new => ⟨new.1.symm, new.2.1⟩
      | error error =>
        rw [spawned] at step
        obtain rfl := Option.some.inj step
        refine inv.mono fun attempt child admits => (snoc _ _ admits).resolve_right ?_
        rintro ⟨-, -, -, after, accepted⟩
        rw [spawned] at accepted
        cases accepted
    | _ =>
      exact (inv.other step (by simp) (by simp)).mono fun attempt child admits =>
        (snoc _ _ admits).resolve_right id

/-- When the factory of an attempt is called, no future of an attempt is left, and the children
admitted under the attempts before it are terminal. -/
theorem factory_called_alone (retries : kind.retries = true)
    (run : (supervision T E kind abortPolicy maximumChildren).exec
      (supervision T E kind abortPolicy maximumChildren).init actions = some state)
    (representable : .body .detach ∉ actions) {number : Nat} {outer : Option Nat}
    (here : state.body = .running (.begun (.attempt number outer))) :
    state.jobs = ∅ ∧ ∀ attempt child, 1 ≤ attempt → attempt < number →
      Admitted kind abortPolicy maximumChildren actions attempt child → child ∉ state.live := by
  have apart := (retryInv_of_run retries run representable).of_running here
  refine ⟨apart.jobs_eq rfl, fun attempt child positive before admits => ?_⟩
  exact apart.not_live admits positive (Nat.le_sub_one_of_lt before) rfl

/-- The same when `run_retry` returns, of all its attempts. -/
theorem retry_returns_alone (retries : kind.retries = true)
    (run : (supervision T E kind abortPolicy maximumChildren).exec
      (supervision T E kind abortPolicy maximumChildren).init actions = some state)
    (representable : .body .detach ∉ actions) {phase : Phase} {choice : Choice T E}
    {after : Supervised T E} (here : state.body = .running phase) (retrying : phase.inRetry = true)
    (step : state.step (.body choice) = some after) (left : after.body.inRetry = false) :
    after.jobs = ∅ ∧ ∀ attempt child, 1 ≤ attempt → attempt ≤ phase.called →
      Admitted kind abortPolicy maximumChildren actions attempt child → child ∉ after.live := by
  have apart := (retryInv_of_run retries run representable).of_running here
  have returns : choice ≠ .detach := by
    rintro rfl
    exact absurd (inRetry_of_detach here retrying step) (Bool.eq_false_iff.1 left)
  obtain ⟨none_left, live, closed, free⟩ :=
    (apart.of_bodyStep here step returns).returns retrying left
  refine ⟨none_left, fun attempt child positive called admits => ?_⟩
  rw [live]
  exact apart.not_live admits positive (called.trans closed) free

end Retry

end BusyBeaver
