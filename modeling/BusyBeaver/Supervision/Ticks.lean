import BusyBeaver.Supervision.Attempts

/-!
# The children of a tick

A recurring execution comes back to the head of its loop only when no child is left: the
closer of a tick has taken every child that was admitted since the tick began, and no context
admits one until the next tick begins (`Stands`).  What is known of a body while it runs is
carried along a run by one rule (`Carries.step`).
-/

namespace BusyBeaver

open Transition

variable {T E : Type}

namespace Supervised

variable {state after : Supervised T E}

/-! ## What holds while the body runs -/

/-- A body that runs is awaited, and `P` holds where it stands. -/
structure Carries (P : Supervised T E → Phase → Prop) (state : Supervised T E) : Prop where
  awaited : state.body.isRunning = true → state.Awaits
  stands : ∀ phase, state.place = some phase → P state phase

/-- `P` is about the children, and is kept when one of them ends. -/
def OfChildren (P : Supervised T E → Phase → Prop) : Prop :=
  ∀ {state after : Supervised T E} {phase : Phase}, P state phase → after.kind = state.kind →
    after.children = state.children → after.live ⊆ state.live → P after phase

namespace Carries

variable {P : Supervised T E → Phase → Prop} {phase : Phase}

theorem of_running (carries : Carries P state) (here : state.body = .running phase) :
    P state phase :=
  carries.stands phase ((place_of_awaits (carries.awaited (by rw [here]; rfl))).2 here)

/-- The body has ended, or was never begun, and the runner is past it. -/
theorem past (unbegun : after.body.isRunning = false) (away : ¬ after.Awaits)
    (waiting : after.runner ≠ .waiting) (claimed : after.runner ≠ .claimed) :
    Carries P after where
  awaited := fun running => by
    rw [unbegun] at running
    cases running
  stands := fun phase here => by
    rw [place_eq_none away waiting claimed] at here
    cases here

theorem runner (ofChildren : OfChildren P) (carries : Carries P state)
    (moved : RunnerMoved state after) : Carries P after := by
  have unbegun : ¬ state.Awaits → state.body.isRunning = false := fun away =>
    Bool.eq_false_iff.2 fun running => away (carries.awaited running)
  have ended : ∀ {result : Joined T E}, state.body = .ended result →
      state.body.isRunning = false := fun same => by rw [same]; rfl
  cases moved with
  | claim here claimed =>
    have idle := unbegun (by simp [Awaits, here])
    constructor
    · intro running
      exact absurd running (Bool.eq_false_iff.1 idle)
    · intro phase same
      obtain rfl := Option.some.inj same
      exact ofChildren (carries.stands .spawned (by rw [place, here])) rfl rfl
        (Finset.Subset.refl _)
  | spawn here =>
    constructor
    · exact fun _ => Or.inl rfl
    · intro phase same
      obtain rfl := Option.some.inj same
      exact ofChildren (carries.stands .spawned (by rw [place, here])) rfl rfl
        (Finset.Subset.refl _)
  | install here =>
    constructor
    · exact fun _ => Or.inr (Or.inl rfl)
    · intro phase same
      have running := (place_of_awaits (Or.inr (Or.inl rfl))).1 same
      exact ofChildren (carries.of_running running) rfl rfl (Finset.Subset.refl _)
  | drop here =>
    constructor
    · exact fun _ => Or.inr (Or.inr rfl)
    · intro phase same
      have running := (place_of_awaits (Or.inr (Or.inr rfl))).1 same
      exact ofChildren (carries.of_running running) rfl rfl (Finset.Subset.refl _)
  | hear here done_ => exact past (ended done_) (by simp [Awaits]) (by simp) (by simp)
  | dropped here done_ => exact past (ended done_) (by simp [Awaits]) (by simp) (by simp)
  | retire here =>
    obtain ⟨core, commit⟩ := state.commit_eq (.executorStopped .runnerCancelled)
    rw [commit]
    refine past (unbegun ?_) (by simp [Awaits]) (by simp) (by simp)
    rcases here with here | here <;> simp [Awaits, here]
  | finish here =>
    obtain ⟨core, commit⟩ := state.commit_eq _
    rw [commit]
    exact past (unbegun (by simp [Awaits, here])) (by simp [Awaits]) (by simp) (by simp)
  | refuse here | unwound message here | clear here | propose here | close here
    | await here terminal =>
    exact past (unbegun (by simp [Awaits, here])) (by simp [Awaits]) (by simp) (by simp)

/-- The environment moves, and nothing is admitted. -/
theorem beside (ofChildren : OfChildren P) (carries : Carries P state)
    (kind : after.kind = state.kind) (runner : after.runner = state.runner)
    (body : after.body = state.body) (children : after.children = state.children)
    (live : after.live ⊆ state.live) : Carries P after where
  awaited := by
    intro running
    rw [body] at running
    simpa only [Awaits, runner] using carries.awaited running
  stands := by
    intro phase here
    have place : after.place = state.place := by
      unfold Supervised.place
      rw [runner, body]
    rw [place] at here
    exact ofChildren (carries.stands phase here) kind children live

theorem dropBody (carries : Carries P state) (here : state.body = .running phase)
    (joined : Joined T E) : Carries P (state.dropBody phase joined) := by
  have awaits : (state.dropBody phase joined).Awaits := carries.awaited (by rw [here]; rfl)
  constructor
  · exact fun _ => awaits
  · intro other same
    cases (place_of_awaits awaits).1 same

theorem other (ofChildren : OfChildren P) (carries : Carries P state)
    {action : SupervisedAction T E} (step : state.step action = some after)
    (notBody : ∀ choice, action ≠ .body choice)
    (notSpawn : ∀ attempt available, action ≠ .spawnChild attempt available) :
    Carries P after := by
  cases Stepped.of_step step with
  | runner moved => exact carries.runner ofChildren moved
  | body moved => exact absurd rfl (notBody _)
  | unwound message here free => exact carries.dropBody here _
  | aborted here => exact carries.dropBody here _
  | still same =>
    exact carries.beside ofChildren same.kind same.runner same.body same.children same.live.le
  | childSpawned context admission => exact absurd rfl (notSpawn _ _)
  | childEnded => exact carries.beside ofChildren rfl rfl rfl rfl (Finset.erase_subset _ _)

theorem body {Q : Supervised T E → Phase → Prop} (carries : Carries P state)
    {choice : Choice T E} (step : state.bodyStep choice = some after)
    (ofBody : ∀ {phase phase' : Phase}, P state phase → state.body = .running phase →
      after.body = .running phase' → Q after phase') : Carries Q after := by
  have moved := BodyMoved.of_bodyStep step
  have awaits : after.Awaits := by
    simpa only [Awaits, moved.runner] using carries.awaited moved.running
  refine ⟨fun _ => awaits, fun other same => ?_⟩
  cases here : state.body with
  | running phase => exact ofBody (carries.of_running here) here ((place_of_awaits awaits).1 same)
  | absent | ended joined =>
    have running := moved.running
    rw [here] at running
    cases running

/-- The body stands still, and a child may be admitted. -/
theorem notBody (ofChildren : OfChildren P)
    (ofSpawn : ∀ {state after : Supervised T E} {phase : Phase} {attempt : Nat} {available : Bool},
      P state phase → state.spawnChild attempt available = .ok after → P after phase)
    (carries : Carries P state) {action : SupervisedAction T E}
    (step : state.step action = some after) (notBody : ∀ choice, action ≠ .body choice) :
    Carries P after := by
  cases action with
  | body choice => exact absurd rfl (notBody choice)
  | spawnChild attempt available =>
    obtain ⟨context, step⟩ := Option.ite_none_right_eq_some.1 step
    cases spawned : state.spawnChild attempt available with
    | error error =>
      rw [spawned] at step
      exact Option.some.inj step ▸ carries
    | ok next =>
      rw [spawned] at step
      obtain rfl := Option.some.inj step
      have same : next.runner = state.runner ∧ next.body = state.body := by
        unfold Supervised.spawnChild at spawned
        split at spawned
        · obtain rfl := Except.ok.inj spawned
          exact ⟨rfl, rfl⟩
        · cases spawned
      refine ⟨?_, fun phase here => ?_⟩
      · intro running
        rw [same.2] at running
        simpa only [Awaits, same.1] using carries.awaited running
      · have place : next.place = state.place := by
          unfold Supervised.place
          rw [same.1, same.2]
        rw [place] at here
        exact ofSpawn (carries.stands phase here) spawned
  | _ => exact carries.other ofChildren step (by simp) (by simp)

/-- **Step lemma.** -/
theorem step (ofChildren : OfChildren P)
    (ofBody : ∀ {state after : Supervised T E} {phase phase' : Phase} {choice : Choice T E},
      P state phase → state.body = .running phase → state.bodyStep choice = some after →
        after.body = .running phase' → P after phase')
    (ofSpawn : ∀ {state after : Supervised T E} {phase : Phase} {attempt : Nat} {available : Bool},
      P state phase → state.spawnChild attempt available = .ok after → P after phase)
    (carries : Carries P state) {action : SupervisedAction T E}
    (step : state.step action = some after) : Carries P after := by
  cases action with
  | body choice => exact carries.body step fun stands here there => ofBody stands here step there
  | _ => exact carries.notBody ofChildren ofSpawn step (by simp)

end Carries

/-! ## Ticks -/

/-- Every live child is tracked under the attempt, and only children of it are. -/
structure Gathers (state : Supervised T E) (attempt : Nat) : Prop where
  tracked : ∀ child ∈ state.live, ⟨attempt, child⟩ ∈ state.children.controls
  own : ∀ entry ∈ state.children.controls, entry.attempt = attempt
  current : state.children.attemptAdmissionOpen = true → state.children.currentAttempt = attempt

/-- The closer of a tick has taken the children. -/
structure Handed (state : Supervised T E) (pending : List Nat) : Prop where
  controls : state.children.controls = []
  closed : state.children.attemptAdmissionOpen = false
  live : ∀ child ∈ state.live, child ∈ pending

/-- The children of a recurring execution, by where its body stands. -/
def StandsPhase (state : Supervised T E) : Phase → Prop
  | .spawned | .delaying => state.Gathers 1
  | .entering (.tick tick) | .begun (.tick tick) | .driving (.tick tick) _
  | .leaving (.tick tick) => state.Gathers (saturateU32 tick)
  | .closing (.tick _) pending => state.Handed pending
  | .decided (.tick _) | .sleeping (.tick _) => state.Handed []
  | _ => False

def Stands (state : Supervised T E) (phase : Phase) : Prop :=
  state.kind = .recurring .tick ∧ state.StandsPhase phase

theorem Gathers.of_children {attempt : Nat} (gathers : state.Gathers attempt)
    (children : after.children = state.children) (live : after.live ⊆ state.live) :
    after.Gathers attempt where
  tracked := fun child member => by
    rw [children]
    exact gathers.tracked child (live member)
  own := by
    rw [children]
    exact gathers.own
  current := by
    rw [children]
    exact gathers.current

theorem Handed.of_children {pending : List Nat} (handed : state.Handed pending)
    (children : after.children = state.children) (live : after.live ⊆ state.live) :
    after.Handed pending where
  controls := by rw [children]; exact handed.controls
  closed := by rw [children]; exact handed.closed
  live := fun child member => handed.live child (live member)

/-- A tick begins with no child. -/
theorem Handed.gathers (handed : state.Handed []) (attempt : Nat) : state.Gathers attempt where
  tracked := fun child member => absurd (handed.live child member) List.not_mem_nil
  own := by
    rw [handed.controls]
    exact fun entry member => absurd member List.not_mem_nil
  current := by
    rw [handed.closed]
    intro absurd
    cases absurd

theorem ofChildren_stands : OfChildren (Stands (T := T) (E := E)) := by
  intro state after phase stands kind children live
  refine ⟨kind.trans stands.1, ?_⟩
  have holds := stands.2
  unfold StandsPhase at holds ⊢
  split at holds
  · exact holds.of_children children live
  · exact holds.of_children children live
  · exact holds.of_children children live
  · exact holds.of_children children live
  · exact holds.of_children children live
  · exact holds.of_children children live
  · exact holds.of_children children live
  · exact holds.of_children children live
  · exact holds.of_children children live
  · exact holds.elim

/-- A phase of the body is the one it is in. -/
theorem stands_of_running {phase phase' : Phase} (here : after.body = .running phase)
    (there : after.body = .running phase') (stands : after.Stands phase) : after.Stands phase' :=
  BodyTask.running.inj (here.symm.trans there) ▸ stands

theorem Gathers.close {tick : Nat} (gathers : state.Gathers (saturateU32 tick)) :
    (state.closeAttempt (.tick tick)).Handed (state.children.closeAttemptChildren
      (saturateU32 tick)).2 where
  controls := by
    refine List.filter_eq_nil_iff.2 fun entry member => ?_
    exact fun other => of_decide_eq_true other (gathers.own entry member)
  closed := by
    change (if _ then false else _) = false
    split
    · rfl
    · rename_i other
      exact Bool.eq_false_iff.2 fun admission => other (gathers.current admission)
  live := by
    intro child member
    refine List.mem_map.2 ⟨_, List.mem_filter.2 ⟨gathers.tracked child member, ?_⟩, rfl⟩
    exact decide_eq_true rfl

/-- **Step lemma**, for the body. -/
theorem Stands.of_bodyStep {phase phase' : Phase} {choice : Choice T E}
    (stands : state.Stands phase) (here : state.body = .running phase)
    (step : state.bodyStep choice = some after) (there : after.body = .running phase') :
    after.Stands phase' := by
  obtain ⟨kind, holds⟩ := stands
  have moves {next : Phase} (light : StandsPhase state next) : (state.moveTo next).Stands next :=
    ofChildren_stands ⟨kind, light⟩ rfl rfl (Finset.Subset.refl _)
  unfold bodyStep at step
  rw [here] at step
  cases phase with
  | spawned =>
    obtain rfl := Option.some.inj step
    have start : state.start = state.moveTo .delaying := by rw [start, kind]
    rw [start] at there ⊢
    exact stands_of_running rfl there (moves holds)
  | delaying =>
    cases choice with
    | proceed =>
      obtain rfl := Option.some.inj step
      exact stands_of_running rfl there (moves holds)
    | exit exit =>
      obtain rfl := Option.some.inj step
      cases there
    | _ => cases step
  | entering turn =>
    cases turn with
    | tick tick =>
      cases choice with
      | proceed =>
        obtain rfl := Option.some.inj step
        refine stands_of_running rfl there ⟨kind, ?_⟩
        exact ⟨holds.tracked, holds.own, fun _ => rfl⟩
      | exit exit =>
        obtain rfl := Option.some.inj step
        cases there
      | _ => cases step
    | _ => exact holds.elim
  | begun turn =>
    cases turn with
    | tick tick =>
      cases choice with
      | proceed =>
        simp only [launch, kind] at step
        obtain rfl := Option.some.inj step
        exact stands_of_running rfl there (ofChildren_stands
          ⟨kind, show StandsPhase state (.driving (.tick tick) state.nextJob) from holds⟩ rfl rfl
          (Finset.Subset.refl _))
      | panic message =>
        simp only [launch, kind] at step
        obtain rfl := Option.some.inj step
        exact stands_of_running rfl there (moves holds)
      | _ =>
        simp only [launch, kind] at step
        cases step
    | _ => exact holds.elim
  | driving turn job =>
    cases turn with
    | tick tick =>
      cases choice with
      | proceed =>
        obtain ⟨-, same⟩ := Option.ite_none_left_eq_some.1 step
        obtain rfl := Option.some.inj same
        exact stands_of_running rfl there (moves holds)
      | _ => cases step
    | _ => exact holds.elim
  | leaving turn =>
    cases turn with
    | tick tick =>
      obtain rfl := Option.some.inj step
      exact stands_of_running rfl there ⟨kind, holds.close⟩
    | _ => exact holds.elim
  | closing turn pending =>
    cases turn with
    | tick tick =>
      cases pending with
      | nil =>
        cases choice with
        | proceed =>
          obtain rfl := Option.some.inj step
          exact stands_of_running rfl there (moves holds)
        | _ => cases step
      | cons child pending =>
        cases choice with
        | proceed =>
          obtain ⟨terminal, same⟩ := Option.ite_none_left_eq_some.1 step
          obtain rfl := Option.some.inj same
          refine stands_of_running rfl there (moves ?_)
          refine ⟨holds.controls, holds.closed, fun other live => ?_⟩
          rcases List.mem_cons.1 (holds.live other live) with rfl | member
          · exact absurd live terminal
          · exact member
        | _ => cases step
    | _ => exact holds.elim
  | decided turn =>
    cases turn with
    | tick tick =>
      cases choice with
      | sleep =>
        obtain rfl := Option.some.inj step
        exact stands_of_running rfl there (moves holds)
      | exit exit =>
        obtain rfl := Option.some.inj step
        cases there
      | _ => cases step
    | _ => exact holds.elim
  | sleeping turn =>
    cases turn with
    | tick tick =>
      cases choice with
      | proceed =>
        obtain ⟨following, next, rfl⟩ := Option.map_eq_some_iff.1 step
        obtain ⟨number, -, rfl⟩ := Option.map_eq_some_iff.1 next
        exact stands_of_running rfl there (moves (holds.gathers _))
      | sleep =>
        obtain rfl := Option.some.inj step
        exact stands_of_running rfl there (moves holds)
      | restart =>
        obtain rfl := Option.some.inj step
        exact stands_of_running rfl there (moves (holds.gathers _))
      | exit exit =>
        obtain rfl := Option.some.inj step
        cases there
      | _ => cases step
    | _ => exact holds.elim
  | user | reaping turn job | stopping turn job | hooking turn job hook | joining turn job =>
    exact holds.elim

/-- **Step lemma**, for an admission. -/
theorem Stands.of_spawnChild {phase : Phase} {attempt : Nat} {available : Bool}
    (stands : state.Stands phase) (spawned : state.spawnChild attempt available = .ok after) :
    after.Stands phase := by
  obtain ⟨kind, holds⟩ := stands
  unfold spawnChild at spawned
  split at spawned
  · rename_i children admitted
    obtain rfl := Except.ok.inj spawned
    obtain ⟨open_, current⟩ := ChildSet.attempt_of_spawnChild admitted
    obtain ⟨-, rfl⟩ := ChildSet.of_spawnChild admitted
    have gathered {number : Nat} (gathers : state.Gathers number) :
        Gathers { state with
          children := { state.children with
            controls := state.children.controls ++ [⟨attempt, state.nextChild⟩] }
          live := insert state.nextChild state.live
          nextChild := state.nextChild + 1 } number := by
      obtain rfl : attempt = number := current.symm.trans (gathers.current open_)
      refine ⟨?_, ?_, gathers.current⟩
      · intro child member
        rcases Finset.mem_insert.1 member with rfl | old
        · exact List.mem_append_right _ (List.mem_singleton_self _)
        · exact List.mem_append_left _ (gathers.tracked child old)
      · intro entry member
        rcases List.mem_append.1 member with old | new
        · exact gathers.own entry old
        · rw [List.mem_singleton.1 new]
    have shut {pending : List Nat} (handed : state.Handed pending) : False := by
      rw [handed.closed] at open_
      cases open_
    refine ⟨kind, ?_⟩
    unfold StandsPhase at holds ⊢
    split at holds
    · exact gathered holds
    · exact gathered holds
    · exact gathered holds
    · exact gathered holds
    · exact gathered holds
    · exact gathered holds
    · exact (shut holds).elim
    · exact (shut holds).elim
    · exact (shut holds).elim
    · exact holds.elim
  · cases spawned

/-- **Run lemma.** -/
theorem carries_stands {abortPolicy : AbortPolicy} {maximumChildren : Nat}
    (reached : (supervision T E (.recurring .tick) abortPolicy maximumChildren).Reachable state) :
    Carries Stands state := by
  refine reached.invariant ?_ ?_
  · refine ⟨fun running => (by cases running), fun phase here => ?_⟩
    obtain rfl := Option.some.inj here
    refine ⟨rfl, ?_, ?_, fun _ => rfl⟩
    · exact fun child live => absurd live (Finset.notMem_empty child)
    · exact fun entry member => absurd member List.not_mem_nil
  · intro x y action carries _ taken
    have step : x.step action = some y := taken
    exact carries.step ofChildren_stands Stands.of_bodyStep Stands.of_spawnChild step

/-- When a tick is over, and until the next one begins, no child is left and none is admitted. -/
theorem Handed.over (handed : state.Handed []) :
    state.live = ∅ ∧ ∀ attempt available,
      state.spawnChild attempt available = .error .parentClosing := by
  refine ⟨Finset.eq_empty_of_forall_notMem fun child live => ?_, fun attempt available => ?_⟩
  · exact List.not_mem_nil (handed.live child live)
  · have shut : state.children.attemptAdmissionOpen = true →
        state.children.currentAttempt ≠ attempt := by
      rw [handed.closed]
      intro absurd
      cases absurd
    rw [spawnChild, ChildSet.spawnChild_of_attempt shut state.maximumChildren available
      state.nextChild]

/-- The loop comes back to its head with no child. -/
theorem children_between_ticks {abortPolicy : AbortPolicy} {maximumChildren tick : Nat}
    {turn : Iteration} {choice : Choice T E}
    (reached : (supervision T E (.recurring .tick) abortPolicy maximumChildren).Reachable state)
    (here : state.body = .running (.sleeping (.tick tick)))
    (step : state.step (.body choice) = some after)
    (there : after.body = .running (.entering turn)) :
    after.live = ∅ ∧ ∀ attempt available,
      after.spawnChild attempt available = .error .parentClosing := by
  have handed : state.Handed [] := ((carries_stands reached).of_running here).2
  have step : state.wake (.tick tick) choice = some after := by
    have body : state.bodyStep choice = some after := step
    unfold bodyStep at body
    rw [here] at body
    exact body
  have same : after.children = state.children ∧ after.live = state.live := by
    cases choice with
    | proceed =>
      obtain ⟨following, -, rfl⟩ := Option.map_eq_some_iff.1 step
      exact ⟨rfl, rfl⟩
    | restart => exact Option.some.inj step ▸ ⟨rfl, rfl⟩
    | sleep => exact Option.some.inj step ▸ ⟨rfl, rfl⟩
    | exit exit =>
      obtain rfl := Option.some.inj step
      cases there
    | _ => cases step
  exact (handed.of_children same.1 same.2.subset).over

end Supervised

end BusyBeaver
