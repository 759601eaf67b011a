import BusyBeaver.Scope.Generations

/-!
# The answer of `cancel_pending_new`

The flag is swapped without the scope lock, and `run_rotation` reads it once, in its last
critical section.  The first call is answered `true` whenever it comes; it is true to its
word if the section is still to come and if, until then, nothing is admitted with the
reserved generation, which is current already when availability goes first
(`ScopeWorld.InTime`).
-/

namespace BusyBeaver

open Transition Checked

/-- `RotationHandle::wait`: suspended until the outcome is sent.  The handle keeps the
sender of the channel alive. -/
def RotationProcess.wait (rotation : RotationProcess) : Option RotationOutcome := rotation.result

namespace ScopeWorld

variable {world after : ScopeWorld} {action : ScopeAction} {process : Nat}
  {rotation : RotationProcess} {outcome : RotationOutcome}

/-- The last section of `run_rotation` has answered the outcome, sent or still to be sent. -/
def Verdict (world : ScopeWorld) (process : Nat) (rotation : RotationProcess)
    (outcome : RotationOutcome) : Prop :=
  rotation.result = some outcome ∨
    ∃ teardown, world.tasks process = some teardown ∧ .publish outcome ∈ teardown.todo

/-- The supervisor has read the flag. -/
def Decided (world : ScopeWorld) (process : Nat) : Prop :=
  ∃ rotation outcome, world.rotations process = some rotation ∧
    world.Verdict process rotation outcome

/-- The first call comes before the decision, and between the two nothing is admitted with
the reserved generation. -/
def InTime (world : ScopeWorld) : ScopeAction → Prop
  | .cancelPendingNew process => ∀ rotation, world.rotations process = some rotation →
      rotation.cancelled = false → ¬ world.Decided process
  | .trySpawn generation (some _) => world.view.Admits generation →
      ∀ process rotation, world.rotations process = some rotation → rotation.new = generation →
        rotation.cancelled = true → world.Decided process
  | _ => True

/-! ## Where outcomes come from -/

theorem publish_notMem_joinEach (children : List Nat) : .publish outcome ∉ joinEach children := by
  simp [joinEach]

theorem publish_notMem_collectEach (children : List Nat) :
    .publish outcome ∉ collectEach children := by
  simp [collectEach]

theorem publish_notMem_ownJoin (policy : RotationPolicy) (controls : List ExecutionId) :
    .publish outcome ∉ ownJoin policy controls := by
  cases policy <;> simp [ownJoin]

/-- An outcome to be sent was to be sent before, or it is decided now. -/
theorem Moved.publishes {task : Nat} {teardown' : Teardown} (moved : world.Moved action after)
    (found' : after.tasks task = some teardown') (member : .publish outcome ∈ teardown'.todo) :
    ∃ teardown, world.tasks task = some teardown ∧ (.publish outcome ∈ teardown.todo ∨
      ∃ rest rotation inner, teardown.todo = .decide :: rest ∧
        world.rotations task = some rotation ∧ world.families rotation.family = some inner ∧
        outcome = (world.conclude inner rotation).2 ∧
        after.view = (world.conclude inner rotation).1.view) := by
  rcases moved.task found' with same | ⟨teardown, mid, found, works, rfl⟩ | ⟨-, begins⟩
  · exact ⟨teardown', same, .inl member⟩
  · refine ⟨teardown, found, ?_⟩
    have tail : ∀ {op rest}, teardown.todo = op :: rest → .publish outcome ∈ rest →
        .publish outcome ∈ teardown.todo := fun todo member => todo ▸ List.mem_cons_of_mem _ member
    cases works with
    | started todo =>
      simp only [List.mem_cons, List.cons_append, List.mem_append, publish_notMem_ownJoin,
        reduceCtorEq, false_or] at member
      exact .inl (tail todo member)
    | descended todo =>
      simp only [List.mem_append, publish_notMem_joinEach, false_or] at member
      exact .inl (tail todo member)
    | collected todo =>
      simp only [List.mem_cons, List.cons_append, List.mem_append, publish_notMem_collectEach,
        reduceCtorEq, false_or] at member
      exact .inl (tail todo member)
    | read todo | released todo | cancelled todo | joined todo | published todo
    | returned todo => exact .inl (tail todo member)
    | joinedOwn todo =>
      simp only [List.mem_cons, reduceCtorEq, false_or] at member
      exact .inl (tail todo member)
    | took | resumed => exact .inl member
    | lost => exact (List.not_mem_nil member).elim
    | @decided rest rotation inner todo process scope =>
      rcases List.mem_cons.1 member with eq | later
      · exact .inr ⟨rest, rotation, inner, todo, process, scope, TeardownOp.publish.inj eq, rfl⟩
      · exact .inl (tail todo later)
  · cases begins with
    | @cancel _ wait => cases wait <;> simp at member
    | rotate => simp at member

/-- What was decided agrees with the flag. -/
structure Agreed (world : ScopeWorld) : Prop where
  answers : ∀ process rotation, world.rotations process = some rotation →
    rotation.answers.count true = if rotation.cancelled then 1 else 0
  cancelled : ∀ process rotation old reserved, world.rotations process = some rotation →
    world.Verdict process rotation (.cancelled old reserved) → rotation.cancelled = true
  upheld : ∀ process rotation outcome, world.rotations process = some rotation →
    world.Verdict process rotation outcome → rotation.cancelled = true →
    outcome = .cancelled rotation.old rotation.new ∧ world.view.Sealed rotation.new

namespace Agreed

theorem new : ScopeWorld.new.Agreed where
  answers _ _ absurd := by cases absurd
  cancelled _ _ _ _ absurd := by cases absurd
  upheld _ _ _ absurd := by cases absurd

/-- The verdicts of a rotation that is not rewritten, and decides nothing, are the same. -/
theorem keep (agreed : world.Agreed) (extends_ : world.view.Extends after.view)
    (rotations : ∀ process rotation', after.rotations process = some rotation' →
      rotation'.answers.count true = (if rotation'.cancelled then 1 else 0) ∧
      ∀ outcome, after.Verdict process rotation' outcome →
        (∃ rotation, world.rotations process = some rotation ∧
          world.Verdict process rotation outcome ∧ rotation'.cancelled = rotation.cancelled ∧
          rotation'.toRotationPlan = rotation.toRotationPlan) ∨
        ((∃ old reserved, outcome = .cancelled old reserved) → rotation'.cancelled = true) ∧
        (rotation'.cancelled = true → outcome = .cancelled rotation'.old rotation'.new ∧
          after.view.Sealed rotation'.new)) : after.Agreed where
  answers process rotation' found' := (rotations process rotation' found').1
  cancelled process rotation' old reserved found' verdict := by
    rcases (rotations process rotation' found').2 _ verdict with
      ⟨rotation, found, before, same, -⟩ | ⟨decided, -⟩
    · exact same.trans (agreed.cancelled process rotation old reserved found before)
    · exact decided ⟨old, reserved, rfl⟩
  upheld process rotation' outcome found' verdict set := by
    rcases (rotations process rotation' found').2 _ verdict with
      ⟨rotation, found, before, same, plan⟩ | ⟨-, decided⟩
    · obtain ⟨eq, shut⟩ := agreed.upheld process rotation outcome found before (same ▸ set)
      rw [congrArg RotationPlan.old plan, congrArg RotationPlan.new plan]
      exact ⟨eq, extends_.sealed shut⟩
    · exact decided set

/-- The rotation decides: the verdict is the one of its flag. -/
theorem of_conclude (ordered : world.Ordered) {inner : ScopeInner}
    (pending : world.Pending process rotation)
    (scope : world.families rotation.family = some inner)
    (view : after.view = (world.conclude inner rotation).1.view) :
    ((∃ old reserved, (world.conclude inner rotation).2 = .cancelled old reserved) →
      rotation.cancelled = true) ∧
    (rotation.cancelled = true →
      (world.conclude inner rotation).2 = .cancelled rotation.old rotation.new ∧
      after.view.Sealed rotation.new) := by
  rcases Ordered.conclude_cases world (ordered.ticket_eq pending scope).1 with
    ⟨set, closed, outcome⟩ | ⟨unset, -, outcome⟩
  · refine ⟨fun _ => set, fun _ => ⟨outcome, ?_⟩⟩
    obtain ⟨-, shape, -, at_new, -, -⟩ := (ordered.pending process rotation pending).later
    rw [view, closed]
    refine ⟨{ shape with admissionOpen := false }, ?_, .inl rfl⟩
    exact Pool.modify_self.trans (congrArg _ at_new)
  · rw [outcome]
    refine ⟨?_, fun set => absurd (unset.symm.trans set) (by simp)⟩
    rintro ⟨old, reserved, absurd⟩
    cases absurd

theorem step (agreed : world.Agreed) (ordered : world.Ordered)
    (step : world.step action = some after) (inTime : world.InTime action) : after.Agreed := by
  have moved := Moved.of_step step
  have effect := ordered.effect step
  refine agreed.keep (.of_effect effect) fun process rotation' found' => ?_
  -- an outcome still to be sent
  have unsent : ∀ {rotation outcome}, world.rotations process = some rotation →
      (∃ teardown, after.tasks process = some teardown ∧ .publish outcome ∈ teardown.todo) →
      world.Verdict process rotation outcome ∨
        ((∃ old reserved, outcome = .cancelled old reserved) → rotation.cancelled = true) ∧
        (rotation.cancelled = true → outcome = .cancelled rotation.old rotation.new ∧
          after.view.Sealed rotation.new) := by
    rintro rotation outcome found ⟨teardown, at_process, member⟩
    rcases moved.publishes at_process member with ⟨before, at_before, earlier |
      ⟨rest, rotation₀, inner, todo, found₀, scope, eq, view⟩⟩
    · exact .inl (.inr ⟨before, at_before, earlier⟩)
    · obtain rfl := Option.some.inj (found.symm.trans found₀)
      rw [eq]
      exact .inr (of_conclude ordered (Ordered.pending_of_todo at_before todo found₀) scope view)
  rcases moved.cases ordered.numbered with ⟨-, keeps⟩ |
    ⟨accepted, _, _, _, _, _, _, _, -, -, fresh, -, -, rfl⟩ |
    ⟨task, teardown, rest, decided, inner, found, todo, at_task, scope, rfl⟩
  · obtain ⟨rotation, found, rewrites⟩ := keeps.rotations process rotation' found'
    cases rewrites with
    | same =>
      refine ⟨agreed.answers process rotation' found, fun outcome verdict => ?_⟩
      rcases verdict with sent | later
      · exact .inl ⟨rotation', found, .inl sent, rfl, rfl⟩
      · exact (unsent found later).imp (fun before => ⟨rotation', found, before, rfl, rfl⟩)
          (fun h => h)
    | @published teardown outcome at_process member =>
      refine ⟨agreed.answers process rotation found, fun outcome' verdict => ?_⟩
      rcases verdict with sent | later
      · obtain rfl := Option.some.inj sent
        exact .inl ⟨rotation, found, .inr ⟨teardown, at_process, member⟩, rfl, rfl⟩
      · exact (unsent found later).imp (fun before => ⟨rotation, found, before, rfl, rfl⟩)
          (fun h => h)
    | asked call =>
      have count := agreed.answers process rotation found
      cases set : rotation.cancelled with
      | true =>
        rw [set] at count
        refine ⟨by simpa using count, fun outcome verdict => ?_⟩
        rcases verdict with sent | later
        · exact .inl ⟨rotation, found, .inl sent, set.symm, rfl⟩
        · refine (unsent found later).imp
            (fun before => ⟨rotation, found, before, set.symm, rfl⟩) ?_
          exact fun decided => ⟨fun _ => rfl, fun _ => decided.2 set⟩
      | false =>
        rw [set] at count
        refine ⟨by simpa using count, fun outcome verdict => ?_⟩
        -- the first call: nothing is decided, and nothing is by this step
        subst call
        have undecided := inTime rotation found set
        rcases verdict with sent | ⟨teardown, at_process, member⟩
        · exact (undecided ⟨rotation, outcome, found, .inl sent⟩).elim
        · cases moved with
          | pendingCancelled =>
            exact (undecided ⟨rotation, outcome, found, .inr ⟨teardown, at_process, member⟩⟩).elim
          | worked _ works => cases works
  · rcases Pool.of_set_eq_some found' with ⟨rfl, rfl⟩ | ⟨apart, old⟩
    · refine ⟨rfl, fun outcome verdict => ?_⟩
      rcases verdict with absurd | ⟨teardown, at_process, member⟩
      · cases absurd
      · obtain rfl := Option.some.inj (Pool.set_self.symm.trans at_process)
        simp at member
    · refine ⟨agreed.answers process rotation' old, fun outcome verdict => ?_⟩
      rcases verdict with sent | later
      · exact .inl ⟨rotation', old, .inl sent, rfl, rfl⟩
      · exact (unsent old later).imp (fun before => ⟨rotation', old, before, rfl, rfl⟩) (fun h => h)
  · have same : (world.conclude inner decided).1.rotations = world.rotations :=
      Ordered.conclude_rotations
    have old : world.rotations process = some rotation' := same ▸ found'
    refine ⟨agreed.answers process rotation' old, fun outcome verdict => ?_⟩
    rcases verdict with sent | later
    · exact .inl ⟨rotation', old, .inl sent, rfl, rfl⟩
    · exact (unsent old later).imp (fun before => ⟨rotation', old, before, rfl, rfl⟩) (fun h => h)

end Agreed

/-! ## Along a run -/

theorem Agreed.of_reaches (reached : scopes.Reaches InTime scopes.init world) : world.Agreed := by
  induction reached with
  | refl => exact .new
  | tail before inTime step ih =>
    exact ih.step (.of_reachable before.reachable) step inTime

/-- What a call of `cancel_pending_new` that returned `true` promises, and what the outcome
says about the calls. -/
structure HonestCancel (world : ScopeWorld) : Prop where
  outcome : ∀ process rotation outcome, world.rotations process = some rotation →
    true ∈ rotation.answers → rotation.wait = some outcome →
    outcome = .cancelled rotation.old rotation.new
  /-- The reserved generation admits nothing after the call. -/
  reserved : ∀ after process rotation, scopes.Reaches InTime world after →
    world.rotations process = some rotation → true ∈ rotation.answers → ∀ executionId,
    after.Admitted rotation.new executionId ↔ world.Admitted rotation.new executionId
  once : ∀ process rotation old reserved, world.rotations process = some rotation →
    rotation.wait = some (.cancelled old reserved) → rotation.answers.count true = 1

theorem Agreed.set_of_answer (agreed : world.Agreed)
    (found : world.rotations process = some rotation) (answer : true ∈ rotation.answers) :
    rotation.cancelled = true := by
  have count := agreed.answers process rotation found
  have positive := List.count_pos_iff.2 answer
  cases set : rotation.cancelled with
  | true => rfl
  | false =>
    rw [set] at count
    simp only [Bool.false_eq_true, if_false] at count
    omega

end ScopeWorld

/-- **`cancel_pending_new` is honest** in every run that calls it in time. -/
theorem cancel_pending_new_honest {world : ScopeWorld}
    (reached : scopes.Reaches ScopeWorld.InTime scopes.init world) : world.HonestCancel := by
  have ordered := ScopeWorld.Ordered.of_reachable reached.reachable
  have agreed := ScopeWorld.Agreed.of_reaches reached
  constructor
  · intro process rotation outcome found answer sent
    have set := agreed.set_of_answer found answer
    exact (agreed.upheld process rotation outcome found (.inl sent) set).1
  · intro after process rotation run found answer executionId
    have set := agreed.set_of_answer found answer
    induction run with
    | refl => exact Iff.rfl
    | @tail middle after action before inTime step ih =>
      have later := ordered.of_reaches before
      refine Iff.trans ⟨fun admitted => ?_, ?_⟩ ih
      · by_contra earlier
        have call := (ScopeWorld.Moved.of_step step).trySpawn_of_admitted earlier admitted
        have admits := (later.effect step).admits_of_origin earlier admitted
        obtain ⟨rotation', found', plan, kept⟩ := ordered.rotation_kept before found
        have set' := kept set
        have reserved := congrArg RotationPlan.new plan
        -- in time, so the rotation is decided, and has closed the generation
        subst call
        obtain ⟨rotation'', outcome, found'', verdict⟩ :=
          inTime admits process rotation' found' reserved set'
        obtain rfl := Option.some.inj (found'.symm.trans found'')
        have middle_agreed := ScopeWorld.Agreed.of_reaches (reached.trans before)
        have shut := (middle_agreed.upheld process rotation' outcome found' verdict set').2
        exact shut.not_admits (reserved ▸ admits)
      · exact (ScopeView.Extends.of_effect (later.effect step)).origin executionId _
  · intro process rotation old reserved found sent
    have set := agreed.cancelled process rotation old reserved found (.inl sent)
    rw [agreed.answers process rotation found, set, if_pos rfl]

/-- A strict rotation whose new generation is cancelled before its supervisor runs. -/
theorem cancel_pending_new_honest_early : ∃ world rotation,
    scopes.Reaches ScopeWorld.InTime scopes.init world ∧ world.HonestCancel ∧
    world.rotations 0 = some rotation ∧ rotation.answers = [true] ∧
    rotation.wait = some (.cancelled 0 1) := by
  let begun : List ScopeAction := [.create 0 0, .rotate 0 0 1 .strict none]
  let ended : List ScopeAction :=
    [.advance 0, .advance 0, .advance 0, .advance 0, .advance 0, .advance 0]
  have accepted : (scopes.exec scopes.init begun).map (fun world =>
      ((world.rotations 0).bind RotationProcess.result, (world.tasks 0).map Teardown.todo)) =
      some (none, some [.start 0 .strict, .decide, .release 0]) := by
    decide +kernel
  have answered : (scopes.exec scopes.init (begun ++ .cancelPendingNew 0 :: ended)).map
      (fun world => (world.rotations 0).map fun rotation =>
        (rotation.answers, rotation.wait)) =
      some (some ([true], some (.cancelled 0 1))) := by
    decide +kernel
  obtain ⟨middle, to_middle, at_middle⟩ := Option.map_eq_some_iff.1 accepted
  obtain ⟨world, to_world, at_world⟩ := Option.map_eq_some_iff.1 answered
  obtain ⟨rotation, found, answers⟩ := Option.map_eq_some_iff.1 at_world
  have quiet : ∀ action ∈ begun ++ ended, ∀ world : ScopeWorld, world.InTime action := by
    intro action member world
    cases action with
    | cancelPendingNew => simp [begun, ended] at member
    | trySpawn => simp [begun, ended] at member
    | _ => trivial
  have first : middle.InTime (.cancelPendingNew 0) := by
    rintro rotation at_process - ⟨rotation', outcome, at_process', sent | ⟨teardown, running, todo⟩⟩
    · rw [at_process'] at at_middle
      exact absurd ((congrArg Prod.fst at_middle).symm.trans sent) (by simp)
    · rw [running] at at_middle
      rw [Option.some.inj (congrArg Prod.snd at_middle)] at todo
      simp at todo
  have reached : scopes.Reaches ScopeWorld.InTime scopes.init world := by
    refine .of_exec to_world ((System.Meets.append to_middle).2 ⟨?_, first, ?_⟩)
    · exact .of_forall_mem (fun action member => quiet action (List.mem_append_left _ member)) _
    · split
      next => trivial
      next =>
        exact .of_forall_mem (fun action member => quiet action (List.mem_append_right _ member)) _
  exact ⟨world, rotation, reached, cancel_pending_new_honest reached, found,
    congrArg Prod.fst answers, congrArg Prod.snd answers⟩

/-- The new generation is cancelled after the rotation: the answer is `true`, the outcome is
`Rotated`. -/
theorem cancel_pending_new_late :
    ¬ ∀ world : ScopeWorld, scopes.Reachable world → world.HonestCancel := by
  intro honest
  have answered : (scopes.exec scopes.init [.create 0 0, .rotate 0 0 1 .strict none, .advance 0,
      .advance 0, .advance 0, .advance 0, .advance 0, .advance 0, .cancelPendingNew 0]).map
      (fun world => (world.rotations 0).map fun rotation =>
        (rotation.answers, rotation.wait)) = some (some ([true], some (.rotated 0 1))) := by
    decide +kernel
  obtain ⟨world, run, at_world⟩ := Option.map_eq_some_iff.1 answered
  obtain ⟨rotation, found, eq⟩ := Option.map_eq_some_iff.1 at_world
  have answers : rotation.answers = [true] := congrArg Prod.fst eq
  have sent : rotation.wait = some (.rotated 0 1) := congrArg Prod.snd eq
  have outcome := (honest world (System.Reaches.of_schedule _ run)).outcome 0 rotation _ found
    (answers ▸ List.mem_singleton_self true) sent
  cases outcome

end BusyBeaver
