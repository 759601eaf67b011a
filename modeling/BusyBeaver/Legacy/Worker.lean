import BusyBeaver.Legacy.State

/-!
# What a legacy section does to the dams

A dam is only ever changed by sections that leave its join handle alone and do not wake a
worker that has exited (`Dam.Follows`).  `Legacy.Ran` is what a section does to the whole: a
new dam is in the map, and what leaves the map is in `left`.
-/

namespace BusyBeaver

/-- A task that has ended takes no step. -/
theorem RunTask.hasEnded_eq_false_of_step {loop : LegacyLoop} {cancelled : Bool}
    {run next : RunTask} {event : DamEvent} (step : run.step loop cancelled event = some next) :
    run.hasEnded = false := by
  cases run with
  | returned => cases event <;> cases step
  | panicked message => cases event <;> cases step
  | dropped => cases event <;> cases step
  | _ => rfl

namespace Dam

variable {dam after : Dam}

/-- A task is only there while the worker joins it, or after the worker has failed. -/
def Tidy (dam : Dam) : Prop :=
  dam.task ≠ none →
    (∃ splash, dam.worker = .joining splash) ∨ ∃ failure, dam.worker = .exited (some failure)

/-- What every section on a dam keeps. -/
structure Follows (dam after : Dam) : Prop where
  handle : after.handle = dam.handle
  tidy : dam.Tidy → after.Tidy
  exited : dam.worker.hasExited = true → after.worker = dam.worker
  finished : dam.isFinished = true → after.isFinished = true

theorem Follows.refl (dam : Dam) : dam.Follows dam :=
  ⟨rfl, id, fun _ => rfl, id⟩

/-- A section that touches neither the worker nor its task. -/
theorem Follows.of_same (handle : after.handle = dam.handle) (worker : after.worker = dam.worker)
    (task : after.task = dam.task) : dam.Follows after where
  handle := handle
  tidy := by
    unfold Tidy
    rw [worker, task]
    exact id
  exited := fun _ => worker
  finished := by
    unfold isFinished
    rw [worker, task]
    exact id

/-- A section of a worker that has not exited. -/
theorem Follows.of_awake (handle : after.handle = dam.handle)
    (awake : dam.worker.hasExited = false) (tidy : dam.Tidy → after.Tidy) :
    dam.Follows after where
  handle := handle
  tidy := tidy
  exited := fun exited => by
    rw [awake] at exited
    cases exited
  finished := fun finished => by
    rw [isFinished, awake] at finished
    cases finished

theorem follows_of_step {fresh : Nat} {step : DamStep} {steps : List DamStep}
    (stepped : dam.step fresh step = .ok (after, steps)) : dam.Follows after := by
  cases step with
  | checkRelease task =>
    simp only [Dam.step] at stepped
    split at stepped
    · cases stepped
    · cases stepped
      exact .refl dam
  | send splash =>
    simp only [Dam.step] at stepped
    split at stepped
    · cases stepped
    · split at stepped
      · cases stepped
      · cases stepped
        exact .of_same rfl rfl rfl
  | cancelCurrent =>
    cases stepped
    cases dam.current with
    | none => exact .refl dam
    | some execution => exact .of_same rfl rfl rfl
  | _ =>
    cases stepped
    exact .of_same rfl rfl rfl

/-- An idle worker that goes on has no task. -/
theorem Tidy.task_eq_none (tidy : dam.Tidy) (idle : ∀ splash, dam.worker ≠ .joining splash)
    (awake : dam.worker.hasExited = false) : dam.task = none := by
  by_contra there
  rcases tidy there with ⟨splash, joining⟩ | ⟨failure, exited⟩
  · exact idle splash joining
  · rw [exited] at awake
    cases awake

theorem Tidy.of_task_eq_none (none : dam.task = none) : dam.Tidy := fun there => (there none).elim

/-- A section of an idle worker starts no task. -/
theorem Follows.of_idle {worker : DamWorker} (here : dam.worker = worker)
    (idle : ∀ splash, worker ≠ .joining splash) (awake : worker.hasExited = false)
    (handle : after.handle = dam.handle) (task : after.task = dam.task) : dam.Follows after := by
  subst here
  exact .of_awake handle awake fun tidy =>
    .of_task_eq_none (task.trans (tidy.task_eq_none idle awake))

/-- The worker of a tidy dam that has exited without a failure leaves no task behind. -/
theorem Tidy.isFinished (tidy : dam.Tidy)
    (exited : dam.worker = .exited none) : dam.isFinished = true := by
  have none : dam.task = none := by
    by_contra there
    rcases tidy there with ⟨splash, joining⟩ | ⟨failure, failed⟩
    · rw [exited] at joining
      cases joining
    · rw [exited] at failed
      cases failed
  simp [Dam.isFinished, exited, none, DamWorker.hasExited]

theorem not_executing (finished : dam.isFinished = true) :
    dam.isExecuting = false := by
  obtain ⟨-, ended⟩ := (Bool.and_eq_true _ _).mp finished
  rw [Dam.isExecuting]
  cases task : dam.task with
  | none => rfl
  | some pair =>
    rw [task] at ended
    obtain ⟨splash, run⟩ := pair
    cases run <;> first | rfl | cases ended

theorem follows_of_joined {splash : Splash} {run : RunTask} {event : DamEvent}
    (awake : dam.worker.hasExited = false) (step : dam.joined splash run event = some after) :
    dam.Follows after := by
  unfold joined at step
  split at step
  · exact Option.some.inj step ▸ .of_awake rfl awake fun _ => .of_task_eq_none rfl
  · exact Option.some.inj step ▸ .of_awake rfl awake fun _ => .of_task_eq_none rfl
  · exact Option.some.inj step ▸ .of_awake rfl awake fun _ => .of_task_eq_none rfl
  · cases step

theorem follows_of_workerStep {event : DamEvent} (step : dam.workerStep event = some after) :
    dam.Follows after := by
  unfold workerStep at step
  split at step
  · rename_i worker
    split at step
    · exact Option.some.inj step ▸ .of_idle worker (by simp) rfl rfl rfl
    · split at step
      · cases step
      · exact Option.some.inj step ▸ .of_idle worker (by simp) rfl rfl rfl
  · rename_i worker
    split at step
    · exact Option.some.inj step ▸ .of_idle worker (by simp) rfl rfl rfl
    · cases step
  · rename_i worker
    split at step
    · cases step
    · exact Option.some.inj step ▸ .of_idle worker (by simp) rfl rfl rfl
  · rename_i worker
    exact Option.some.inj step ▸ .of_idle worker (by simp) rfl rfl rfl
  · rename_i worker
    split at step
    · exact Option.some.inj step ▸ .of_idle worker (by simp) rfl rfl rfl
    · cases step
  · rename_i worker
    split at step
    · cases step
    · exact Option.some.inj step ▸ .of_idle worker (by simp) rfl rfl rfl
  · -- the task is spawned, and the worker joins it
    rename_i splash worker
    obtain rfl := Option.some.inj step
    exact .of_awake rfl (by rw [worker]; rfl) fun _ _ => Or.inl ⟨splash, rfl⟩
  · rename_i worker
    have awake : dam.worker.hasExited = false := by rw [worker]; rfl
    split at step
    · split at step
      · -- the worker is dropped, its task goes on without it
        exact Option.some.inj step ▸ .of_awake rfl awake fun _ _ => Or.inr ⟨_, rfl⟩
      · exact follows_of_joined awake step
    · cases step
  · rename_i worker
    split at step
    · cases step
    · exact Option.some.inj step ▸ .of_idle worker (by simp) rfl rfl rfl
  · rename_i worker
    split at step
    · exact Option.some.inj step ▸ .of_idle worker (by simp) rfl rfl rfl
    · cases step
  · rename_i worker
    exact Option.some.inj step ▸ .of_idle worker (by simp) rfl rfl rfl
  · rename_i worker
    exact Option.some.inj step ▸ .of_idle worker (by simp) rfl rfl rfl
  · split at step
    · rename_i suspended
      have awake : dam.worker.hasExited = false := by
        cases worker : dam.worker with
        | exited failure =>
          rw [worker] at suspended
          cases suspended
        | _ => rfl
      exact Option.some.inj step ▸ .of_awake rfl awake fun _ _ => Or.inr ⟨_, rfl⟩
    · cases step
  · cases step

theorem follows_of_taskStep {event : DamEvent} (step : dam.taskStep event = some after) :
    dam.Follows after := by
  unfold taskStep at step
  split at step
  · cases step
  · rename_i splash run task
    obtain ⟨next, moved, rfl⟩ := Option.map_eq_some_iff.1 step
    have unended := RunTask.hasEnded_eq_false_of_step moved
    have follows : ∀ after : Dam, after.handle = dam.handle → after.worker = dam.worker →
        dam.Follows after := by
      intro after handle worker
      refine ⟨handle, fun tidy _ => ?_, fun _ => worker, fun finished => ?_⟩
      · rw [worker]
        exact tidy (by simp [task])
      · simp [isFinished, task, unended] at finished
    split
    · exact follows _ rfl rfl
    · exact follows _ rfl rfl
    · exact follows _ rfl rfl

end Dam

namespace Legacy

variable {legacy after : Legacy} {running : Bool}

/-- What one section does to the dams and to the map; only a running `Beaver` makes dams. -/
structure Ran (running : Bool) (legacy after : Legacy) : Prop where
  default : after.default = legacy.default
  dams : ∀ (i : Nat) (dam : Dam), legacy.dams[i]? = some dam →
    ∃ dam', after.dams[i]? = some dam' ∧ dam.Follows dam'
  fresh : ∀ (i : Nat) (dam : Dam), legacy.dams.length ≤ i → after.dams[i]? = some dam →
    running = true ∧
    (∃ entry ∈ after.named, entry.dam = i) ∧ ∃ capacity, dam = .withHandle capacity
  named : ∀ entry ∈ legacy.named, (∃ entry' ∈ after.named, entry'.dam = entry.dam) ∨
    entry.dam ∈ after.left
  empty : running = false → legacy.named = [] → after.named = []
  left : ∀ i ∈ legacy.left, i ∈ after.left

/-- A section that keeps the dams and the map. -/
theorem Ran.of_same (default : after.default = legacy.default) (dams : after.dams = legacy.dams)
    (named : after.named = legacy.named) (left : after.left = legacy.left) :
    Ran running legacy after where
  default := default
  dams := fun i dam found => ⟨dam, dams ▸ found, .refl dam⟩
  fresh := fun i dam new found => by
    rw [dams, List.getElem?_eq_none new] at found
    cases found
  named := fun entry member => Or.inl ⟨entry, named ▸ member, rfl⟩
  empty := fun _ none => named.trans none
  left := fun i member => left ▸ member

theorem Ran.refl (running : Bool) (legacy : Legacy) : Ran running legacy legacy :=
  .of_same rfl rfl rfl rfl

/-- A section on one dam. -/
theorem Ran.of_dam {i : Nat} {found dam : Dam} (there : legacy.dams[i]? = some found)
    (follows : found.Follows dam) (default : after.default = legacy.default)
    (dams : after.dams = legacy.dams.set i dam) (named : after.named = legacy.named)
    (left : after.left = legacy.left) : Ran running legacy after where
  default := default
  dams := fun j other here => by
    by_cases same : i = j
    · subst same
      obtain rfl := Option.some.inj (there.symm.trans here)
      have bound := (List.getElem?_eq_some_iff.1 there).1
      exact ⟨dam, by rw [dams, List.getElem?_set_self bound], follows⟩
    · exact ⟨other, by rw [dams, List.getElem?_set_ne same, here], .refl other⟩
  fresh := fun j other new here => by
    rw [dams, List.getElem?_eq_none (by simpa using new)] at here
    cases here
  named := fun entry member => Or.inl ⟨entry, named ▸ member, rfl⟩
  empty := fun _ none => named.trans none
  left := fun j member => left ▸ member

/-- A section that takes entries out of the map. -/
theorem Ran.of_takeNamed {taken : NamedEntry → Bool}
    (default : after.default = legacy.default) (dams : after.dams = legacy.dams)
    (named : after.named = (legacy.takeNamed taken).1.named)
    (left : after.left = (legacy.takeNamed taken).1.left) : Ran running legacy after where
  default := default
  dams := fun i dam found => ⟨dam, dams ▸ found, .refl dam⟩
  fresh := fun i dam new found => by
    rw [dams, List.getElem?_eq_none new] at found
    cases found
  named := fun entry member => by
    rw [named, left]
    cases gone : taken entry with
    | true =>
      exact Or.inr (List.mem_append_right _
        (List.mem_map_of_mem (List.mem_filter.2 ⟨member, gone⟩)))
    | false => exact Or.inl ⟨entry, List.mem_filter.2 ⟨member, by rw [gone]; rfl⟩, rfl⟩
  empty := fun _ none => by
    rw [named, takeNamed, none]
    rfl
  left := fun i member => by
    rw [left]
    exact List.mem_append_left _ member

theorem ran_enqueue (legacy : Legacy) (running : Bool) (task : LegacyTask) :
    Ran running legacy (legacy.enqueue running task) := by
  unfold enqueue
  split
  · exact .of_same rfl rfl rfl rfl
  · split
    · exact .of_same rfl rfl rfl rfl
    · exact .of_same rfl rfl rfl rfl

theorem ran_enqueueOnNewThread (legacy : Legacy) (running : Bool) (task : LegacyTask)
    (name : String) (buffer : Nat) (longResident : Bool) :
    Ran running legacy
      (legacy.enqueueOnNewThread running task name buffer longResident) := by
  unfold enqueueOnNewThread
  split
  · exact .of_same rfl rfl rfl rfl
  · rename_i notRunning
    have running : running = true := by simpa using notRunning
    split
    · rename_i entry found
      refine ⟨rfl, fun i dam found => ⟨dam, found, .refl dam⟩, fun i dam new found => ?_,
        fun other member => Or.inl ⟨_, List.mem_map_of_mem member, ?_⟩, fun stopped => ?_,
        fun i member => member⟩
      · rw [begin, List.getElem?_eq_none new] at found
        cases found
      · unfold NamedEntry.setResident
        split <;> rfl
      · rw [running] at stopped
        cases stopped
    · refine ⟨rfl, fun i dam found => ⟨dam, ?_, .refl dam⟩, fun i dam new found => ?_,
        fun other member => Or.inl ⟨other, List.mem_append_left _ member, rfl⟩,
        fun stopped => ?_, fun i member => member⟩
      · exact List.getElem?_append_left (List.getElem?_eq_some_iff.1 found).1 ▸ found
      · have last : i = legacy.dams.length := by
          have bound := (List.getElem?_eq_some_iff.1 found).1
          simp only [List.length_append, List.length_singleton] at bound
          omega
        subst last
        rw [List.getElem?_concat_length] at found
        exact ⟨running, ⟨_, List.mem_append_right _ (List.mem_singleton.2 rfl), rfl⟩, buffer,
          (Option.some.inj found).symm⟩
      · rw [running] at stopped
        cases stopped

theorem ran_of_damStep {i : Nat} {step : DamStep} {steps : List DamStep}
    (stepped : legacy.damStep i step = some (.ok (after, steps))) : Ran running legacy after := by
  unfold damStep at stepped
  obtain ⟨found, there, result⟩ := Option.map_eq_some_iff.1 stepped
  split at result
  · cases result
  · rename_i dam steps moved
    cases result
    exact .of_dam there (Dam.follows_of_step moved) rfl rfl rfl rfl

theorem Ran.setCall {call : Nat} {record : LegacyCall} (ran : Ran running legacy after) :
    Ran running legacy (after.setCall call record) :=
  ⟨ran.default, ran.dams, ran.fresh, ran.named, ran.empty, ran.left⟩

theorem ran_of_advance {call : Nat} {dams : List Nat}
    (step : legacy.advance call dams = some after) : Ran running legacy after := by
  unfold advance at step
  split at step
  · exact Option.some.inj step ▸ .of_same rfl rfl rfl rfl
  · obtain ⟨-, same⟩ := Option.ite_none_right_eq_some.1 step
    exact Option.some.inj same ▸ .of_takeNamed rfl rfl rfl rfl
  · obtain ⟨-, same⟩ := Option.ite_none_right_eq_some.1 step
    exact Option.some.inj same ▸ .of_takeNamed rfl rfl rfl rfl
  · obtain ⟨-, same⟩ := Option.ite_none_right_eq_some.1 step
    exact Option.some.inj same ▸ .of_takeNamed rfl rfl rfl rfl
  · obtain ⟨result, stepped, rfl⟩ := Option.map_eq_some_iff.1 step
    cases result with
    | error error => exact .of_same rfl rfl rfl rfl
    | ok pair => exact (ran_of_damStep stepped).setCall
  · cases step

theorem ran_of_dropDam {supervised : List Nat} {i : Nat}
    (step : legacy.dropDam supervised i = some after) : Ran running legacy after := by
  unfold dropDam at step
  split at step
  · rename_i found there
    split at step
    · cases step
    · obtain rfl := Option.some.inj step
      have follows : found.Follows { found with dropped := true } := .of_same rfl rfl rfl
      exact .of_dam there follows rfl rfl rfl rfl
  · cases step

theorem ran_of_runDam {i : Nat} {step : Dam → Option Dam}
    (follows : ∀ dam dam', step dam = some dam' → dam.Follows dam')
    (stepped : legacy.runDam i step = some after) : Ran running legacy after := by
  obtain ⟨found, there, moved⟩ := Option.bind_eq_some_iff.1 stepped
  obtain ⟨dam, ran, rfl⟩ := Option.map_eq_some_iff.1 moved
  exact .of_dam there (follows found dam ran) rfl rfl rfl rfl

end Legacy

end BusyBeaver
