import BusyBeaver.Legacy.Life
import BusyBeaver.Legacy.Calls

/-!
# The verdicts of a dam

Any number of `enqueue`, `cancel_all` and `release` calls run against one dam and its worker,
on a runtime that is not shut down.  Each execution lives the life of one task (`Tracks`): the
sections of calls, worker and task are steps of the life of the execution they are about, and
leave the others alone.  So what holds of one life holds of the trace of each execution in
every run.
-/

namespace BusyBeaver

open Transition

inductive DamUse : Type
  | act (action : DamAction)
  | release
  deriving DecidableEq, Repr

/-- A section; the runtime drops neither the worker nor the task. -/
def DamRun.use (run : DamRun) : DamUse → Option DamRun
  | .release => some (run.begin Dam.release)
  | .act action =>
    if action = .worker .drop ∨ action = .task .drop then none else run.step action

/-- All runs of a dam, with its release. -/
def damUses (capacity : Nat) : System DamRun DamUse := ⟨.new capacity, DamRun.use⟩

/-! ## The traces -/

namespace Dam

/-- `on_interrupt` runs, unless it has. -/
def noteInterrupt (dam : Dam) (execution : Nat) : Option (Nat × LegacyNote) :=
  if execution ∈ dam.interruptNotified then none else some (execution, .onInterrupt)

def workerNote (dam : Dam) (event : DamEvent) : Option (Nat × LegacyNote) :=
  match dam.worker, event with
  | .received splash, .callback _ | .published splash, .callback _
  | .healing splash, .callback _ => dam.noteInterrupt splash.execution
  | .joining splash, .callback _ =>
    match dam.task with
    | some (_, .panicked message) =>
      some (splash.execution, .onError (.taskExecutionFailed message))
    | _ => none
  | _, _ => none

def taskNote (dam : Dam) (event : DamEvent) : Option (Nat × LegacyNote) :=
  match dam.task with
  | none => none
  | some (splash, .interrupting) =>
    match event with
    | .callback _ => dam.noteInterrupt splash.execution
    | _ => none
  | some (splash, run) =>
    ((run.step splash.task.loop (decide (splash.execution ∈ dam.cancelled)) event).bind
      (run.note event)).map fun note => (splash.execution, note)

end Dam

/-- What an action lets be seen, and of which execution. -/
def DamRun.note (run : DamRun) : DamUse → Option (Nat × LegacyNote)
  | .act (.worker event) => run.dam.workerNote event
  | .act (.task event) => run.dam.taskNote event
  | _ => none

/-- The part of a log that is about one execution. -/
def traceOf (execution : Nat) (log : List (Nat × LegacyNote)) : List LegacyNote :=
  (log.filter fun entry => decide (entry.1 = execution)).map Prod.snd

/-- What is seen of an execution in a run. -/
def damTrace (capacity : Nat) (actions : List DamUse) (execution : Nat) : List LegacyNote :=
  traceOf execution ((damUses capacity).outputs DamRun.note (damUses capacity).init actions)

/-- The action is the section of `enqueue` call `i` that puts its task into the channel. -/
def Accepts (i : Nat) (task : LegacyTask) (run : DamRun) (action : DamUse) : Prop :=
  action = .act (.advance i) ∧ ∃ splash rest after steps,
    run.calls[i]? = some (.send splash :: rest) ∧ splash.task = task ∧
      run.dam.step i (.send splash) = .ok (after, steps)

/-- The `enqueue` call `i` of the run has returned `Ok`. -/
def Accepted (capacity : Nat) (actions : List DamUse) (i : Nat) (task : LegacyTask) : Prop :=
  (damUses capacity).Happened (Accepts i task) (damUses capacity).init actions

/-! ## Where an execution stands -/

/-- The splash in the worker's hands. -/
def DamWorker.splash : DamWorker → Option Splash
  | .receiving | .exited _ => none
  | .received splash | .publishing splash | .published splash | .spawning splash
  | .joining splash | .healing splash | .clearing splash => some splash

namespace Dam

/-- The executions in the worker's hands and in the channel. -/
def executions (dam : Dam) : List Nat :=
  (dam.worker.splash.toList ++ dam.queue).map Splash.execution

/-- The life of what the worker has in its hands. -/
def heldLife (dam : Dam) : Option LegacyLife :=
  match dam.worker with
  | .receiving | .exited _ => none
  | .received splash | .publishing splash | .published splash => some (.received splash.task)
  | .spawning splash => some (.spawning splash.task)
  | .joining splash => dam.task.map fun task => .running splash.task task.2
  | .healing splash => some (.healing splash.task)
  | .clearing splash => some (.gone splash.task)

end Dam

/-- The callbacks of the life are over. -/
def LegacyLife.settled : LegacyLife → Bool
  | .running _ .returned | .gone _ => true
  | _ => false

/-- The section is on the way of `enqueue` to the channel. -/
def DamStep.sends : DamStep → Bool
  | .checkRelease _ | .stamp _ | .send _ => true
  | _ => false

/-- Call `i` has its send before it. -/
def Due (calls : List (List DamStep)) (i : Nat) : Prop :=
  ∀ steps, calls[i]? = some steps → ∃ step ∈ steps, step.sends = true

/-- What call `i` has still to do. -/
inductive Programme (i : Nat) : List DamStep → Prop
  | check (task : LegacyTask) : Programme i [.checkRelease task]
  | stamp (task : LegacyTask) : Programme i [.stamp task]
  | send (splash : Splash) (own : splash.execution = i) : Programme i [.send splash]
  | other {steps : List DamStep} (quiet : ∀ step ∈ steps, step.sends = false) : Programme i steps

/-- Execution `i` is at this point of its life. -/
inductive Stands (run : DamRun) (i : Nat) : LegacyLife → Prop
  | ahead (absent : i ∉ run.dam.executions) (unnotified : i ∉ run.dam.interruptNotified) :
    Stands run i .ahead
  | queued {splash : Splash} (there : splash ∈ run.dam.queue) (own : splash.execution = i)
      (unnotified : i ∉ run.dam.interruptNotified) (sent : ¬ Due run.calls i) :
    Stands run i (.queued splash.task)
  | held {splash : Splash} {life : LegacyLife} (there : run.dam.worker.splash = some splash)
      (own : splash.execution = i) (here : run.dam.heldLife = some life)
      (notified : i ∈ run.dam.interruptNotified → life.settled = true)
      (sent : ¬ Due run.calls i) :
    Stands run i life
  | gone {task : LegacyTask} (absent : i ∉ run.dam.executions) (sent : ¬ Due run.calls i) :
    Stands run i (.gone task)

/-- The task belongs to the worker that joins it, and has not been dropped. -/
def Dam.Owns (dam : Dam) : Prop :=
  ∀ splash run, dam.task = some (splash, run) → dam.worker = .joining splash ∧ run ≠ .dropped

theorem Dam.Owns.task_eq_none {dam : Dam} {worker : DamWorker} (owns : dam.Owns)
    (here : dam.worker = worker) (apart : ∀ splash, worker ≠ .joining splash) :
    dam.task = none := by
  cases there : dam.task with
  | none => rfl
  | some task => exact absurd (here.symm.trans (owns task.1 task.2 there).1) (apart task.1)

theorem Dam.Owns.of_task_eq_none {dam : Dam} (taskless : dam.task = none) : dam.Owns := by
  intro splash run there
  rw [taskless] at there
  cases there

/-- Each execution lives. -/
structure Tracks (log : List (Nat × LegacyNote)) (accepted : Nat → LegacyTask → Prop)
    (run : DamRun) : Prop where
  programmes : ∀ i steps, run.calls[i]? = some steps → Programme i steps
  distinct : run.dam.executions.Nodup
  owns : run.dam.Owns
  lives : ∀ i, ∃ life, Lives (traceOf i log) life ∧ Stands run i life ∧
    ∀ task, accepted i task → life.task = some task

section Tracking

variable {log : List (Nat × LegacyNote)} {accepted : Nat → LegacyTask → Prop} {run after : DamRun}
  {dam : Dam} {calls : List (List DamStep)} {splash : Splash} {life next : LegacyLife}
  {note : Option LegacyNote} {i c : Nat}

/-! ### Calls and traces -/

theorem traceOf_append (log more : List (Nat × LegacyNote)) :
    traceOf i (log ++ more) = traceOf i log ++ traceOf i more := by
  rw [traceOf, List.filter_append, List.map_append]
  rfl

theorem traceOf_own (note : Option LegacyNote) :
    traceOf i (note.map fun found => (i, found)).toList = note.toList := by
  cases note with
  | none => rfl
  | some found => simp [traceOf]

theorem traceOf_other (apart : i ≠ c) (note : Option LegacyNote) :
    traceOf i (note.map fun found => (c, found)).toList = [] := by
  cases note with
  | none => rfl
  | some found => simp [traceOf, Ne.symm apart]

theorem not_due_iff :
    ¬ Due calls i ↔ ∃ steps, calls[i]? = some steps ∧ ∀ step ∈ steps, step.sends = false := by
  simp only [Due, not_forall, not_exists, not_and, Bool.not_eq_true, exists_prop]

/-- The program of another call does not matter. -/
theorem due_set_ne {steps : List DamStep} (apart : i ≠ c) :
    Due (calls.set c steps) i ↔ Due calls i := by
  unfold Due
  rw [List.getElem?_set_ne (Ne.symm apart)]

theorem not_due_set {old new : List DamStep} (found : calls[c]? = some old)
    (kept : (∀ step ∈ old, step.sends = false) → ∀ step ∈ new, step.sends = false)
    (sent : ¬ Due calls i) : ¬ Due (calls.set c new) i := by
  by_cases same : i = c
  · subst same
    obtain ⟨steps, there, quiet⟩ := not_due_iff.1 sent
    obtain rfl := Option.some.inj (found.symm.trans there)
    obtain ⟨within, -⟩ := List.getElem?_eq_some_iff.1 found
    exact not_due_iff.2 ⟨new, List.getElem?_set_self within, kept quiet⟩
  · rwa [due_set_ne same]

theorem not_due_append {steps : List DamStep} (sent : ¬ Due calls i) :
    ¬ Due (calls ++ [steps]) i := by
  obtain ⟨own, there, quiet⟩ := not_due_iff.1 sent
  obtain ⟨within, -⟩ := List.getElem?_eq_some_iff.1 there
  exact not_due_iff.2 ⟨own, (List.getElem?_append_left within).trans there, quiet⟩

/-- The same cells, and no send that was not there before. -/
theorem Stands.congr (stands : Stands run i life) (queue : after.dam.queue = run.dam.queue)
    (worker : after.dam.worker.splash = run.dam.worker.splash)
    (held : after.dam.heldLife = run.dam.heldLife)
    (notified : after.dam.interruptNotified = run.dam.interruptNotified)
    (sent : ¬ Due run.calls i → ¬ Due after.calls i) : Stands after i life := by
  have same : after.dam.executions = run.dam.executions := by
    rw [Dam.executions, Dam.executions, queue, worker]
  cases stands with
  | ahead absent unnotified => exact .ahead (same ▸ absent) (notified ▸ unnotified)
  | queued there own unnotified due =>
    exact .queued (queue ▸ there) own (notified ▸ unnotified) (sent due)
  | held there own here settled due =>
    exact .held (worker.trans there) own (held.trans here) (notified ▸ settled) (sent due)
  | gone absent due => exact .gone (same ▸ absent) (sent due)

/-- A section that changes neither the channel nor what the worker holds. -/
theorem Tracks.still (tracks : Tracks log accepted run)
    (programmes : ∀ i steps, after.calls[i]? = some steps → Programme i steps)
    (queue : after.dam.queue = run.dam.queue) (worker : after.dam.worker = run.dam.worker)
    (task : after.dam.task = run.dam.task)
    (notified : after.dam.interruptNotified = run.dam.interruptNotified)
    (sent : ∀ i, ¬ Due run.calls i → ¬ Due after.calls i) : Tracks log accepted after where
  programmes := programmes
  distinct := by
    rw [Dam.executions, queue, worker]
    exact tracks.distinct
  owns := by
    rw [Dam.Owns, task, worker]
    exact tracks.owns
  lives := by
    intro i
    obtain ⟨life, lives, stands, known⟩ := tracks.lives i
    have held : after.dam.heldLife = run.dam.heldLife := by
      rw [Dam.heldLife, Dam.heldLife, worker, task]
    exact ⟨life, lives, stands.congr queue (congrArg DamWorker.splash worker) held notified
      (sent i), known⟩

theorem Tracks.begin {steps : List DamStep} (tracks : Tracks log accepted run)
    (programme : Programme run.calls.length steps) : Tracks log accepted (run.begin steps) := by
  refine tracks.still ?_ rfl rfl rfl rfl fun i => not_due_append
  intro i found there
  rcases Nat.lt_or_ge i run.calls.length with earlier | later
  · rw [DamRun.begin, List.getElem?_append_left earlier] at there
    exact tracks.programmes i found there
  · rw [DamRun.begin, List.getElem?_append_right later, List.getElem?_singleton] at there
    split at there
    · rename_i first
      obtain rfl := Option.some.inj there
      obtain rfl : i = run.calls.length := by omega
      exact programme
    · cases there

/-- A call goes on, or gives up. -/
theorem programme_set {new : List DamStep}
    (programmes : ∀ i steps, calls[i]? = some steps → Programme i steps)
    (programme : Programme c new) :
    ∀ i steps, (calls.set c new)[i]? = some steps → Programme i steps := by
  intro i steps there
  by_cases same : i = c
  · subst same
    have within : i < calls.length := by
      obtain ⟨within, -⟩ := List.getElem?_eq_some_iff.1 there
      simpa using within
    rw [List.getElem?_set_self within] at there
    obtain rfl := Option.some.inj there
    exact programme
  · rw [List.getElem?_set_ne (Ne.symm same)] at there
    exact programmes i steps there

theorem programme_nil (c : Nat) : Programme c [] :=
  .other fun _ absent => absurd absent List.not_mem_nil

/-- What follows a section that is not the send. -/
theorem programme_of_step {step : DamStep} {rest steps : List DamStep}
    (programme : Programme c (step :: rest)) (other : ∀ splash, step ≠ .send splash)
    (moved : run.dam.step c step = .ok (dam, steps)) :
    Programme c (steps ++ rest) ∧
      ((∀ found ∈ step :: rest, found.sends = false) →
        ∀ found ∈ steps ++ rest, found.sends = false) ∧
      dam.queue = run.dam.queue ∧ dam.worker = run.dam.worker ∧ dam.task = run.dam.task ∧
        dam.interruptNotified = run.dam.interruptNotified := by
  cases programme with
  | check task =>
    simp only [Dam.step] at moved
    split at moved
    · cases moved
    · cases moved
      refine ⟨.stamp task, fun quiet => ?_, rfl, rfl, rfl, rfl⟩
      exact absurd (quiet _ List.mem_cons_self) (by simp [DamStep.sends])
  | stamp task =>
    cases moved
    refine ⟨.send _ rfl, fun quiet => ?_, rfl, rfl, rfl, rfl⟩
    exact absurd (quiet _ List.mem_cons_self) (by simp [DamStep.sends])
  | send splash _ => exact absurd rfl (other splash)
  | other quiet =>
    have own := quiet step List.mem_cons_self
    have later : ∀ found ∈ rest, found.sends = false := fun found there =>
      quiet found (List.mem_cons_of_mem _ there)
    cases step with
    | checkRelease _ => cases own
    | stamp _ => cases own
    | send _ => cases own
    | loadSeq =>
      cases moved
      have all : ∀ found ∈ DamStep.raise run.dam.enqueueSeq :: rest, found.sends = false :=
        List.forall_mem_cons.2 ⟨rfl, later⟩
      exact ⟨.other all, fun _ => all, rfl, rfl, rfl, rfl⟩
    | cancelCurrent =>
      cases moved
      have same : (run.dam.current.elim run.dam run.dam.cancel).queue = run.dam.queue ∧
          (run.dam.current.elim run.dam run.dam.cancel).worker = run.dam.worker ∧
          (run.dam.current.elim run.dam run.dam.cancel).task = run.dam.task ∧
          (run.dam.current.elim run.dam run.dam.cancel).interruptNotified =
            run.dam.interruptNotified := by
        cases run.dam.current <;> exact ⟨rfl, rfl, rfl, rfl⟩
      exact ⟨.other later, fun _ => later, same⟩
    | _ =>
      cases moved
      exact ⟨.other later, fun _ => later, rfl, rfl, rfl, rfl⟩

/-- A call that has its send before it is not in the channel yet. -/
theorem Stands.eq_ahead (stands : Stands run i life) (due : Due run.calls i) :
    life = .ahead ∧ i ∉ run.dam.executions ∧ i ∉ run.dam.interruptNotified := by
  cases stands with
  | ahead absent unnotified => exact ⟨rfl, absent, unnotified⟩
  | queued _ _ _ sent => exact absurd due sent
  | held _ _ _ _ sent => exact absurd due sent
  | gone _ sent => exact absurd due sent

/-- One more task in the channel. -/
theorem Stands.longer (stands : Stands run i life) (apart : i ≠ splash.execution)
    (sent : ¬ Due run.calls i → ¬ Due calls i) :
    Stands ⟨{ run.dam with queue := run.dam.queue ++ [splash] }, calls⟩ i life := by
  have absent_of (absent : i ∉ run.dam.executions) :
      i ∉ Dam.executions { run.dam with queue := run.dam.queue ++ [splash] } := by
    simp only [Dam.executions, List.map_append, List.mem_append, List.map_cons, List.map_nil,
      List.mem_singleton] at absent ⊢
    rintro (held | queued | last)
    · exact absent (.inl held)
    · exact absent (.inr queued)
    · exact apart last
  cases stands with
  | ahead absent unnotified => exact .ahead (absent_of absent) unnotified
  | queued there own unnotified due =>
    exact .queued (List.mem_append_left _ there) own unnotified (sent due)
  | held there own here settled due => exact .held there own here settled (sent due)
  | gone absent due => exact .gone (absent_of absent) (sent due)

/-- The send of `enqueue`: the task is in the channel, and its life begins. -/
theorem Tracks.send {rest steps : List DamStep} (tracks : Tracks log accepted run)
    (found : run.calls[c]? = some (.send splash :: rest))
    (moved : run.dam.step c (.send splash) = .ok (dam, steps)) :
    Tracks log (fun i task => accepted i task ∨ i = c ∧ task = splash.task)
      ⟨dam, run.calls.set c (steps ++ rest)⟩ := by
  obtain ⟨own, rfl⟩ : splash.execution = c ∧ rest = [] := by
    cases tracks.programmes c _ found with
    | send _ own => exact ⟨own, rfl⟩
    | other quiet => exact absurd (quiet _ List.mem_cons_self) (by simp [DamStep.sends])
  have due : Due run.calls c := by
    intro own there
    obtain rfl := Option.some.inj (found.symm.trans there)
    exact ⟨_, List.mem_cons_self, rfl⟩
  obtain ⟨rfl, rfl⟩ : dam = { run.dam with queue := run.dam.queue ++ [splash] } ∧ steps = [] := by
    simp only [Dam.step] at moved
    split at moved
    · cases moved
    · split at moved
      · cases moved
      · cases moved
        exact ⟨rfl, rfl⟩
  have absent : c ∉ run.dam.executions := by
    obtain ⟨life, -, stands, -⟩ := tracks.lives c
    exact (stands.eq_ahead due).2.1
  have kept : (∀ step ∈ [DamStep.send splash], step.sends = false) →
      ∀ step ∈ ([] : List DamStep), step.sends = false :=
    fun _ _ none_ => absurd none_ List.not_mem_nil
  constructor
  · exact programme_set tracks.programmes (programme_nil c)
  · have grown : Dam.executions { run.dam with queue := run.dam.queue ++ [splash] } =
        run.dam.executions ++ [c] := by
      simp [Dam.executions, own]
    rw [grown]
    refine List.nodup_append.2 ⟨tracks.distinct, List.nodup_singleton c, ?_⟩
    rintro one there other last rfl
    exact absent (List.mem_singleton.1 last ▸ there)
  · exact tracks.owns
  · intro i
    obtain ⟨life, lives, stands, known⟩ := tracks.lives i
    by_cases same : i = c
    · subst same
      obtain ⟨rfl, -, unnotified⟩ := stands.eq_ahead due
      refine ⟨.queued splash.task, ?_, ?_, ?_⟩
      · have begun := lives.step (.send splash.task)
        rwa [Option.toList_none, List.append_nil] at begun
      · refine .queued (List.mem_append_right _ List.mem_cons_self) own unnotified ?_
        obtain ⟨within, -⟩ := List.getElem?_eq_some_iff.1 found
        exact not_due_iff.2 ⟨[], List.getElem?_set_self within, fun _ none_ =>
          absurd none_ List.not_mem_nil⟩
      · rintro task (earlier | ⟨-, rfl⟩)
        · cases known task earlier
        · rfl
    · refine ⟨life, lives, stands.longer (own ▸ same) (not_due_set found kept), ?_⟩
      rintro task (earlier | ⟨here, -⟩)
      · exact known task earlier
      · exact absurd here same

theorem Tracks.mono {accepted' : Nat → LegacyTask → Prop} (tracks : Tracks log accepted run)
    (fewer : ∀ i task, accepted' i task → accepted i task) : Tracks log accepted' run where
  programmes := tracks.programmes
  distinct := tracks.distinct
  owns := tracks.owns
  lives := by
    intro i
    obtain ⟨life, lives, stands, known⟩ := tracks.lives i
    exact ⟨life, lives, stands, fun task accepts => known task (fewer i task accepts)⟩

/-- **Step lemma**, for a section of a call. -/
theorem Tracks.advance {step : DamStep} {rest : List DamStep} (tracks : Tracks log accepted run)
    (found : run.calls[c]? = some (step :: rest)) :
    Tracks log (fun i task => accepted i task ∨ Accepts i task run (.act (.advance c)))
      (run.advance c step rest) := by
  unfold DamRun.advance
  cases moved : run.dam.step c step with
  | error error =>
    have given : Tracks log accepted { run with calls := run.calls.set c [] } := by
      refine tracks.still (programme_set tracks.programmes (programme_nil c)) rfl rfl rfl rfl ?_
      intro i
      exact not_due_set found fun _ _ none_ => absurd none_ List.not_mem_nil
    refine given.mono ?_
    rintro i task (earlier | ⟨same, splash, more, dam, steps, there, -, sent⟩)
    · exact earlier
    · cases same
      rw [found] at there
      cases there
      rw [moved] at sent
      cases sent
  | ok result =>
    obtain ⟨dam, steps⟩ := result
    by_cases send : ∃ splash, step = .send splash
    · obtain ⟨splash, rfl⟩ := send
      refine (tracks.send found moved).mono ?_
      rintro i task (earlier | ⟨same, other, more, after, steps', there, own, -⟩)
      · exact .inl earlier
      · cases same
        rw [found] at there
        cases there
        exact .inr ⟨rfl, own.symm⟩
    · have other : ∀ splash, step ≠ .send splash := fun splash same => send ⟨splash, same⟩
      obtain ⟨programme, kept, queue, worker, task, notified⟩ :=
        programme_of_step (tracks.programmes c _ found) other moved
      have given : Tracks log accepted ⟨dam, run.calls.set c (steps ++ rest)⟩ :=
        tracks.still (programme_set tracks.programmes programme) queue worker task notified
          fun i => not_due_set found kept
      refine given.mono ?_
      rintro i task (earlier | ⟨same, splash, more, after, steps', there, -, -⟩)
      · exact earlier
      · cases same
        rw [found] at there
        cases there
        exact absurd rfl (other splash)

/-! ### The worker -/

/-- What the worker holds is in no other place. -/
theorem Stands.of_held (stands : Stands run splash.execution life)
    (distinct : run.dam.executions.Nodup) (here : run.dam.worker.splash = some splash) :
    run.dam.heldLife = some life ∧
      (splash.execution ∈ run.dam.interruptNotified → life.settled = true) ∧
        ¬ Due run.calls splash.execution := by
  have shape : run.dam.executions =
      splash.execution :: run.dam.queue.map Splash.execution := by
    rw [Dam.executions, here]
    rfl
  cases stands with
  | ahead absent _ => exact absurd (shape ▸ List.mem_cons_self) absent
  | queued there own _ _ =>
    rw [shape] at distinct
    have twice : splash.execution ∈ run.dam.queue.map Splash.execution :=
      List.mem_map.2 ⟨_, there, own⟩
    exact absurd twice (List.nodup_cons.1 distinct).1
  | held _ _ life settled sent => exact ⟨life, settled, sent⟩
  | gone absent _ => exact absurd (shape ▸ List.mem_cons_self) absent

/-- The other executions stay where they are. -/
theorem Stands.beside (stands : Stands run i life) (apart : i ≠ splash.execution)
    (here : run.dam.worker.splash = some splash) (queue : dam.queue = run.dam.queue)
    (there : dam.worker.splash = some splash ∨ dam.worker.splash = none)
    (notified : i ∈ dam.interruptNotified → i ∈ run.dam.interruptNotified) :
    Stands { run with dam := dam } i life := by
  have absent_of (absent : i ∉ run.dam.executions) : i ∉ dam.executions := by
    rw [Dam.executions, here] at absent
    rw [Dam.executions, queue]
    rcases there with same | none_
    · rw [same]
      exact absent
    · rw [none_]
      exact fun queued => absent (List.mem_cons_of_mem _ queued)
  cases stands with
  | ahead absent unnotified =>
    exact .ahead (absent_of absent) fun told => unnotified (notified told)
  | queued there own unnotified due =>
    exact .queued (queue ▸ there) own (fun told => unnotified (notified told)) due
  | held other own _ _ _ =>
    obtain rfl := Option.some.inj (here.symm.trans other)
    exact absurd own.symm apart
  | gone absent due => exact .gone (absent_of absent) due

/-- **Step lemma**, for what the worker holds: its life goes on, or it is let go. -/
theorem Tracks.hold (tracks : Tracks log accepted run)
    (here : run.dam.worker.splash = some splash) (queue : dam.queue = run.dam.queue)
    (others : ∀ i, i ≠ splash.execution → i ∈ dam.interruptNotified →
      i ∈ run.dam.interruptNotified)
    (owns : dam.Owns)
    (moves : ∀ life, run.dam.heldLife = some life →
      (splash.execution ∈ run.dam.interruptNotified → life.settled = true) →
      ∃ next, (life.Step note next ∨ note = none ∧ next = life) ∧
        (dam.worker.splash = some splash ∧ dam.heldLife = some next ∧
            (splash.execution ∈ dam.interruptNotified → next.settled = true) ∨
          dam.worker.splash = none ∧ ∃ task, next = .gone task)) :
    Tracks (log ++ (note.map fun found => (splash.execution, found)).toList) accepted
      { run with dam := dam } := by
  have there : dam.worker.splash = some splash ∨ dam.worker.splash = none := by
    obtain ⟨life, -, stands, -⟩ := tracks.lives splash.execution
    obtain ⟨held, settled, -⟩ := stands.of_held tracks.distinct here
    obtain ⟨-, -, ⟨same, -⟩ | ⟨none_, -⟩⟩ := moves life held settled
    · exact .inl same
    · exact .inr none_
  constructor
  · exact tracks.programmes
  · have distinct := tracks.distinct
    rw [Dam.executions, here] at distinct
    show dam.executions.Nodup
    rw [Dam.executions, queue]
    rcases there with same | none_
    · rw [same]
      exact distinct
    · rw [none_]
      exact (List.nodup_cons.1 distinct).2
  · exact owns
  · intro i
    obtain ⟨life, lives, stands, known⟩ := tracks.lives i
    rw [traceOf_append]
    by_cases same : i = splash.execution
    · subst same
      obtain ⟨held, settled, sent⟩ := stands.of_held tracks.distinct here
      obtain ⟨next, goes, place⟩ := moves life held settled
      have lives' : Lives (traceOf splash.execution log ++ note.toList) next := by
        rcases goes with step | ⟨rfl, rfl⟩
        · exact lives.step step
        · rw [Option.toList_none, List.append_nil]
          exact lives
      have known' : ∀ task, accepted splash.execution task → next.task = some task := by
        intro task accepts
        rcases goes with step | ⟨-, rfl⟩
        · exact step.task_eq (known task accepts)
        · exact known task accepts
      refine ⟨next, ?_, ?_, known'⟩
      · rw [traceOf_own]
        exact lives'
      · rcases place with ⟨worker, holds, told⟩ | ⟨none_, task, rfl⟩
        · exact .held worker rfl holds told sent
        · refine .gone ?_ sent
          have distinct := tracks.distinct
          rw [Dam.executions, here] at distinct
          show splash.execution ∉ dam.executions
          rw [Dam.executions, queue, none_]
          exact (List.nodup_cons.1 distinct).1
    · refine ⟨life, ?_, stands.beside same here queue there (others i same), known⟩
      rw [traceOf_other same, List.append_nil]
      exact lives

/-- The worker receives the next task. -/
theorem Tracks.receive {queue : List Splash} (tracks : Tracks log accepted run)
    (idle : run.dam.worker = .receiving) (queued : run.dam.queue = splash :: queue) :
    Tracks log accepted
      { run with dam := { run.dam with queue := queue, worker := .received splash } } := by
  have same : Dam.executions { run.dam with queue := queue, worker := .received splash } =
      run.dam.executions := by
    simp [Dam.executions, idle, queued, DamWorker.splash]
  have taskless := tracks.owns.task_eq_none idle fun _ => DamWorker.noConfusion
  have distinct := tracks.distinct
  constructor
  · exact tracks.programmes
  · rw [← same] at distinct
    exact distinct
  · intro other run' there
    rw [taskless] at there
    cases there
  · intro i
    obtain ⟨life, lives, stands, known⟩ := tracks.lives i
    cases stands with
    | ahead absent unnotified => exact ⟨_, lives, .ahead (same ▸ absent) unnotified, known⟩
    | @queued other there own unnotified sent =>
      rw [queued] at there
      rcases List.mem_cons.1 there with rfl | later
      · refine ⟨.received other.task, ?_, ?_, fun task accepts => ?_⟩
        · have received := lives.step (.receive other.task)
          rwa [Option.toList_none, List.append_nil] at received
        · exact .held rfl own rfl (fun told => absurd told unnotified) sent
        · exact known task accepts
      · exact ⟨_, lives, .queued later own unnotified sent, known⟩
    | held there _ _ _ _ =>
      rw [idle] at there
      cases there
    | gone absent sent => exact ⟨_, lives, .gone (same ▸ absent) sent, known⟩

/-- What the worker holds goes on, and nothing is seen. -/
theorem Tracks.goOn (tracks : Tracks log accepted run)
    (here : run.dam.worker.splash = some splash) (held : run.dam.heldLife = some life)
    (queue : dam.queue = run.dam.queue)
    (notified : dam.interruptNotified = run.dam.interruptNotified) (owns : dam.Owns)
    (goes : life.Step none next ∨ next = life)
    (there : dam.worker.splash = some splash ∧ dam.heldLife = some next ∧
        (life.settled = true → next.settled = true) ∨
      dam.worker.splash = none ∧ ∃ task, next = .gone task) :
    Tracks log accepted { run with dam := dam } := by
  have moves : ∀ found, run.dam.heldLife = some found →
      (splash.execution ∈ run.dam.interruptNotified → found.settled = true) →
      ∃ next, (found.Step none next ∨ (none : Option LegacyNote) = none ∧ next = found) ∧
        (dam.worker.splash = some splash ∧ dam.heldLife = some next ∧
            (splash.execution ∈ dam.interruptNotified → next.settled = true) ∨
          dam.worker.splash = none ∧ ∃ task, next = .gone task) := by
    intro found same settled
    obtain rfl := Option.some.inj (held.symm.trans same)
    refine ⟨next, goes.imp id fun same => ⟨rfl, same⟩, ?_⟩
    rcases there with ⟨worker, holds, kept⟩ | gone
    · exact .inl ⟨worker, holds, fun told => kept (settled (notified ▸ told))⟩
    · exact .inr gone
  have moved := tracks.hold here queue (fun i _ told => notified ▸ told) owns moves
  rwa [Option.map_none, Option.toList_none, List.append_nil] at moved

/-- The worker interrupts what it holds, and lets it go. -/
theorem Tracks.giveUp {worker : DamWorker} {failure : Option String}
    (tracks : Tracks log accepted run) (here : run.dam.worker.splash = some splash)
    (held : run.dam.heldLife = some life) (unsettled : life.settled = false)
    (step : life.Step (some .onInterrupt) (.gone splash.task)) (taskless : run.dam.task = none)
    (there : worker = .receiving ∨ worker = .clearing splash) :
    Tracks (log ++ (run.dam.noteInterrupt splash.execution).toList) accepted
      { run with
        dam := { run.dam.notifyInterrupt splash.execution failure with worker := worker } } := by
  have unnotified : splash.execution ∉ run.dam.interruptNotified := by
    intro told
    obtain ⟨other, -, stands, -⟩ := tracks.lives splash.execution
    obtain ⟨found, settled, -⟩ := stands.of_held tracks.distinct here
    obtain rfl := Option.some.inj (held.symm.trans found)
    rw [settled told] at unsettled
    cases unsettled
  have noted : run.dam.noteInterrupt splash.execution =
      (some LegacyNote.onInterrupt).map fun found => (splash.execution, found) :=
    if_neg unnotified
  rw [noted]
  refine tracks.hold here rfl ?_ (.of_task_eq_none taskless) ?_
  · intro i apart told
    exact (Finset.mem_insert.1 told).resolve_left apart
  · intro other found _
    obtain rfl := Option.some.inj (held.symm.trans found)
    refine ⟨_, .inl step, ?_⟩
    rcases there with rfl | rfl
    · exact .inr ⟨rfl, _, rfl⟩
    · exact .inl ⟨rfl, rfl, fun _ => rfl⟩

/-- The worker ends, or starts to wait, with empty hands. -/
theorem Tracks.exit {failure : Option String} (tracks : Tracks log accepted run)
    (idle : run.dam.worker = .receiving) :
    Tracks log accepted { run with dam := { run.dam with worker := .exited failure } } := by
  have splashless : run.dam.worker.splash = none := by rw [idle]; rfl
  have same : Dam.executions { run.dam with worker := .exited failure } = run.dam.executions := by
    rw [Dam.executions, Dam.executions, splashless]
    rfl
  refine ⟨tracks.programmes, same ▸ tracks.distinct, ?_, fun i => ?_⟩
  · exact .of_task_eq_none (tracks.owns.task_eq_none idle fun _ => DamWorker.noConfusion)
  · obtain ⟨life, lives, stands, known⟩ := tracks.lives i
    refine ⟨life, lives, stands.congr rfl splashless.symm ?_ rfl id, known⟩
    rw [Dam.heldLife, Dam.heldLife, idle]

/-- The worker has joined its task. -/
theorem Tracks.join {other : Splash} {task : RunTask} {event : DamEvent}
    (tracks : Tracks log accepted run) (here : run.dam.worker = .joining splash)
    (there : run.dam.task = some (other, task))
    (step : run.dam.joined splash task event = some dam) :
    Tracks (log ++ (run.dam.workerNote event).toList) accepted { run with dam := dam } := by
  have holds : run.dam.worker.splash = some splash := by rw [here]; rfl
  have held : run.dam.heldLife = some (.running splash.task task) := by
    rw [Dam.heldLife, here, there]
    rfl
  obtain ⟨-, undropped⟩ := tracks.owns other task there
  unfold Dam.joined at step
  split at step
  · cases step
    have silent : run.dam.workerNote .proceed = none := by simp [Dam.workerNote, here]
    rw [silent, Option.toList_none, List.append_nil]
    exact tracks.goOn holds held rfl rfl (.of_task_eq_none rfl) (.inl (.join splash.task))
      (.inl ⟨rfl, rfl, fun _ => rfl⟩)
  · exact absurd rfl undropped
  · rename_i message failure
    cases step
    have noted : run.dam.workerNote (.callback failure) =
        (some (LegacyNote.onError (.taskExecutionFailed message))).map
          fun found => (splash.execution, found) := by
      simp [Dam.workerNote, here, there]
    rw [noted]
    refine tracks.hold holds rfl (fun _ _ told => told) (.of_task_eq_none rfl) ?_
    intro life found settled
    obtain rfl := Option.some.inj (held.symm.trans found)
    by_cases again : (splash.task.isPeriodic &&
        decide (splash.execution ∉ run.dam.cancelled)) = true
    · rw [if_pos again]
      have periodic := (Bool.and_eq_true_iff.1 again).1
      refine ⟨.healing splash.task, .inl (.heal _ _ periodic), .inl ⟨rfl, rfl, ?_⟩⟩
      exact fun told => absurd (settled told) Bool.false_ne_true
    · rw [if_neg again]
      exact ⟨.gone splash.task, .inl (.fail _ _), .inl ⟨rfl, rfl, fun _ => rfl⟩⟩
  · cases step

theorem Tracks.silent {note : Option (Nat × LegacyNote)} (tracks : Tracks log accepted run)
    (none_ : note = none) : Tracks (log ++ note.toList) accepted run := by
  rw [none_, Option.toList_none, List.append_nil]
  exact tracks

/-- **Step lemma**, for a section of the worker. -/
theorem Tracks.worker {event : DamEvent} (tracks : Tracks log accepted run)
    (kept : event ≠ .drop) (step : run.dam.workerStep event = some dam) :
    Tracks (log ++ (run.dam.workerNote event).toList) accepted { run with dam := dam } := by
  have taskless {worker : DamWorker} (here : run.dam.worker = worker)
      (apart : ∀ splash, worker ≠ .joining splash) : run.dam.task = none :=
    tracks.owns.task_eq_none here apart
  unfold Dam.workerStep at step
  split at step
  · rename_i here
    have silent : run.dam.workerNote .proceed = none := by simp [Dam.workerNote, here]
    split at step
    · rename_i queued
      cases step
      exact (tracks.receive here queued).silent silent
    · obtain ⟨-, same⟩ := Option.ite_none_left_eq_some.1 step
      cases same
      exact (tracks.exit here).silent silent
  · rename_i splash failure here
    obtain ⟨-, same⟩ := Option.ite_none_right_eq_some.1 step
    cases same
    have noted : run.dam.workerNote (.callback failure) =
        run.dam.noteInterrupt splash.execution := by simp [Dam.workerNote, here]
    rw [noted]
    exact tracks.giveUp (by rw [here]; rfl) (by rw [Dam.heldLife, here]) rfl
      (.overtaken splash.task) (taskless here fun _ => DamWorker.noConfusion) (.inl rfl)
  · rename_i splash here
    obtain ⟨-, same⟩ := Option.ite_none_left_eq_some.1 step
    cases same
    have held : run.dam.heldLife = some (.received splash.task) := by rw [Dam.heldLife, here]
    refine Tracks.silent ?_ (by simp [Dam.workerNote, here])
    exact tracks.goOn (by rw [here]; rfl) held rfl rfl
      (.of_task_eq_none (taskless here fun _ => DamWorker.noConfusion)) (.inr rfl)
      (.inl ⟨rfl, rfl, id⟩)
  · rename_i splash here
    cases step
    have held : run.dam.heldLife = some (.received splash.task) := by rw [Dam.heldLife, here]
    refine Tracks.silent ?_ (by simp [Dam.workerNote, here])
    exact tracks.goOn (by rw [here]; rfl) held rfl rfl
      (.of_task_eq_none (taskless here fun _ => DamWorker.noConfusion)) (.inr rfl)
      (.inl ⟨rfl, rfl, id⟩)
  · rename_i splash failure here
    obtain ⟨-, same⟩ := Option.ite_none_right_eq_some.1 step
    cases same
    have noted : run.dam.workerNote (.callback failure) =
        run.dam.noteInterrupt splash.execution := by simp [Dam.workerNote, here]
    rw [noted]
    exact tracks.giveUp (by rw [here]; rfl) (by rw [Dam.heldLife, here]) rfl
      (.overtaken splash.task) (taskless here fun _ => DamWorker.noConfusion) (.inr rfl)
  · rename_i splash here
    obtain ⟨-, same⟩ := Option.ite_none_left_eq_some.1 step
    cases same
    have held : run.dam.heldLife = some (.received splash.task) := by rw [Dam.heldLife, here]
    refine Tracks.silent ?_ (by simp [Dam.workerNote, here])
    exact tracks.goOn (by rw [here]; rfl) held rfl rfl
      (.of_task_eq_none (taskless here fun _ => DamWorker.noConfusion)) (.inl (.pass _))
      (.inl ⟨rfl, rfl, fun told => told⟩)
  · rename_i splash here
    cases step
    have held : run.dam.heldLife = some (.spawning splash.task) := by rw [Dam.heldLife, here]
    have owns : Dam.Owns
        { run.dam with task := some (splash, .checking 0), worker := .joining splash } := by
      rintro other task ⟨⟩
      exact ⟨rfl, RunTask.noConfusion⟩
    refine Tracks.silent ?_ (by simp [Dam.workerNote, here])
    exact tracks.goOn (by rw [here]; rfl) held rfl rfl owns (.inl (.spawn _))
      (.inl ⟨rfl, rfl, fun told => told⟩)
  · rename_i splash event here
    split at step
    · rename_i other task there
      rw [if_neg kept] at step
      exact tracks.join here there step
    · cases step
  · rename_i splash here
    obtain ⟨-, same⟩ := Option.ite_none_left_eq_some.1 step
    cases same
    have held : run.dam.heldLife = some (.healing splash.task) := by rw [Dam.heldLife, here]
    refine Tracks.silent ?_ (by simp [Dam.workerNote, here])
    exact tracks.goOn (by rw [here]; rfl) held rfl rfl
      (.of_task_eq_none (taskless here fun _ => DamWorker.noConfusion)) (.inl (.healed _))
      (.inl ⟨rfl, rfl, fun told => told⟩)
  · rename_i splash failure here
    obtain ⟨-, same⟩ := Option.ite_none_right_eq_some.1 step
    cases same
    have noted : run.dam.workerNote (.callback failure) =
        run.dam.noteInterrupt splash.execution := by simp [Dam.workerNote, here]
    rw [noted]
    exact tracks.giveUp (by rw [here]; rfl) (by rw [Dam.heldLife, here]) rfl
      (.interruptHealing splash.task) (taskless here fun _ => DamWorker.noConfusion) (.inr rfl)
  · rename_i splash message here
    cases step
    have held : run.dam.heldLife = some (.healing splash.task) := by rw [Dam.heldLife, here]
    refine Tracks.silent ?_ (by simp [Dam.workerNote, here])
    exact tracks.goOn (by rw [here]; rfl) held rfl rfl
      (.of_task_eq_none (taskless here fun _ => DamWorker.noConfusion))
      (.inl (.loseWorker _)) (.inr ⟨rfl, _, rfl⟩)
  · rename_i splash here
    cases step
    have held : run.dam.heldLife = some (.gone splash.task) := by rw [Dam.heldLife, here]
    refine Tracks.silent ?_ (by simp [Dam.workerNote, here])
    exact tracks.goOn (by rw [here]; rfl) held rfl rfl
      (.of_task_eq_none (taskless here fun _ => DamWorker.noConfusion)) (.inr rfl)
      (.inr ⟨rfl, _, rfl⟩)
  · exact absurd rfl kept
  · cases step

/-! ### The task -/

theorem noted_ne {loop : LegacyLoop} {task after : RunTask} {note : Option LegacyNote}
    (noted : RunTask.Noted loop task note after) : task ≠ .returned ∧ after ≠ .dropped := by
  cases noted with
  | enter _ entered =>
    refine ⟨RunTask.noConfusion, ?_⟩
    rintro rfl
    cases entered
  | advance here there =>
    constructor
    · rintro rfl
      cases here
    · rintro rfl
      cases there
  | seeBetween here =>
    refine ⟨?_, RunTask.noConfusion⟩
    rintro rfl
    cases here
  | _ => exact ⟨RunTask.noConfusion, RunTask.noConfusion⟩

/-- **Step lemma**, for a section of the task. -/
theorem Tracks.task {event : DamEvent} (tracks : Tracks log accepted run)
    (kept : event ≠ .drop) (step : run.dam.taskStep event = some dam) :
    Tracks (log ++ (run.dam.taskNote event).toList) accepted { run with dam := dam } := by
  unfold Dam.taskStep at step
  split at step
  · cases step
  · rename_i splash task there
    obtain ⟨next, moved, rfl⟩ := Option.map_eq_some_iff.1 step
    obtain ⟨here, -⟩ := tracks.owns splash task there
    have holds : run.dam.worker.splash = some splash := by rw [here]; rfl
    have held : run.dam.heldLife = some (.running splash.task task) := by
      rw [Dam.heldLife, here, there]
      rfl
    have noted := RunTask.Noted.of_step moved kept
    obtain ⟨running, undropped⟩ := noted_ne noted
    have owns {dam : Dam} (worker : dam.worker = run.dam.worker)
        (tasked : dam.task = some (splash, next)) : dam.Owns := by
      intro other after found
      obtain ⟨rfl, rfl⟩ := Prod.mk.inj (Option.some.inj (tasked.symm.trans found))
      exact ⟨worker.trans here, undropped⟩
    have unsettled : LegacyLife.settled (.running splash.task task) = false := by
      cases task with
      | returned => exact absurd rfl running
      | _ => rfl
    have unnotified : splash.execution ∉ run.dam.interruptNotified := by
      intro told
      obtain ⟨other, -, stands, -⟩ := tracks.lives splash.execution
      obtain ⟨found, settled, -⟩ := stands.of_held tracks.distinct holds
      obtain rfl := Option.some.inj (held.symm.trans found)
      rw [settled told] at unsettled
      cases unsettled
    by_cases interrupting : task = .interrupting
    · subst interrupting
      cases event with
      | callback failure =>
        cases moved
        have shown : run.dam.taskNote (.callback failure) =
            (some LegacyNote.onInterrupt).map fun found => (splash.execution, found) := by
          simp [Dam.taskNote, there, Dam.noteInterrupt, unnotified]
        rw [shown]
        refine tracks.hold holds rfl ?_ (owns rfl rfl) ?_
        · intro i apart told
          exact (Finset.mem_insert.1 told).resolve_left apart
        · intro life found _
          obtain rfl := Option.some.inj (held.symm.trans found)
          refine ⟨_, .inl (.run _ .interrupted), .inl ⟨holds, ?_, fun _ => rfl⟩⟩
          simp [Dam.heldLife, Dam.notifyInterrupt, Dam.cancel, here]
      | drop => exact absurd rfl kept
      | _ => cases moved
    · have shown : run.dam.taskNote event =
          (task.note event next).map fun found => (splash.execution, found) := by
        unfold Dam.taskNote
        rw [there]
        split
        · rename_i absent
          cases absent
        · rename_i same
          cases same
          exact absurd rfl interrupting
        · rename_i same
          cases same
          rw [moved]
          rfl
      have goes {dam : Dam} (queue : dam.queue = run.dam.queue)
          (worker : dam.worker = run.dam.worker) (tasked : dam.task = some (splash, next))
          (notified : dam.interruptNotified = run.dam.interruptNotified) :
          Tracks (log ++ (run.dam.taskNote event).toList) accepted { run with dam := dam } := by
        rw [shown]
        refine tracks.hold holds queue (fun i _ told => notified ▸ told) (owns worker tasked) ?_
        intro life found _
        obtain rfl := Option.some.inj (held.symm.trans found)
        refine ⟨_, .inl (.run _ noted), .inl ⟨worker ▸ holds, ?_, ?_⟩⟩
        · simp [Dam.heldLife, worker, tasked, here]
        · exact fun told => absurd (notified ▸ told) unnotified
      split
      · exact absurd rfl interrupting
      · exact goes rfl rfl rfl rfl
      · exact goes rfl rfl rfl rfl

end Tracking

/-! ## The runs -/

section Runs

variable {capacity : Nat} {actions : List DamUse} {action : DamUse} {run after : DamRun}
  {log : List (Nat × LegacyNote)} {accepted : Nat → LegacyTask → Prop}

theorem not_accepts {i : Nat} {task : LegacyTask} (other : ∀ c, action ≠ .act (.advance c)) :
    ¬ Accepts i task run action :=
  fun accepts => other i accepts.1

/-- **Step lemma.** -/
theorem Tracks.step (tracks : Tracks log accepted run) (step : run.use action = some after) :
    Tracks (log ++ (run.note action).toList)
      (fun i task => accepted i task ∨ Accepts i task run action) after := by
  have calls {steps : List DamStep} (quiet : ∀ step ∈ steps, step.sends = false)
      (other : ∀ c, action ≠ .act (.advance c)) :
      Tracks log (fun i task => accepted i task ∨ Accepts i task run action) (run.begin steps) :=
    (tracks.begin (.other quiet)).mono fun _ _ known => known.resolve_right (not_accepts other)
  cases action with
  | release =>
    cases step
    exact (calls (by decide) fun _ => DamUse.noConfusion).silent rfl
  | act action =>
    obtain ⟨kept, moved⟩ := Option.ite_none_left_eq_some.1 step
    rw [not_or] at kept
    cases action with
    | enqueue task =>
      cases moved
      refine Tracks.silent ?_ rfl
      refine (tracks.begin (.check task)).mono fun _ _ known => known.resolve_right ?_
      exact not_accepts fun c same => DamAction.noConfusion (DamUse.act.inj same)
    | cancelAll =>
      cases moved
      refine Tracks.silent (calls (by decide) ?_) rfl
      exact fun c same => DamAction.noConfusion (DamUse.act.inj same)
    | advance call =>
      simp only [DamRun.step] at moved
      split at moved
      · rename_i found
        cases moved
        exact (tracks.advance found).silent rfl
      · cases moved
    | worker event =>
      obtain ⟨dam, goes, rfl⟩ := Option.map_eq_some_iff.1 moved
      have alive : event ≠ .drop := by
        rintro rfl
        exact kept.1 rfl
      refine (tracks.worker alive goes).mono fun _ _ known => known.resolve_right ?_
      exact not_accepts fun c same => DamAction.noConfusion (DamUse.act.inj same)
    | task event =>
      obtain ⟨dam, goes, rfl⟩ := Option.map_eq_some_iff.1 moved
      have alive : event ≠ .drop := by
        rintro rfl
        exact kept.2 rfl
      refine (tracks.task alive goes).mono fun _ _ known => known.resolve_right ?_
      exact not_accepts fun c same => DamAction.noConfusion (DamUse.act.inj same)

theorem Tracks.new (capacity : Nat) : Tracks [] (fun _ _ => False) (.new capacity) where
  programmes := by
    intro i steps absent
    cases absent
  distinct := List.nodup_nil
  owns := .of_task_eq_none rfl
  lives := by
    intro i
    refine ⟨.ahead, .new, .ahead List.not_mem_nil ?_, fun _ absent => absent.elim⟩
    exact Finset.notMem_empty i

/-- **Run lemma.** -/
theorem tracks_of_run
    (ran : (damUses capacity).exec (damUses capacity).init actions = some run) :
    Tracks ((damUses capacity).outputs DamRun.note (damUses capacity).init actions)
      (Accepted capacity actions) run := by
  refine System.exec_invariant (I := fun actions run =>
    Tracks ((damUses capacity).outputs DamRun.note (damUses capacity).init actions)
      (Accepted capacity actions) run) ?_ ?_ ran
  · exact (Tracks.new capacity).mono fun _ _ happened => (System.not_happened_nil happened).elim
  · intro before x y action reached ih taken
    have step : x.use action = some y := taken
    rw [System.outputs_snoc reached]
    exact (ih.step step).mono fun _ _ happened => (System.happened_snoc reached).1 happened

/-- What is seen of an execution is the trace of a life. -/
theorem lives_of_run (ran : (damUses capacity).exec (damUses capacity).init actions = some run)
    {i : Nat} {task : LegacyTask} (accepted : Accepted capacity actions i task) :
    ∃ life, Lives (damTrace capacity actions i) life ∧ life.task = some task ∧
      (i ∉ run.dam.executions → life = .gone task) := by
  obtain ⟨life, lives, stands, known⟩ := (tracks_of_run ran).lives i
  have own := known task accepted
  refine ⟨life, lives, own, fun absent => ?_⟩
  cases stands with
  | ahead _ _ => cases own
  | queued there same _ _ =>
    exact absurd (List.mem_map.2 ⟨_, List.mem_append_right _ there, same⟩) absent
  | held there same _ _ _ =>
    refine absurd (List.mem_map.2 ⟨_, List.mem_append_left _ ?_, same⟩) absent
    exact Option.mem_toList.2 there
  | gone _ _ => rw [Option.some.inj own]

/-- **Main result.**  For every task that `enqueue` has accepted, in every run: a bounded one with
an attempt that is neither in the channel nor with the worker any more has had one verdict; and
nothing is seen of a periodic one after `on_complete` or `on_interrupt`. -/
theorem legacy_verdicts
    (ran : (damUses capacity).exec (damUses capacity).init actions = some run)
    {i : Nat} {task : LegacyTask} (accepted : Accepted capacity actions i task) :
    (∀ n, task.loop.limit = some n → 0 < n → i ∉ run.dam.executions →
      OneVerdict n (damTrace capacity actions i)) ∧
    (task.isPeriodic = true →
      (damTrace capacity actions i).countP LegacyNote.isEnd ≤ 1 ∧
        Ends (damTrace capacity actions i)) := by
  obtain ⟨life, lives, -, ended⟩ := lives_of_run ran accepted
  constructor
  · intro n bounded positive absent
    obtain rfl := ended absent
    exact lives.oneVerdict bounded positive
  · intro _
    exact ⟨lives.ends.countP_le_one, lives.ends⟩

/-- A task is sent, received and started. -/
def startedUses (task : LegacyTask) : List DamUse :=
  [.act (.enqueue task), .act (.advance 0), .act (.advance 0), .act (.advance 0),
    .act (.worker .proceed), .act (.worker .proceed), .act (.worker .proceed),
    .act (.worker .proceed), .act (.worker .proceed), .act (.task .proceed)]

/-- The dam is released during the first of two attempts, and every callback panics. -/
def releasedUses : List DamUse :=
  startedUses (.fixedCount 2) ++
    [.act (.task (.callback (some "progress"))), .act (.task .proceed), .act (.task .proceed),
      .release, .act (.advance 1), .act (.advance 1), .act (.advance 1), .act (.advance 1),
      .act (.task (.result true)), .act (.task .proceed),
      .act (.task (.callback (some "interrupted"))), .act (.worker .proceed),
      .act (.worker .proceed)]

theorem legacy_verdicts_released :
    damTrace 4 releasedUses 0 = [.executed, .answered true, .seen, .onInterrupt] ∧
      OneVerdict 2 (damTrace 4 releasedUses 0) := by
  refine ⟨rfl, ?_⟩
  obtain ⟨run, ran⟩ : ∃ run, (damUses 4).exec (damUses 4).init releasedUses = some run := ⟨_, rfl⟩
  have accepted : Accepted 4 releasedUses 0 (.fixedCount 2) :=
    ⟨releasedUses.take 3, .act (.advance 0), releasedUses.drop 4, _, rfl, rfl, rfl, _, _, _, _, rfl,
      rfl, rfl⟩
  refine (legacy_verdicts ran accepted).1 2 rfl (by decide) ?_
  obtain rfl := Option.some.inj ran
  decide

/-- The timer of the first delay panics. -/
def timerUses : List DamUse :=
  startedUses (.timeInterval [1000]) ++
    [.act (.task (.panic "no timer")), .act (.worker (.callback none)), .act (.worker .proceed)]

/-- `on_error` tells that the execution has failed, and `work.execute()` was never called. -/
theorem timer_fails_execution :
    ∃ run, (damUses 4).exec (damUses 4).init timerUses = some run ∧
      Accepted 4 timerUses 0 (.timeInterval [1000]) ∧ 0 ∉ run.dam.executions ∧
      .onError (.taskExecutionFailed "no timer") ∈ damTrace 4 timerUses 0 ∧
      .executed ∉ damTrace 4 timerUses 0 ∧
      ¬ ∃ message, .unwound message ∈ damTrace 4 timerUses 0 := by
  have trace : damTrace 4 timerUses 0 =
      [.timerUnwound "no timer", .onError (.taskExecutionFailed "no timer")] := rfl
  have accepted : Accepted 4 timerUses 0 (.timeInterval [1000]) :=
    ⟨timerUses.take 3, .act (.advance 0), timerUses.drop 4, _, rfl, rfl, rfl, _, _, _, _, rfl, rfl,
      rfl⟩
  refine ⟨_, rfl, accepted, by decide, ?_, ?_, ?_⟩
  · rw [trace]
    exact List.mem_cons_of_mem _ List.mem_cons_self
  · rw [trace]
    decide
  · rw [trace]
    simp

end Runs

end BusyBeaver
