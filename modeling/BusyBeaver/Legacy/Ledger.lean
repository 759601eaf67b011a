import BusyBeaver.Legacy.Calls

/-!
# What the log of a dam tells

A log whose entries all fit has the properties of the watermark (`not_passed_of_raised`,
`started_le_one`, `watermark_le_stamp`): this is a matter of the order of entries alone.  That
the log of a run fits is an invariant of the run, and ties the cells of the dam to the log
(`Tells`).
-/

namespace BusyBeaver

open Transition

/-! ## Logs that fit -/

section Log

variable {log before after first rest : List DamEntry} {i c seq other watermark : Nat}
  {marked : Option Nat}

theorem lt_stamps (lawful : Lawful DamEntry.Fits log) (stamped : .stamped i seq ∈ log) :
    seq < stamps log := by
  obtain ⟨before, after, rfl⟩ := List.append_of_mem stamped
  obtain ⟨rfl, -⟩ := lawful before _ after rfl
  rw [stamps_append, stamps, stamps, List.countP_cons_of_pos rfl]
  omega

theorem stamped_unique (lawful : Lawful DamEntry.Fits log) (stamped : .stamped i seq ∈ log)
    (again : .stamped i other ∈ log) : seq = other := by
  obtain ⟨before, after, split⟩ := List.append_of_mem stamped
  obtain ⟨before', after', split'⟩ := List.append_of_mem again
  obtain ⟨-, -, once⟩ := lawful before _ after split
  obtain ⟨-, -, once'⟩ := lawful before' _ after' split'
  rcases split_cases split split' with first | second | ⟨-, same, -⟩
  · exact absurd (first.subset (List.mem_append_right _ List.mem_cons_self)) (once' seq)
  · exact absurd (second.subset (List.mem_append_right _ List.mem_cons_self)) (once other)
  · exact (DamEntry.stamped.inj same).2

theorem stamped_of_enqueued (lawful : Lawful DamEntry.Fits log) (enqueued : .enqueued i ∈ log) :
    ∃ seq, .stamped i seq ∈ log := by
  obtain ⟨before, after, rfl⟩ := List.append_of_mem enqueued
  obtain ⟨seq, stamped⟩ := lawful before _ after rfl
  exact ⟨seq, List.mem_append_left _ stamped⟩

theorem enqueued_of_published (lawful : Lawful DamEntry.Fits log)
    (published : .published i ∈ log) : .enqueued i ∈ log := by
  obtain ⟨before, after, rfl⟩ := List.append_of_mem published
  exact List.mem_append_left _ (lawful before _ after rfl)

theorem enqueued_of_interrupted (lawful : Lawful DamEntry.Fits log)
    (interrupted : .interrupted i ∈ log) : .enqueued i ∈ log := by
  obtain ⟨before, after, rfl⟩ := List.append_of_mem interrupted
  exact List.mem_append_left _ (lawful before _ after rfl).1

theorem published_of_passed (lawful : Lawful DamEntry.Fits log) (passed : .passed i ∈ log) :
    .published i ∈ log := by
  obtain ⟨before, after, rfl⟩ := List.append_of_mem passed
  exact List.mem_append_left _ (lawful before _ after rfl).1

theorem passed_of_started (lawful : Lawful DamEntry.Fits log) (started : .started i ∈ log) :
    .passed i ∈ log := by
  obtain ⟨before, after, rfl⟩ := List.append_of_mem started
  exact List.mem_append_left _ (lawful before (.started i) after rfl).1

theorem passed_of_completed (lawful : Lawful DamEntry.Fits log) (completed : .completed i ∈ log) :
    .passed i ∈ log := by
  obtain ⟨before, after, rfl⟩ := List.append_of_mem completed
  exact List.mem_append_left _ (lawful before (.completed i) after rfl)

theorem passed_of_errored (lawful : Lawful DamEntry.Fits log) (errored : .errored i ∈ log) :
    .passed i ∈ log := by
  obtain ⟨before, after, rfl⟩ := List.append_of_mem errored
  exact List.mem_append_left _ (lawful before (.errored i) after rfl)

theorem interrupted_le_one (lawful : Lawful DamEntry.Fits log) (i : Nat) :
    log.count (.interrupted i) ≤ 1 := by
  induction log using List.reverseRecOn with
  | nil => exact Nat.zero_le _
  | append_singleton log entry ih =>
    obtain ⟨fits, last⟩ := lawful_snoc.1 lawful
    rw [List.count_append, List.count_singleton]
    by_cases same : entry = .interrupted i
    · subst same
      rw [List.count_eq_zero.2 last.2, if_pos (beq_self_eq_true _)]
    · rw [if_neg (by simpa using same)]
      exact ih fits

/-- A task that was enqueued before the call began has a number below its watermark. -/
theorem stamp_lt_watermark (lawful : Lawful DamEntry.Fits log)
    (split : log = before ++ .raised c watermark :: after)
    (began : before = first ++ .cancelBegan c :: rest) (enqueued : .enqueued i ∈ first) :
    ∃ seq, .stamped i seq ∈ before ∧ seq < watermark := by
  have fits : Lawful DamEntry.Fits before := (split ▸ lawful).take
  obtain ⟨loaded, -⟩ := lawful before _ after split
  obtain ⟨until_, more, loads⟩ := List.append_of_mem loaded
  obtain ⟨rfl, known⟩ := fits until_ _ more loads
  have fresh : .cancelBegan c ∉ first := by
    intro member
    exact absurd (fits first _ rest began _ member) (Nat.lt_irrefl c)
  have earlier := append_prefix_of_mem began loads known fresh
  obtain ⟨seq, stamped⟩ := stamped_of_enqueued (began ▸ fits).take enqueued
  have stamped' : .stamped i seq ∈ until_ :=
    earlier.subset (List.mem_append_left _ stamped)
  refine ⟨seq, loads ▸ List.mem_append_left _ stamped', ?_⟩
  exact lt_stamps (loads ▸ fits).take stamped'

/-- A task that was enqueued before the call began, and is not published when the call raises
the watermark, does not pass. -/
theorem not_passed_of_raised (lawful : Lawful DamEntry.Fits log)
    (split : log = before ++ .raised c watermark :: after)
    (began : before = first ++ .cancelBegan c :: rest) (enqueued : .enqueued i ∈ first)
    (unpublished : .published i ∉ before) : .passed i ∉ log := by
  intro passed
  obtain ⟨before', after', split'⟩ := List.append_of_mem passed
  obtain ⟨published, seq, stamped, below⟩ := lawful before' _ after' split'
  have later := append_prefix_of_mem split split' published unpublished
  have le : watermark ≤ seq :=
    below c watermark (later.subset (List.mem_append_right _ List.mem_cons_self))
  obtain ⟨number, stamped', lt⟩ := stamp_lt_watermark lawful split began enqueued
  have same : seq = number :=
    stamped_unique lawful (split' ▸ List.mem_append_left _ stamped)
      (split ▸ List.mem_append_left _ stamped')
  omega

/-- Every check of a task is followed by its call of `work.execute()`, but for the last. -/
theorem checks_of_lawful (lawful : Lawful DamEntry.Fits log) (i : Nat) :
    log.count (.started i) ≤ log.count (.checked i) ∧
      log.count (.checked i) ≤ log.count (.started i) + 1 := by
  induction log using List.reverseRecOn with
  | nil => exact ⟨Nat.le_refl _, Nat.zero_le _⟩
  | append_singleton log entry ih =>
    obtain ⟨fits, last⟩ := lawful_snoc.1 lawful
    have counts := ih fits
    simp only [List.count_append, List.count_singleton, beq_iff_eq]
    by_cases checked : entry = .checked i
    · subst checked
      obtain ⟨-, -, -, even⟩ := last
      simp only [if_true, reduceCtorEq, if_false]
      omega
    · by_cases started : entry = .started i
      · subst started
        obtain ⟨-, -, odd⟩ := last
        simp only [if_true, reduceCtorEq, if_false]
        omega
      · simp only [checked, started, if_false]
        omega

/-- A task that is published when `cancel_all` returns calls `work.execute()` at most once
after that. -/
theorem started_le_one (lawful : Lawful DamEntry.Fits log)
    (split : log = before ++ .returned c marked :: after) (published : .published i ∈ before) :
    after.count (.started i) ≤ 1 := by
  obtain ⟨-, -, -, slot⟩ := lawful before _ after split
  rcases slot i published with rfl | cleared
  · have unchecked : .checked i ∉ after := by
      intro checked
      obtain ⟨middle, more, rfl⟩ := List.append_of_mem checked
      obtain ⟨-, -, uncancelled, -⟩ :=
        lawful (before ++ .returned c (some i) :: middle) (.checked i) more (by simp [split])
      exact uncancelled c (by simp)
    have all := (checks_of_lawful lawful i).1
    have prior := (checks_of_lawful (split ▸ lawful).take i).2
    have checks : log.count (.checked i) = before.count (.checked i) := by
      rw [split, List.count_append, List.count_cons_of_ne (by simp),
        List.count_eq_zero.2 unchecked]
      rfl
    have starts :
        log.count (.started i) = before.count (.started i) + after.count (.started i) := by
      rw [split, List.count_append, List.count_cons_of_ne (by simp)]
    omega
  · have unstarted : .started i ∉ after := by
      intro started
      obtain ⟨middle, more, rfl⟩ := List.append_of_mem started
      obtain ⟨-, uncleared, -⟩ :=
        lawful (before ++ .returned c marked :: middle) (.started i) more (by simp [split])
      exact uncleared (List.mem_append_left _ cleared)
    rw [List.count_eq_zero.2 unstarted]
    exact Nat.zero_le _

/-- An `enqueue` that begins after the call is newer than all there was. -/
theorem newer_of_enqueueBegan (lawful : Lawful DamEntry.Fits log)
    (split : log = before ++ .returned c marked :: after) (began : .enqueueBegan i ∈ after) :
    ∀ entry ∈ before, entry.subject < i := by
  obtain ⟨middle, more, rfl⟩ := List.append_of_mem began
  intro entry member
  exact lawful (before ++ .returned c marked :: middle) (.enqueueBegan i) more
    (by simp [split]) entry
    (List.mem_append_left _ member)

/-- The watermark of a call does not reach a task that is enqueued after it. -/
theorem watermark_le_stamp (lawful : Lawful DamEntry.Fits log)
    (split : log = before ++ .returned c marked :: after) (began : .enqueueBegan i ∈ after)
    (stamped : .stamped i seq ∈ log) (raised : .raised c watermark ∈ log) : watermark ≤ seq := by
  have newer := newer_of_enqueueBegan lawful split began
  obtain ⟨raising, more, raises⟩ := List.append_of_mem raised
  obtain ⟨loaded, unreturned⟩ := lawful raising _ more raises
  have earlier : raising ++ [.raised c watermark] <+: before := by
    rcases split_cases split raises with late | early | ⟨-, absurd, -⟩
    · exact absurd (late.subset (List.mem_append_right _ List.mem_cons_self)) (unreturned marked)
    · exact early
    · cases absurd
  obtain ⟨loading, later, loads⟩ := List.append_of_mem loaded
  obtain ⟨rfl, -⟩ := (raises ▸ lawful).take loading _ later loads
  obtain ⟨stamping, later', stamps_⟩ := List.append_of_mem stamped
  obtain ⟨rfl, known, -⟩ := lawful stamping _ later' stamps_
  have fresh : .enqueueBegan i ∉ before := fun member => absurd (newer _ member) (Nat.lt_irrefl i)
  obtain ⟨gap, rfl⟩ := append_prefix_of_mem split stamps_ known fresh
  obtain ⟨gap', rfl⟩ := earlier
  rw [loads]
  simp only [stamps_append]
  omega

/-- A call does not cancel what is enqueued after it. -/
theorem not_marked (lawful : Lawful DamEntry.Fits log)
    (split : log = before ++ .returned c marked :: after) (began : .enqueueBegan i ∈ after) :
    .returned c (some i) ∉ log := by
  intro returned
  have newer := newer_of_enqueueBegan lawful split began
  obtain ⟨before', after', split'⟩ := List.append_of_mem returned
  obtain ⟨-, once, -⟩ := lawful before _ after split
  obtain ⟨-, once', found, -⟩ := lawful before' _ after' split'
  rcases split_cases split split' with late | early | ⟨rfl, -, -⟩
  · exact once' marked (late.subset (List.mem_append_right _ List.mem_cons_self))
  · exact once (some i) (early.subset (List.mem_append_right _ List.mem_cons_self))
  · exact absurd (newer _ (found i rfl)) (Nat.lt_irrefl i)

end Log

/-! ## What the dam shows of its log -/

namespace DamEntry

/-- The call that makes the entry. -/
def byCall : DamEntry → Option Nat
  | .enqueueBegan call | .stamped call _ | .enqueued call | .refused call | .cancelBegan call
  | .loaded call _ | .raised call _ | .returned call _ => some call
  | _ => none

/-- The way of a task through the queue and the slot. -/
def isPlace : DamEntry → Bool
  | .enqueued _ | .published _ | .cleared _ | .interrupted _ => true
  | _ => false

def isFlag : DamEntry → Bool
  | .returned _ _ | .interrupted _ => true
  | _ => false

def isCheck : DamEntry → Bool
  | .checked _ | .started _ => true
  | _ => false

end DamEntry

/-- The watermark is the highest that was raised. -/
structure Raised (log : List DamEntry) (watermark : Nat) : Prop where
  highest : ∀ c raised, .raised c raised ∈ log → raised ≤ watermark
  source : watermark = 0 ∨ ∃ c, .raised c watermark ∈ log

/-- What a call has still to do. -/
def Doing (log : List DamEntry) (c : Nat) : List DamStep → Prop
  | [] => True
  | [.checkRelease _] | [.stamp _] => .enqueueBegan c ∈ log ∧ ∀ seq, .stamped c seq ∉ log
  | [.send splash] =>
    splash.execution = c ∧ .stamped c splash.seq ∈ log ∧ .enqueued c ∉ log
  | [.loadSeq, .cancelCurrent] => .cancelBegan c ∈ log ∧ ∀ marked, .returned c marked ∉ log
  | [.raise watermark, .cancelCurrent] =>
    .loaded c watermark ∈ log ∧ ∀ marked, .returned c marked ∉ log
  | [.cancelCurrent] =>
    (∃ watermark, .raised c watermark ∈ log) ∧ ∀ marked, .returned c marked ∉ log
  | _ => False

/-- The splash was sent, and is not published. -/
structure Waits (log : List DamEntry) (splash : Splash) : Prop where
  enqueued : .enqueued splash.execution ∈ log
  stamped : .stamped splash.execution splash.seq ∈ log
  unpublished : .published splash.execution ∉ log
  uninterrupted : .interrupted splash.execution ∉ log

/-- The splash the worker has received and not read the watermark for a second time. -/
def DamWorker.undecided : DamWorker → Option Splash
  | .received splash | .publishing splash | .published splash => some splash
  | _ => none

/-- The execution waits in the queue, or for the worker to read the watermark. -/
def Dam.Awaits (dam : Dam) (i : Nat) : Prop :=
  (∃ splash ∈ dam.queue, splash.execution = i) ∨
    ∃ splash ∈ dam.worker.undecided, splash.execution = i

/-- What the worker holds. -/
def Holds (log : List DamEntry) (dam : Dam) : DamWorker → Prop
  | .receiving => dam.current = none
  | .received splash | .publishing splash =>
    dam.current = none ∧ Waits log splash ∧ ∀ other ∈ dam.queue, other.execution ≠ splash.execution
  | .published splash =>
    dam.current = some splash.execution ∧ .enqueued splash.execution ∈ log ∧
      .stamped splash.execution splash.seq ∈ log ∧ .interrupted splash.execution ∉ log
  | .spawning splash | .joining splash | .healing splash =>
    dam.current = some splash.execution ∧ .passed splash.execution ∈ log
  | .clearing splash => dam.current = some splash.execution
  | .exited _ => True

/-- The queue, the worker, its slot and its task. -/
structure Line (log : List DamEntry) (dam : Dam) : Prop where
  tidy : dam.Tidy
  queue : ∀ splash ∈ dam.queue, Waits log splash
  nodup : dam.queue.Pairwise fun splash other => other.execution ≠ splash.execution
  worker : Holds log dam dam.worker
  current : ∀ i, .published i ∈ log → dam.current = some i ∨ .cleared i ∈ log
  slot : ∀ i, dam.current = some i → .published i ∈ log ∧ .cleared i ∉ log
  task : ∀ splash run, dam.task = some (splash, run) →
    .passed splash.execution ∈ log ∧ dam.current = some splash.execution
  fate : ∀ i, .enqueued i ∈ log → dam.Awaits i ∨ .interrupted i ∈ log ∨ .passed i ∈ log

/-- The call found the execution in the slot and cancelled it, or has raised the watermark above
its number. -/
def ReachedBy (log : List DamEntry) (c i : Nat) : Prop :=
  .returned c (some i) ∈ log ∨
    ∃ seq watermark, .stamped i seq ∈ log ∧ .raised c watermark ∈ log ∧ seq < watermark

/-- The flags of the executions. -/
structure Flags (log : List DamEntry) (dam : Dam) : Prop where
  marked : ∀ c i, .returned c (some i) ∈ log → i ∈ dam.cancelled
  reached : ∀ i ∈ dam.cancelled, ∃ c, ReachedBy log c i
  notified : ∀ i, i ∈ dam.interruptNotified ↔ .interrupted i ∈ log
  cancelled : dam.interruptNotified ⊆ dam.cancelled

def RunTask.isStarting : RunTask → Bool
  | .starting _ => true
  | _ => false

/-- The task of the execution has made its last check. -/
def Dam.isStarting (dam : Dam) (i : Nat) : Bool :=
  dam.task.any fun task => task.1.execution == i && task.2.isStarting

/-- The checks of the tasks. -/
structure Checks (log : List DamEntry) (dam : Dam) : Prop where
  counts : ∀ i, log.count (.checked i) =
    log.count (.started i) + if dam.isStarting i then 1 else 0
  interrupting : ∀ splash, dam.task = some (splash, .interrupting) →
    splash.execution ∈ dam.cancelled
  progressing : ∀ splash attempt, dam.task = some (splash, .progressing attempt) →
    splash.task.loop.rechecks = true

/-- The log fits, and the dam shows it. -/
structure Shows (log : List DamEntry) (dam : Dam) : Prop where
  lawful : Lawful DamEntry.Fits log
  seq : dam.enqueueSeq = stamps log
  raised : Raised log dam.cancelWatermark
  line : Line log dam
  flags : Flags log dam
  checks : Checks log dam

/-- The log fits, and the dam and its calls show it. -/
structure Tells (log : List DamEntry) (run : DamRun) : Prop where
  shows_ : Shows log run.dam
  bound : ∀ entry ∈ log, entry.subject < run.calls.length
  calls : ∀ c steps, run.calls[c]? = some steps → Doing log c steps

/-! ### A longer log -/

section Longer

variable {log : List DamEntry} {dam : Dam} {run : DamRun} {entry : DamEntry} {c : Nat}
  {steps : List DamStep} {splash : Splash} {watermark : Nat}

theorem not_mem_concat {other : DamEntry} (absent : other ∉ log) (apart : entry ≠ other) :
    other ∉ log ++ [entry] := by
  rw [List.mem_append, List.mem_singleton]
  rintro (member | same)
  · exact absent member
  · exact apart same.symm

theorem Raised.longer (raised : Raised log watermark)
    (apart : ∀ c raised, entry ≠ .raised c raised) : Raised (log ++ [entry]) watermark where
  highest := by
    intro c other member
    rcases List.mem_append.1 member with before | last
    · exact raised.highest c other before
    · exact absurd (List.mem_singleton.1 last).symm (apart c other)
  source := raised.source.imp_right fun ⟨c, member⟩ => ⟨c, List.mem_append_left _ member⟩

theorem Doing.longer (doing : Doing log c steps) (apart : entry.byCall ≠ some c) :
    Doing (log ++ [entry]) c steps := by
  have stamped : ∀ seq, entry ≠ .stamped c seq := by
    rintro seq rfl
    exact apart rfl
  have enqueued : entry ≠ .enqueued c := by
    rintro rfl
    exact apart rfl
  have returned : ∀ marked, entry ≠ .returned c marked := by
    rintro marked rfl
    exact apart rfl
  unfold Doing at doing
  split at doing
  · trivial
  · exact ⟨List.mem_append_left _ doing.1, fun seq => not_mem_concat (doing.2 seq) (stamped seq)⟩
  · exact ⟨List.mem_append_left _ doing.1, fun seq => not_mem_concat (doing.2 seq) (stamped seq)⟩
  · exact ⟨doing.1, List.mem_append_left _ doing.2.1, not_mem_concat doing.2.2 enqueued⟩
  · exact ⟨List.mem_append_left _ doing.1,
      fun marked => not_mem_concat (doing.2 marked) (returned marked)⟩
  · exact ⟨List.mem_append_left _ doing.1,
      fun marked => not_mem_concat (doing.2 marked) (returned marked)⟩
  · obtain ⟨⟨watermark, raised⟩, unreturned⟩ := doing
    exact ⟨⟨watermark, List.mem_append_left _ raised⟩,
      fun marked => not_mem_concat (unreturned marked) (returned marked)⟩
  · exact doing.elim

theorem Waits.longer (waits : Waits log splash) (published : entry ≠ .published splash.execution)
    (interrupted : entry ≠ .interrupted splash.execution) : Waits (log ++ [entry]) splash where
  enqueued := List.mem_append_left _ waits.enqueued
  stamped := List.mem_append_left _ waits.stamped
  unpublished := not_mem_concat waits.unpublished published
  uninterrupted := not_mem_concat waits.uninterrupted interrupted

theorem Holds.longer {worker : DamWorker} (holds : Holds log dam worker) (entry : DamEntry)
    (published : ∀ i, entry ≠ .published i) (interrupted : ∀ i, entry ≠ .interrupted i) :
    Holds (log ++ [entry]) dam worker := by
  cases worker with
  | receiving => exact holds
  | received splash =>
    exact ⟨holds.1, holds.2.1.longer (published _) (interrupted _), holds.2.2⟩
  | publishing splash =>
    exact ⟨holds.1, holds.2.1.longer (published _) (interrupted _), holds.2.2⟩
  | published splash =>
    exact ⟨holds.1, List.mem_append_left _ holds.2.1, List.mem_append_left _ holds.2.2.1,
      not_mem_concat holds.2.2.2 (interrupted _)⟩
  | spawning splash => exact ⟨holds.1, List.mem_append_left _ holds.2⟩
  | joining splash => exact ⟨holds.1, List.mem_append_left _ holds.2⟩
  | healing splash => exact ⟨holds.1, List.mem_append_left _ holds.2⟩
  | clearing splash => exact holds
  | exited failure => trivial

theorem Line.longer (line : Line log dam) (apart : entry.isPlace = false) :
    Line (log ++ [entry]) dam := by
  have enqueued : ∀ i, entry ≠ .enqueued i := by
    rintro i rfl
    cases apart
  have published : ∀ i, entry ≠ .published i := by
    rintro i rfl
    cases apart
  have cleared : ∀ i, entry ≠ .cleared i := by
    rintro i rfl
    cases apart
  have interrupted : ∀ i, entry ≠ .interrupted i := by
    rintro i rfl
    cases apart
  refine ⟨line.tidy, fun splash member => (line.queue splash member).longer (published _)
    (interrupted _), line.nodup, line.worker.longer entry published interrupted, ?_, ?_, ?_, ?_⟩
  · intro i member
    rcases List.mem_append.1 member with before | last
    · exact (line.current i before).imp_right (List.mem_append_left _)
    · exact absurd (List.mem_singleton.1 last).symm (published i)
  · intro i there
    obtain ⟨isPublished, uncleared⟩ := line.slot i there
    exact ⟨List.mem_append_left _ isPublished, not_mem_concat uncleared (cleared i)⟩
  · intro splash run there
    obtain ⟨passed, slot⟩ := line.task splash run there
    exact ⟨List.mem_append_left _ passed, slot⟩
  · intro i member
    rcases List.mem_append.1 member with before | last
    · exact (line.fate i before).imp_right
        (Or.imp (List.mem_append_left _) (List.mem_append_left _))
    · exact absurd (List.mem_singleton.1 last).symm (enqueued i)

theorem ReachedBy.longer {i : Nat} (reached : ReachedBy log c i) (more : List DamEntry) :
    ReachedBy (log ++ more) c i := by
  rcases reached with returned | ⟨seq, watermark, stamped, raised, lt⟩
  · exact Or.inl (List.mem_append_left _ returned)
  · exact Or.inr ⟨seq, watermark, List.mem_append_left _ stamped, List.mem_append_left _ raised, lt⟩

theorem Flags.longer (flags : Flags log dam) (apart : entry.isFlag = false) :
    Flags (log ++ [entry]) dam where
  marked := by
    intro c i member
    rcases List.mem_append.1 member with before | last
    · exact flags.marked c i before
    · rw [← List.mem_singleton.1 last] at apart
      cases apart
  reached := fun i member => (flags.reached i member).imp fun _ reached => reached.longer [entry]
  notified := by
    intro i
    rw [flags.notified i, List.mem_append, List.mem_singleton]
    refine ⟨Or.inl, ?_⟩
    rintro (before | rfl)
    · exact before
    · cases apart
  cancelled := flags.cancelled

theorem Checks.longer (checks : Checks log dam) (apart : entry.isCheck = false) :
    Checks (log ++ [entry]) dam where
  counts := by
    intro i
    have checked : entry ≠ .checked i := by
      rintro rfl
      cases apart
    have started : entry ≠ .started i := by
      rintro rfl
      cases apart
    rw [List.count_append, List.count_append, List.count_singleton, List.count_singleton,
      checks.counts i]
    simp [checked, started]
  interrupting := checks.interrupting
  progressing := checks.progressing

theorem stamps_concat (apart : entry.isStamped = false) : stamps (log ++ [entry]) = stamps log := by
  rw [stamps_append]
  simp [stamps, apart]

end Longer

/-! ### The same cells -/

section Same

variable {log : List DamEntry} {dam after : Dam} {run : DamRun}

theorem Line.congr (line : Line log dam) (queue : after.queue = dam.queue)
    (worker : after.worker = dam.worker) (current : after.current = dam.current)
    (task : after.task = dam.task) : Line log after := by
  cases dam
  cases after
  cases queue
  cases worker
  cases current
  cases task
  exact ⟨line.tidy, line.queue, line.nodup, line.worker, line.current, line.slot, line.task,
    line.fate⟩

theorem Flags.congr (flags : Flags log dam) (cancelled : after.cancelled = dam.cancelled)
    (notified : after.interruptNotified = dam.interruptNotified) : Flags log after :=
  ⟨cancelled ▸ flags.marked, cancelled ▸ flags.reached, notified ▸ flags.notified,
    cancelled ▸ notified ▸ flags.cancelled⟩

theorem Checks.congr (checks : Checks log dam) (task : after.task = dam.task)
    (cancelled : dam.cancelled ⊆ after.cancelled) : Checks log after where
  counts := by
    intro i
    rw [Dam.isStarting, task]
    exact checks.counts i
  interrupting := fun splash there => cancelled (checks.interrupting splash (task ▸ there))
  progressing := task ▸ checks.progressing

end Same

/-! ### The calls -/

section Calls

variable {log : List DamEntry} {dam : Dam} {run : DamRun} {entry : Option DamEntry} {c : Nat}
  {old steps : List DamStep}

/-- A section of call `c`. -/
theorem Tells.ofCall (tells : Tells log run) (entry : Option DamEntry)
    (found : run.calls[c]? = some old)
    (mine : ∀ e, entry = some e → e.byCall = some c ∧ e.subject = c)
    (shows_ : Shows (log ++ entry.toList) dam) (doing : Doing (log ++ entry.toList) c steps) :
    Tells (log ++ entry.toList) ⟨dam, run.calls.set c steps⟩ where
  shows_ := shows_
  bound := by
    intro e member
    rw [List.length_set]
    rcases List.mem_append.1 member with before | last
    · exact tells.bound e before
    · rw [(mine e (Option.mem_toList.1 last)).2]
      exact (List.getElem?_eq_some_iff.1 found).1
  calls := by
    intro other steps' there
    by_cases same : c = other
    · subst same
      rw [List.getElem?_set_self (List.getElem?_eq_some_iff.1 found).1] at there
      exact Option.some.inj there ▸ doing
    · rw [List.getElem?_set_ne same] at there
      have still := tells.calls other steps' there
      cases entry with
      | none => rwa [Option.toList_none, List.append_nil]
      | some e =>
        refine still.longer ?_
        rw [(mine e rfl).1]
        exact fun absurd => same (Option.some.inj absurd)

/-- An entry that concerns neither the queue nor the flags nor the checks. -/
theorem Shows.longer {e : DamEntry} (shows_ : Shows log dam) (fits : e.Fits log)
    (place : e.isPlace = false) (flag : e.isFlag = false) (check : e.isCheck = false)
    (stamp : e.isStamped = false) (raised : ∀ c watermark, e ≠ .raised c watermark) :
    Shows (log ++ [e]) dam where
  lawful := lawful_snoc.2 ⟨shows_.lawful, fits⟩
  seq := shows_.seq.trans (stamps_concat stamp).symm
  raised := shows_.raised.longer raised
  line := shows_.line.longer place
  flags := shows_.flags.longer flag
  checks := shows_.checks.longer check

/-- A call is refused. -/
theorem Tells.refuse (tells : Tells log run) (found : run.calls[c]? = some old) :
    Tells (log ++ [.refused c]) { run with calls := run.calls.set c [] } := by
  refine tells.ofCall (some (.refused c)) found ?_ ?_ trivial
  · rintro e ⟨⟩
    exact ⟨rfl, rfl⟩
  · exact tells.shows_.longer trivial rfl rfl rfl rfl fun _ _ => DamEntry.noConfusion

theorem unenqueued (tells : Tells log run) (unstamped : ∀ seq, .stamped c seq ∉ log) :
    .enqueued c ∉ log := by
  intro enqueued
  obtain ⟨seq, stamped⟩ := stamped_of_enqueued tells.shows_.lawful enqueued
  exact unstamped seq stamped

theorem Tells.checkRelease {task : LegacyTask} (tells : Tells log run)
    (found : run.calls[c]? = some [.checkRelease task]) :
    Tells log { run with calls := run.calls.set c [.stamp task] } := by
  have doing : Doing log c [.checkRelease task] := tells.calls c _ found
  have told : Tells (log ++ (none : Option DamEntry).toList)
      ⟨run.dam, run.calls.set c [.stamp task]⟩ := by
    refine tells.ofCall none found ?_ ?_ ?_
    · rintro e ⟨⟩
    · simpa using tells.shows_
    · rwa [Option.toList_none, List.append_nil]
  rwa [Option.toList_none, List.append_nil] at told

theorem Tells.stamp {task : LegacyTask} (tells : Tells log run)
    (found : run.calls[c]? = some [.stamp task]) (few : stamps log + 1 ≤ Checked.u64Max) :
    Tells (log ++ [.stamped c run.dam.enqueueSeq])
      ⟨{ run.dam with enqueueSeq := (run.dam.enqueueSeq + 1) % (Checked.u64Max + 1) },
        run.calls.set c [.send ⟨c, task, run.dam.enqueueSeq⟩]⟩ := by
  obtain ⟨began, unstamped⟩ : Doing log c [.stamp task] := tells.calls c _ found
  have here := tells.shows_
  refine tells.ofCall (some (.stamped c run.dam.enqueueSeq)) found ?_
    ⟨?_, ?_, ?_, ?_, ?_, ?_⟩ ?_
  · rintro e ⟨⟩
    exact ⟨rfl, rfl⟩
  · exact lawful_snoc.2 ⟨here.lawful, here.seq, began, unstamped⟩
  · rw [Option.toList_some, stamps_append, ← here.seq]
    exact Nat.mod_eq_of_lt (by rw [here.seq]; omega)
  · exact here.raised.longer fun _ _ => DamEntry.noConfusion
  · exact (here.line.longer rfl).congr rfl rfl rfl rfl
  · exact (here.flags.longer rfl).congr rfl rfl
  · exact (here.checks.longer rfl).congr rfl (Finset.Subset.refl _)
  · exact ⟨rfl, List.mem_append_right _ (List.mem_singleton_self _),
      not_mem_concat (unenqueued tells unstamped) DamEntry.noConfusion⟩

/-- The queue grows by a splash that was not sent before. -/
theorem Line.send {splash : Splash} (lawful : Lawful DamEntry.Fits log) (line : Line log dam)
    (stamped : .stamped splash.execution splash.seq ∈ log)
    (unenqueued : .enqueued splash.execution ∉ log) :
    Line (log ++ [.enqueued splash.execution]) { dam with queue := dam.queue ++ [splash] } := by
  have unsent : ∀ {i}, .enqueued i ∈ log → splash.execution ≠ i := by
    rintro i enqueued rfl
    exact unenqueued enqueued
  refine ⟨line.tidy, ?_, ?_, ?_, ?_, ?_, ?_, ?_⟩
  · intro other member
    rcases List.mem_append.1 member with before | last
    · exact (line.queue other before).longer DamEntry.noConfusion DamEntry.noConfusion
    · obtain rfl := List.mem_singleton.1 last
      refine ⟨List.mem_append_right _ (List.mem_singleton_self _), List.mem_append_left _ stamped,
        not_mem_concat ?_ DamEntry.noConfusion, not_mem_concat ?_ DamEntry.noConfusion⟩
      · exact fun published => unenqueued (enqueued_of_published lawful published)
      · exact fun interrupted => unenqueued (enqueued_of_interrupted lawful interrupted)
  · refine List.pairwise_append.2 ⟨line.nodup, List.pairwise_singleton _ _, ?_⟩
    intro other before last member
    obtain rfl := List.mem_singleton.1 member
    exact unsent (line.queue other before).enqueued
  · have holds := line.worker.longer (.enqueued splash.execution)
      (fun _ => DamEntry.noConfusion) (fun _ => DamEntry.noConfusion)
    have apart {held : Splash} (waits : Waits log held)
        (others : ∀ other ∈ dam.queue, other.execution ≠ held.execution) :
        ∀ other ∈ dam.queue ++ [splash], other.execution ≠ held.execution := by
      intro other member
      rcases List.mem_append.1 member with before | last
      · exact others other before
      · rw [List.mem_singleton.1 last]
        exact unsent waits.enqueued
    have worker := line.worker
    cases here : dam.worker with
    | received held =>
      rw [here] at holds worker
      exact ⟨holds.1, holds.2.1, apart worker.2.1 worker.2.2⟩
    | publishing held =>
      rw [here] at holds worker
      exact ⟨holds.1, holds.2.1, apart worker.2.1 worker.2.2⟩
    | _ =>
      rw [here] at holds
      exact holds
  · intro i member
    rcases List.mem_append.1 member with before | last
    · exact (line.current i before).imp_right (List.mem_append_left _)
    · exact DamEntry.noConfusion (List.mem_singleton.1 last)
  · intro i there
    obtain ⟨published, uncleared⟩ := line.slot i there
    exact ⟨List.mem_append_left _ published, not_mem_concat uncleared DamEntry.noConfusion⟩
  · intro held task there
    obtain ⟨passed, slot⟩ := line.task held task there
    exact ⟨List.mem_append_left _ passed, slot⟩
  · intro i member
    rcases List.mem_append.1 member with before | last
    · refine (line.fate i before).imp ?_ (Or.imp (List.mem_append_left _) (List.mem_append_left _))
      exact Or.imp_left fun ⟨other, queued, same⟩ => ⟨other, List.mem_append_left _ queued, same⟩
    · obtain rfl := DamEntry.enqueued.inj (List.mem_singleton.1 last)
      exact Or.inl (Or.inl ⟨splash, List.mem_append_right _ (List.mem_singleton_self _), rfl⟩)

theorem Tells.send {splash : Splash} (tells : Tells log run)
    (found : run.calls[c]? = some [.send splash]) :
    Tells (log ++ [.enqueued c])
      ⟨{ run.dam with queue := run.dam.queue ++ [splash] }, run.calls.set c []⟩ := by
  obtain ⟨rfl, stamped, unenqueued⟩ : Doing log c [.send splash] := tells.calls c _ found
  have here := tells.shows_
  refine tells.ofCall (some (.enqueued splash.execution)) found ?_
    ⟨?_, ?_, ?_, ?_, ?_, ?_⟩ trivial
  · rintro e ⟨⟩
    exact ⟨rfl, rfl⟩
  · exact lawful_snoc.2 ⟨here.lawful, _, stamped⟩
  · exact here.seq.trans (stamps_concat rfl).symm
  · exact here.raised.longer fun _ _ => DamEntry.noConfusion
  · exact here.line.send here.lawful stamped unenqueued
  · exact (here.flags.longer rfl).congr rfl rfl
  · exact (here.checks.longer rfl).congr rfl (Finset.Subset.refl _)

theorem Tells.loadSeq (tells : Tells log run)
    (found : run.calls[c]? = some [.loadSeq, .cancelCurrent]) :
    Tells (log ++ [.loaded c run.dam.enqueueSeq])
      ⟨run.dam, run.calls.set c [.raise run.dam.enqueueSeq, .cancelCurrent]⟩ := by
  obtain ⟨began, unreturned⟩ : Doing log c [.loadSeq, .cancelCurrent] := tells.calls c _ found
  refine tells.ofCall (some (.loaded c run.dam.enqueueSeq)) found ?_ ?_ ?_
  · rintro e ⟨⟩
    exact ⟨rfl, rfl⟩
  · have fits : (DamEntry.loaded c run.dam.enqueueSeq).Fits log := ⟨tells.shows_.seq, began⟩
    exact tells.shows_.longer fits rfl rfl rfl rfl fun _ _ => DamEntry.noConfusion
  · exact ⟨List.mem_append_right _ (List.mem_singleton_self _),
      fun marked => not_mem_concat (unreturned marked) DamEntry.noConfusion⟩

theorem Raised.raise {watermark height : Nat} (raised : Raised log watermark) (c : Nat) :
    Raised (log ++ [.raised c height]) (max watermark height) where
  highest := by
    intro other earlier member
    rcases List.mem_append.1 member with before | last
    · exact (raised.highest other earlier before).trans (Nat.le_max_left _ _)
    · obtain ⟨rfl, rfl⟩ := DamEntry.raised.inj (List.mem_singleton.1 last)
      exact Nat.le_max_right _ _
  source := by
    rcases Nat.le_total height watermark with below | above
    · rw [Nat.max_eq_left below]
      exact raised.source.imp_right fun ⟨c, member⟩ => ⟨c, List.mem_append_left _ member⟩
    · rw [Nat.max_eq_right above]
      exact Or.inr ⟨c, List.mem_append_right _ (List.mem_singleton_self _)⟩

theorem Tells.raise {watermark : Nat} (tells : Tells log run)
    (found : run.calls[c]? = some [.raise watermark, .cancelCurrent]) :
    Tells (log ++ [.raised c watermark])
      ⟨{ run.dam with cancelWatermark := max run.dam.cancelWatermark watermark },
        run.calls.set c [.cancelCurrent]⟩ := by
  obtain ⟨loaded, unreturned⟩ : Doing log c [.raise watermark, .cancelCurrent] :=
    tells.calls c _ found
  have here := tells.shows_
  refine tells.ofCall (some (.raised c watermark)) found ?_ ⟨?_, ?_, ?_, ?_, ?_, ?_⟩ ?_
  · rintro e ⟨⟩
    exact ⟨rfl, rfl⟩
  · exact lawful_snoc.2 ⟨here.lawful, loaded, unreturned⟩
  · exact here.seq.trans (stamps_concat rfl).symm
  · exact here.raised.raise c
  · exact (here.line.longer rfl).congr rfl rfl rfl rfl
  · exact (here.flags.longer rfl).congr rfl rfl
  · exact (here.checks.longer rfl).congr rfl (Finset.Subset.refl _)
  · exact ⟨⟨watermark, List.mem_append_right _ (List.mem_singleton_self _)⟩,
      fun marked => not_mem_concat (unreturned marked) DamEntry.noConfusion⟩

/-- The execution in the slot is cancelled. -/
theorem Tells.cancelCurrent (tells : Tells log run)
    (found : run.calls[c]? = some [.cancelCurrent]) :
    Tells (log ++ [.returned c run.dam.current])
      ⟨run.dam.current.elim run.dam run.dam.cancel, run.calls.set c []⟩ := by
  obtain ⟨raised, unreturned⟩ : Doing log c [.cancelCurrent] := tells.calls c _ found
  have here := tells.shows_
  have same {α : Type} (f : Dam → α) (kept : ∀ dam i, f (Dam.cancel dam i) = f dam) :
      f (run.dam.current.elim run.dam run.dam.cancel) = f run.dam := by
    cases run.dam.current with
    | none => rfl
    | some i => exact kept run.dam i
  have cancels : ∀ i, i ∈ (run.dam.current.elim run.dam run.dam.cancel).cancelled ↔
      run.dam.current = some i ∨ i ∈ run.dam.cancelled := by
    intro i
    cases run.dam.current with
    | none => simp
    | some j => simp [Dam.cancel, eq_comm]
  refine tells.ofCall (some (.returned c run.dam.current)) found ?_
    ⟨?_, ?_, ?_, ?_, ⟨?_, ?_, ?_, ?_⟩, ?_⟩ trivial
  · rintro e ⟨⟩
    exact ⟨rfl, rfl⟩
  · exact lawful_snoc.2 ⟨here.lawful, raised, unreturned, fun i there => (here.line.slot i there).1,
      here.line.current⟩
  · rw [same Dam.enqueueSeq fun _ _ => rfl]
    exact here.seq.trans (stamps_concat rfl).symm
  · rw [same Dam.cancelWatermark fun _ _ => rfl]
    exact here.raised.longer fun _ _ => DamEntry.noConfusion
  · exact (here.line.longer rfl).congr (same Dam.queue fun _ _ => rfl)
      (same Dam.worker fun _ _ => rfl) (same Dam.current fun _ _ => rfl)
      (same Dam.task fun _ _ => rfl)
  · intro other i member
    rw [cancels]
    rcases List.mem_append.1 member with before | last
    · exact Or.inr (here.flags.marked other i before)
    · exact Or.inl (DamEntry.returned.inj (List.mem_singleton.1 last)).2.symm
  · intro i member
    rcases (cancels i).1 member with there | before
    · rw [there]
      exact ⟨c, Or.inl (List.mem_append_right _ (List.mem_singleton_self _))⟩
    · exact (here.flags.reached i before).imp fun _ reached => reached.longer _
  · intro i
    rw [same Dam.interruptNotified fun _ _ => rfl, here.flags.notified i, Option.toList_some,
      List.mem_append, List.mem_singleton]
    exact ⟨Or.inl, fun found => found.elim id DamEntry.noConfusion⟩
  · rw [same Dam.interruptNotified fun _ _ => rfl]
    exact fun i member => (cancels i).2 (Or.inr (here.flags.cancelled member))
  · exact (here.checks.longer rfl).congr (same Dam.task fun _ _ => rfl)
      fun i member => (cancels i).2 (Or.inr member)

/-- A section of a call. -/
theorem Tells.advance {step : DamStep} {rest : List DamStep} (tells : Tells log run)
    (found : run.calls[c]? = some (step :: rest))
    (few : stamps (log ++ (run.dam.callEntry c step).toList) ≤ Checked.u64Max) :
    Tells (log ++ (run.dam.callEntry c step).toList) (run.advance c step rest) := by
  have doing := tells.calls c _ found
  cases stepped : run.dam.step c step with
  | error error =>
    simp only [Dam.callEntry, DamRun.advance, stepped]
    exact tells.refuse found
  | ok next =>
    obtain ⟨dam, steps⟩ := next
    simp only [Dam.callEntry, DamRun.advance, stepped] at few ⊢
    cases step with
    | checkRelease task =>
      cases rest with
      | cons step rest => exact doing.elim
      | nil =>
        simp only [Dam.step] at stepped
        split at stepped
        · cases stepped
        · obtain ⟨rfl, rfl⟩ := Prod.mk.inj (Except.ok.inj stepped)
          simpa using tells.checkRelease found
    | stamp task =>
      cases rest with
      | cons step rest => exact doing.elim
      | nil =>
        obtain ⟨rfl, rfl⟩ := Prod.mk.inj (Except.ok.inj stepped)
        rw [Option.toList_some, stamps_append] at few
        exact tells.stamp found few
    | send splash =>
      cases rest with
      | cons step rest => exact doing.elim
      | nil =>
        simp only [Dam.step] at stepped
        split at stepped
        · cases stepped
        · split at stepped
          · cases stepped
          · obtain ⟨rfl, rfl⟩ := Prod.mk.inj (Except.ok.inj stepped)
            exact tells.send found
    | loadSeq =>
      obtain rfl : rest = [.cancelCurrent] := by
        unfold Doing at doing
        split at doing <;> simp_all
      obtain ⟨rfl, rfl⟩ := Prod.mk.inj (Except.ok.inj stepped)
      exact tells.loadSeq found
    | raise watermark =>
      obtain rfl : rest = [.cancelCurrent] := by
        unfold Doing at doing
        split at doing <;> simp_all
      obtain ⟨rfl, rfl⟩ := Prod.mk.inj (Except.ok.inj stepped)
      exact tells.raise found
    | cancelCurrent =>
      cases rest with
      | cons step rest => exact doing.elim
      | nil =>
        obtain ⟨rfl, rfl⟩ := Prod.mk.inj (Except.ok.inj stepped)
        exact tells.cancelCurrent found
    | setReleased => cases rest <;> exact doing.elim
    | storeMax => cases rest <;> exact doing.elim
    | closeSender => cases rest <;> exact doing.elim

end Calls

/-! ### The worker -/

section Worker

variable {log : List DamEntry} {dam after : Dam} {splash : Splash} {failure : Option String}

/-- An entry that fits belongs to an execution that was enqueued, unless a call made it. -/
theorem enqueued_of_fits {entry : DamEntry} (lawful : Lawful DamEntry.Fits log)
    (fits : entry.Fits log) (others : entry.byCall = none) : .enqueued entry.subject ∈ log := by
  have passed {i : Nat} (passed : .passed i ∈ log) : .enqueued i ∈ log :=
    enqueued_of_published lawful (published_of_passed lawful passed)
  cases entry with
  | published i => exact fits
  | passed i => exact enqueued_of_published lawful fits.1
  | cleared i => exact enqueued_of_published lawful fits
  | checked i => exact passed fits.1
  | started i => exact passed fits.1
  | interrupted i => exact fits.1
  | completed i => exact passed fits
  | errored i => exact passed fits
  | _ => cases others

/-- A worker that does not join has no task. -/
theorem Line.task_eq_none {worker : DamWorker} (line : Line log dam) (here : dam.worker = worker)
    (idle : ∀ splash, worker ≠ .joining splash) (awake : worker.hasExited = false) :
    dam.task = none :=
  line.tidy.task_eq_none (fun splash => here ▸ idle splash) (here ▸ awake)

/-- The worker of a dam moves on, with nothing in the log. -/
theorem Shows.move (shows_ : Shows log dam) (line : Line log after)
    (seq : after.enqueueSeq = dam.enqueueSeq)
    (watermark : after.cancelWatermark = dam.cancelWatermark)
    (cancelled : after.cancelled = dam.cancelled)
    (notified : after.interruptNotified = dam.interruptNotified) (task : after.task = dam.task) :
    Shows log after where
  lawful := shows_.lawful
  seq := seq.trans shows_.seq
  raised := watermark ▸ shows_.raised
  line := line
  flags := shows_.flags.congr cancelled notified
  checks := shows_.checks.congr task (cancelled ▸ Finset.Subset.refl _)

/-- The worker takes a splash out of the channel. -/
theorem Shows.receive {queue : List Splash} (shows_ : Shows log dam)
    (here : dam.worker = .receiving) (queued : dam.queue = splash :: queue) :
    Shows log { dam with queue := queue, worker := .received splash } := by
  have line := shows_.line
  have none_ := line.task_eq_none here (by rintro splash ⟨⟩) rfl
  have worker := line.worker
  have waits := line.queue
  have nodup := line.nodup
  rw [here] at worker
  rw [queued] at waits nodup
  refine shows_.move ⟨.of_task_eq_none none_, ?_, ?_, ?_, line.current, line.slot, line.task, ?_⟩
    rfl rfl rfl rfl rfl
  · exact fun other member => waits other (List.mem_cons_of_mem _ member)
  · exact (List.pairwise_cons.1 nodup).2
  · exact ⟨worker, waits splash List.mem_cons_self, (List.pairwise_cons.1 nodup).1⟩
  · intro i enqueued
    refine (line.fate i enqueued).imp_left ?_
    rintro (⟨other, member, rfl⟩ | ⟨other, undecided, -⟩)
    · rw [queued] at member
      rcases List.mem_cons.1 member with rfl | rest
      · exact Or.inr ⟨other, rfl, rfl⟩
      · exact Or.inl ⟨other, rest, rfl⟩
    · rw [here] at undecided
      cases undecided

/-- The worker moves on, and the splash it holds stays undecided or decided. -/
theorem Line.advance {worker : DamWorker} (line : Line log dam) (holds : Holds log dam worker)
    (undecided : worker.undecided = dam.worker.undecided) (tidy : Dam.Tidy { dam with worker }) :
    Line log { dam with worker } := by
  refine ⟨tidy, line.queue, line.nodup, ?_, line.current, line.slot, line.task, ?_⟩
  · cases worker <;> exact holds
  · intro i enqueued
    refine (line.fate i enqueued).imp_left ?_
    rintro (queued | waiting)
    · exact Or.inl queued
    · exact Or.inr (by rwa [undecided])

/-- The splash is put into the slot. -/
theorem Shows.publish (shows_ : Shows log dam) (here : dam.worker = .publishing splash) :
    Shows (log ++ [.published splash.execution])
      { dam with current := some splash.execution, worker := .published splash } := by
  have line := shows_.line
  have none_ := line.task_eq_none here (by rintro splash ⟨⟩) rfl
  obtain ⟨empty, waits, others⟩ : Holds log dam (.publishing splash) := here ▸ line.worker
  have lawful : Lawful DamEntry.Fits (log ++ [.published splash.execution]) :=
    lawful_snoc.2 ⟨shows_.lawful, waits.enqueued⟩
  refine ⟨lawful, shows_.seq.trans (stamps_concat rfl).symm,
    shows_.raised.longer fun _ _ => DamEntry.noConfusion,
    ⟨.of_task_eq_none none_, ?_, line.nodup, ?_, ?_, ?_, ?_, ?_⟩,
    (shows_.flags.longer rfl).congr rfl rfl,
    (shows_.checks.longer rfl).congr rfl (Finset.Subset.refl _)⟩
  · intro other member
    refine (line.queue other member).longer ?_ DamEntry.noConfusion
    exact fun same => others other member (DamEntry.published.inj same).symm
  · exact ⟨rfl, List.mem_append_left _ waits.enqueued, List.mem_append_left _ waits.stamped,
      not_mem_concat waits.uninterrupted DamEntry.noConfusion⟩
  · intro i member
    rcases List.mem_append.1 member with before | last
    · rcases line.current i before with there | cleared
      · rw [empty] at there
        cases there
      · exact Or.inr (List.mem_append_left _ cleared)
    · rw [DamEntry.published.inj (List.mem_singleton.1 last)]
      exact Or.inl rfl
  · intro i there
    obtain rfl := Option.some.inj there
    refine ⟨List.mem_append_right _ (List.mem_singleton_self _),
      not_mem_concat ?_ DamEntry.noConfusion⟩
    intro cleared
    obtain ⟨before, rest, rfl⟩ := List.append_of_mem cleared
    exact waits.unpublished (List.mem_append_left _ (shows_.lawful before (.cleared _) rest rfl))
  · intro other run there
    rw [none_] at there
    cases there
  · intro i member
    rcases List.mem_append.1 member with before | last
    · refine (line.fate i before).imp ?_ (Or.imp (List.mem_append_left _) (List.mem_append_left _))
      refine Or.imp_right ?_
      rintro ⟨other, undecided, same⟩
      rw [here] at undecided
      exact ⟨other, undecided, same⟩
    · exact DamEntry.noConfusion (List.mem_singleton.1 last)

/-- The watermark is read again and lies no higher. -/
theorem Shows.pass (shows_ : Shows log dam) (here : dam.worker = .published splash)
    (above : dam.cancelWatermark ≤ splash.seq) :
    Shows (log ++ [.passed splash.execution]) { dam with worker := .spawning splash } := by
  have line := shows_.line
  have none_ := line.task_eq_none here (by rintro splash ⟨⟩) rfl
  obtain ⟨slot, enqueued, stamped, -⟩ : Holds log dam (.published splash) := here ▸ line.worker
  have fits : (DamEntry.passed splash.execution).Fits log :=
    ⟨(line.slot _ slot).1, splash.seq, stamped,
      fun c watermark raised => (shows_.raised.highest c watermark raised).trans above⟩
  have longer := shows_.longer fits rfl rfl rfl rfl fun _ _ => DamEntry.noConfusion
  have passed : .passed splash.execution ∈ log ++ [.passed splash.execution] :=
    List.mem_append_right _ (List.mem_singleton_self _)
  refine longer.move ⟨.of_task_eq_none none_, longer.line.queue, longer.line.nodup, ⟨slot, passed⟩,
    longer.line.current, longer.line.slot, longer.line.task, ?_⟩ rfl rfl rfl rfl rfl
  intro i member
  rcases longer.line.fate i member with (queued | ⟨other, undecided, rfl⟩) | later
  · exact Or.inl (Or.inl queued)
  · rw [here] at undecided
    obtain rfl := Option.some.inj undecided
    exact Or.inr (Or.inr passed)
  · exact Or.inr later

/-- The task of the splash is spawned. -/
theorem Shows.spawn (shows_ : Shows log dam) (here : dam.worker = .spawning splash) :
    Shows log { dam with task := some (splash, .checking 0), worker := .joining splash } := by
  have line := shows_.line
  have none_ := line.task_eq_none here (by rintro splash ⟨⟩) rfl
  obtain ⟨slot, passed⟩ : Holds log dam (.spawning splash) := here ▸ line.worker
  refine ⟨shows_.lawful, shows_.seq, shows_.raised,
    ⟨fun _ => Or.inl ⟨splash, rfl⟩, line.queue, line.nodup, ⟨slot, passed⟩, line.current, line.slot,
      ?_, ?_⟩, shows_.flags.congr rfl rfl, ⟨?_, ?_, ?_⟩⟩
  · rintro other run ⟨⟩
    exact ⟨passed, slot⟩
  · intro i member
    refine (line.fate i member).imp_left (Or.imp_right ?_)
    rintro ⟨other, undecided, -⟩
    rw [here] at undecided
    cases undecided
  · intro i
    have counts := shows_.checks.counts i
    rw [Dam.isStarting, none_] at counts
    rw [Dam.isStarting]
    simpa [RunTask.isStarting] using counts
  · rintro other ⟨⟩
  · rintro other attempt ⟨⟩

/-- The task is joined. -/
theorem Shows.join {worker : DamWorker} {other : Splash} {run : RunTask} {failures : List String}
    (shows_ : Shows log dam) (here : dam.worker = .joining splash)
    (there : dam.task = some (other, run)) (ended : run.isStarting = false)
    (next : worker = .healing splash ∨ worker = .clearing splash) :
    Shows log { dam with task := none, callbackFailures := failures, worker } := by
  have line := shows_.line
  obtain ⟨slot, passed⟩ : Holds log dam (.joining splash) := here ▸ line.worker
  have decided : worker.undecided = none := by rcases next with rfl | rfl <;> rfl
  refine ⟨shows_.lawful, shows_.seq, shows_.raised,
    ⟨.of_task_eq_none rfl, line.queue, line.nodup, ?_, line.current, line.slot, ?_, ?_⟩,
    shows_.flags.congr rfl rfl, ⟨?_, ?_, ?_⟩⟩
  · rcases next with rfl | rfl
    · exact ⟨slot, passed⟩
    · exact slot
  · rintro other run ⟨⟩
  · intro i member
    refine (line.fate i member).imp_left (Or.imp_right ?_)
    rintro ⟨other, undecided, -⟩
    rw [here] at undecided
    cases undecided
  · intro i
    have counts := shows_.checks.counts i
    rw [Dam.isStarting, there, Option.any_some, ended, Bool.and_false] at counts
    exact counts
  · rintro other ⟨⟩
  · rintro other attempt ⟨⟩

/-- The slot is cleared. -/
theorem Shows.clear (shows_ : Shows log dam) (here : dam.worker = .clearing splash) :
    Shows (log ++ [.cleared splash.execution])
      { dam with current := none, worker := .receiving } := by
  have line := shows_.line
  have none_ := line.task_eq_none here (by rintro splash ⟨⟩) rfl
  have slot : Holds log dam (.clearing splash) := here ▸ line.worker
  have fits : (DamEntry.cleared splash.execution).Fits log := (line.slot _ slot).1
  refine ⟨lawful_snoc.2 ⟨shows_.lawful, fits⟩, shows_.seq.trans (stamps_concat rfl).symm,
    shows_.raised.longer fun _ _ => DamEntry.noConfusion,
    ⟨.of_task_eq_none none_, ?_, line.nodup, rfl, ?_, ?_, ?_, ?_⟩,
    (shows_.flags.longer rfl).congr rfl rfl,
    (shows_.checks.longer rfl).congr rfl (Finset.Subset.refl _)⟩
  · exact fun other member =>
      (line.queue other member).longer DamEntry.noConfusion DamEntry.noConfusion
  · intro i member
    rcases List.mem_append.1 member with before | last
    · rcases line.current i before with there | cleared
      · obtain rfl : splash.execution = i := Option.some.inj (slot.symm.trans there)
        exact Or.inr (List.mem_append_right _ (List.mem_singleton_self _))
      · exact Or.inr (List.mem_append_left _ cleared)
    · exact DamEntry.noConfusion (List.mem_singleton.1 last)
  · rintro i ⟨⟩
  · intro other run there
    rw [none_] at there
    cases there
  · intro i member
    rcases List.mem_append.1 member with before | last
    · refine (line.fate i before).imp ?_ (Or.imp (List.mem_append_left _) (List.mem_append_left _))
      refine Or.imp_right ?_
      rintro ⟨other, undecided, -⟩
      rw [here] at undecided
      cases undecided
    · exact DamEntry.noConfusion (List.mem_singleton.1 last)

/-- The runtime drops the worker, or it returns. -/
theorem Shows.exit (shows_ : Shows log dam) (decided : dam.worker.undecided = none)
    (tidy : Dam.Tidy { dam with worker := .exited failure }) :
    Shows log { dam with worker := .exited failure } :=
  shows_.move (shows_.line.advance trivial decided.symm tidy) rfl rfl rfl rfl rfl

/-! ### Interruptions -/

theorem mem_interrupts {i : Nat} {entry : DamEntry} :
    entry ∈ log ++ (dam.interrupts i).toList ↔
      entry ∈ log ∨ i ∉ dam.interruptNotified ∧ entry = .interrupted i := by
  unfold Dam.interrupts
  split
  · rename_i notified
    simp [notified]
  · rename_i fresh
    simp [fresh]

/-- `on_interrupt` has run by now. -/
theorem Flags.interrupted (flags : Flags log dam) (i : Nat) :
    .interrupted i ∈ log ++ (dam.interrupts i).toList := by
  rw [mem_interrupts]
  by_cases notified : i ∈ dam.interruptNotified
  · exact Or.inl ((flags.notified i).1 notified)
  · exact Or.inr ⟨notified, rfl⟩

/-- Only an interruption was added. -/
theorem mem_of_mem_interrupts {i : Nat} {entry : DamEntry}
    (member : entry ∈ log ++ (dam.interrupts i).toList) (apart : entry ≠ .interrupted i) :
    entry ∈ log :=
  (mem_interrupts.1 member).elim id fun new => absurd new.2 apart

theorem mem_interrupts_of_mem {entry : DamEntry} (member : entry ∈ log) (i : Nat) :
    entry ∈ log ++ (dam.interrupts i).toList :=
  List.mem_append_left _ member

/-- `notify_interrupt`, of an execution that a call has reached. -/
theorem Shows.notify {i : Nat} (shows_ : Shows log dam) (enqueued : .enqueued i ∈ log)
    (reached : ∃ c, ReachedBy log c i) (line : Line (log ++ (dam.interrupts i).toList) after)
    (seq : after.enqueueSeq = dam.enqueueSeq)
    (watermark : after.cancelWatermark = dam.cancelWatermark)
    (cancelled : after.cancelled = insert i dam.cancelled)
    (notified : after.interruptNotified = insert i dam.interruptNotified)
    (task : Checks log after) : Shows (log ++ (dam.interrupts i).toList) after := by
  have flags := shows_.flags
  refine ⟨?_, ?_, ⟨?_, ?_⟩, line, ⟨?_, ?_, ?_, ?_⟩, ?_⟩
  · unfold Dam.interrupts
    split
    · simpa using shows_.lawful
    · rename_i fresh
      have fits : (DamEntry.interrupted i).Fits log :=
        ⟨enqueued, fun member => fresh ((flags.notified i).2 member)⟩
      exact lawful_snoc.2 ⟨shows_.lawful, fits⟩
  · rw [seq, shows_.seq]
    unfold Dam.interrupts
    split
    · simp
    · exact (stamps_concat rfl).symm
  · intro c height member
    rw [watermark]
    exact shows_.raised.highest c height (mem_of_mem_interrupts member DamEntry.noConfusion)
  · rw [watermark]
    exact shows_.raised.source.imp_right fun ⟨c, member⟩ => ⟨c, mem_interrupts_of_mem member i⟩
  · intro c j member
    rw [cancelled]
    exact Finset.mem_insert_of_mem
      (flags.marked c j (mem_of_mem_interrupts member DamEntry.noConfusion))
  · intro j member
    rw [cancelled] at member
    rcases Finset.mem_insert.1 member with rfl | before
    · exact reached.imp fun _ reached => reached.longer _
    · exact (flags.reached j before).imp fun _ reached => reached.longer _
  · intro j
    rw [notified, Finset.mem_insert]
    constructor
    · rintro (rfl | before)
      · exact flags.interrupted j
      · exact mem_interrupts_of_mem ((flags.notified j).1 before) i
    · intro member
      rcases mem_interrupts.1 member with before | ⟨-, same⟩
      · exact Or.inr ((flags.notified j).2 before)
      · exact Or.inl (DamEntry.interrupted.inj same)
  · rw [notified, cancelled]
    exact Finset.insert_subset_insert i flags.cancelled
  · unfold Dam.interrupts
    split
    · simpa using task
    · exact task.longer rfl

/-- The slot and the queue of an execution that is interrupted. -/
theorem Line.notify {i : Nat} {worker : DamWorker} (line : Line log dam) (flags : Flags log dam)
    (holds : Holds (log ++ (dam.interrupts i).toList) dam worker)
    (decided : worker.undecided = none)
    (others : ∀ splash ∈ dam.queue, splash.execution ≠ i)
    (held : ∀ splash ∈ dam.worker.undecided, splash.execution = i)
    (tidy : Dam.Tidy { dam with worker }) :
    Line (log ++ (dam.interrupts i).toList) { dam with worker } := by
  refine ⟨tidy, ?_, line.nodup, ?_, ?_, ?_, ?_, ?_⟩
  · intro splash member
    have waits := line.queue splash member
    refine ⟨mem_interrupts_of_mem waits.enqueued i, mem_interrupts_of_mem waits.stamped i,
      fun absurd => waits.unpublished (mem_of_mem_interrupts absurd DamEntry.noConfusion),
      fun absurd => waits.uninterrupted (mem_of_mem_interrupts absurd ?_)⟩
    exact fun same => others splash member (DamEntry.interrupted.inj same)
  · cases worker <;> exact holds
  · intro j member
    exact (line.current j (mem_of_mem_interrupts member DamEntry.noConfusion)).imp_right
      fun cleared => mem_interrupts_of_mem cleared i
  · intro j there
    obtain ⟨published, uncleared⟩ := line.slot j there
    exact ⟨mem_interrupts_of_mem published i,
      fun absurd => uncleared (mem_of_mem_interrupts absurd DamEntry.noConfusion)⟩
  · intro splash run there
    obtain ⟨passed, slot⟩ := line.task splash run there
    exact ⟨mem_interrupts_of_mem passed i, slot⟩
  · intro j member
    rcases line.fate j (mem_of_mem_interrupts member DamEntry.noConfusion) with
      (queued | ⟨splash, undecided, rfl⟩) | interrupted | passed
    · exact Or.inl (Or.inl queued)
    · rw [held splash undecided]
      exact Or.inr (Or.inl (flags.interrupted i))
    · exact Or.inr (Or.inl (mem_interrupts_of_mem interrupted i))
    · exact Or.inr (Or.inr (mem_interrupts_of_mem passed i))

/-- What lies below the watermark was reached by the call that raised it. -/
theorem Shows.reached_of_lt (shows_ : Shows log dam)
    (stamped : .stamped splash.execution splash.seq ∈ log)
    (below : splash.seq < dam.cancelWatermark) : ∃ c, ReachedBy log c splash.execution := by
  rcases shows_.raised.source with zero | ⟨c, raised⟩
  · rw [zero] at below
    exact absurd below (Nat.not_lt_zero _)
  · exact ⟨c, Or.inr ⟨splash.seq, _, stamped, raised, below⟩⟩

/-- The first read of the watermark finds it above the splash. -/
theorem Shows.drop (shows_ : Shows log dam) (here : dam.worker = .received splash)
    (below : splash.seq < dam.cancelWatermark) :
    Shows (log ++ (dam.interrupts splash.execution).toList)
      { dam.notifyInterrupt splash.execution failure with worker := .receiving } := by
  have line := shows_.line
  have none_ := line.task_eq_none here (by rintro splash ⟨⟩) rfl
  obtain ⟨empty, waits, others⟩ : Holds log dam (.received splash) := here ▸ line.worker
  refine shows_.notify waits.enqueued (shows_.reached_of_lt waits.stamped below) ?_ rfl rfl rfl rfl
    (shows_.checks.congr rfl (Finset.subset_insert _ _))
  have kept : Line (log ++ (dam.interrupts splash.execution).toList)
      { dam with worker := .receiving } := by
    refine line.notify shows_.flags empty rfl others ?_ (.of_task_eq_none none_)
    intro other undecided
    rw [here] at undecided
    rw [← Option.some.inj undecided]
  exact kept.congr rfl rfl rfl rfl

/-- The second read finds it above the splash, or the sleep of a periodic task is interrupted. -/
theorem Shows.giveUp {held : Splash} (shows_ : Shows log dam)
    (slot : dam.current = some held.execution)
    (enqueued : .enqueued held.execution ∈ log) (reached : ∃ c, ReachedBy log c held.execution)
    (none_ : dam.task = none) (here : ∀ splash ∈ dam.worker.undecided, splash = held) :
    Shows (log ++ (dam.interrupts held.execution).toList)
      { dam.notifyInterrupt held.execution failure with worker := .clearing held } := by
  have line := shows_.line
  refine shows_.notify enqueued reached ?_ rfl rfl rfl rfl
    (shows_.checks.congr rfl (Finset.subset_insert _ _))
  have kept : Line (log ++ (dam.interrupts held.execution).toList)
      { dam with worker := .clearing held } := by
    refine line.notify shows_.flags slot rfl ?_ ?_ (.of_task_eq_none none_)
    · intro other queued same
      have published := (line.slot _ slot).1
      rw [← same] at published
      exact (line.queue other queued).unpublished published
    · exact fun other undecided => by rw [here other undecided]
  exact kept.congr rfl rfl rfl rfl

/-- A section that leaves the log as it was. -/
theorem Shows.silent (shows_ : Shows log after) {entry : Option DamEntry} (none_ : entry = none) :
    Shows (log ++ entry.toList) after := by
  rwa [none_, Option.toList_none, List.append_nil]

/-- The task has ended. -/
theorem Shows.joined {other : Splash} {run : RunTask} {event : DamEvent} (shows_ : Shows log dam)
    (here : dam.worker = .joining splash) (there : dam.task = some (other, run))
    (step : dam.joined splash run event = some after) :
    Shows (log ++ (dam.workerEntry event).toList) after := by
  obtain ⟨-, passed⟩ : Holds log dam (.joining splash) := here ▸ shows_.line.worker
  unfold Dam.joined at step
  split at step
  · obtain rfl := Option.some.inj step
    exact (shows_.join here there rfl (Or.inr rfl)).silent (by simp [Dam.workerEntry, here])
  · obtain rfl := Option.some.inj step
    exact (shows_.join here there rfl (Or.inr rfl)).silent (by simp [Dam.workerEntry, here])
  · rename_i failure
    obtain rfl := Option.some.inj step
    have fits : (DamEntry.errored splash.execution).Fits log := passed
    have longer := shows_.longer fits rfl rfl rfl rfl fun _ _ => DamEntry.noConfusion
    simp only [Dam.workerEntry, here]
    refine longer.join here there rfl ?_
    split
    · exact Or.inl rfl
    · exact Or.inr rfl
  · cases step

/-- A section of the worker. -/
theorem Shows.worker {event : DamEvent} (shows_ : Shows log dam)
    (step : dam.workerStep event = some after) :
    Shows (log ++ (dam.workerEntry event).toList) after := by
  have line := shows_.line
  have idle {worker : DamWorker} (here : dam.worker = worker)
      (idle : ∀ splash, worker ≠ .joining splash) (awake : worker.hasExited = false)
      (next : DamWorker) : Dam.Tidy { dam with worker := next } :=
    .of_task_eq_none (line.task_eq_none here idle awake)
  unfold Dam.workerStep at step
  split at step
  · rename_i here
    split at step
    · rename_i queued
      exact Option.some.inj step ▸
        (shows_.receive here queued).silent (by simp [Dam.workerEntry, here])
    · obtain ⟨-, same⟩ := Option.ite_none_left_eq_some.1 step
      exact Option.some.inj same ▸ (shows_.exit (by rw [here]; rfl)
        (idle here (by rintro splash ⟨⟩) rfl _)).silent (by simp [Dam.workerEntry, here])
  · rename_i splash failure here
    obtain ⟨below, same⟩ := Option.ite_none_right_eq_some.1 step
    simp only [Dam.workerEntry, here]
    exact Option.some.inj same ▸ shows_.drop here below
  · rename_i splash here
    obtain ⟨-, same⟩ := Option.ite_none_left_eq_some.1 step
    obtain rfl := Option.some.inj same
    have holds : Holds log dam (.received splash) := here ▸ line.worker
    have moved : Line log { dam with worker := .publishing splash } :=
      line.advance holds (by rw [here]; rfl) (idle here (by rintro splash ⟨⟩) rfl _)
    exact (shows_.move moved rfl rfl rfl rfl rfl).silent (by simp [Dam.workerEntry, here])
  · rename_i splash here
    simp only [Dam.workerEntry, here]
    exact Option.some.inj step ▸ shows_.publish here
  · rename_i splash failure here
    obtain ⟨below, same⟩ := Option.ite_none_right_eq_some.1 step
    obtain ⟨slot, enqueued, stamped, -⟩ : Holds log dam (.published splash) := here ▸ line.worker
    simp only [Dam.workerEntry, here]
    refine Option.some.inj same ▸ shows_.giveUp slot enqueued (shows_.reached_of_lt stamped below)
      (line.task_eq_none here (by rintro splash ⟨⟩) rfl) ?_
    intro other undecided
    rw [here] at undecided
    exact (Option.some.inj undecided).symm
  · rename_i splash here
    obtain ⟨above, same⟩ := Option.ite_none_left_eq_some.1 step
    simp only [Dam.workerEntry, here]
    exact Option.some.inj same ▸ shows_.pass here (Nat.not_lt.1 above)
  · rename_i splash here
    exact Option.some.inj step ▸ (shows_.spawn here).silent (by simp [Dam.workerEntry, here])
  · rename_i splash event here
    split at step
    · rename_i other run there
      split at step
      · rename_i dropped
        subst dropped
        refine Option.some.inj step ▸ (shows_.exit (by rw [here]; rfl) ?_).silent
          (by simp [Dam.workerEntry, here])
        exact fun _ => Or.inr ⟨_, rfl⟩
      · exact shows_.joined here there step
    · cases step
  · rename_i splash here
    obtain ⟨-, same⟩ := Option.ite_none_left_eq_some.1 step
    obtain rfl := Option.some.inj same
    have holds : Holds log dam (.healing splash) := here ▸ line.worker
    have moved : Line log { dam with worker := .spawning splash } :=
      line.advance holds (by rw [here]; rfl) (idle here (by rintro splash ⟨⟩) rfl _)
    exact (shows_.move moved rfl rfl rfl rfl rfl).silent (by simp [Dam.workerEntry, here])
  · rename_i splash failure here
    obtain ⟨cancelled, same⟩ := Option.ite_none_right_eq_some.1 step
    obtain ⟨slot, passed⟩ : Holds log dam (.healing splash) := here ▸ line.worker
    simp only [Dam.workerEntry, here]
    refine Option.some.inj same ▸ shows_.giveUp slot
      (enqueued_of_published shows_.lawful (published_of_passed shows_.lawful passed))
      (shows_.flags.reached _ cancelled) (line.task_eq_none here (by rintro splash ⟨⟩) rfl) ?_
    intro other undecided
    rw [here] at undecided
    cases undecided
  · rename_i splash message here
    exact Option.some.inj step ▸ (shows_.exit (by rw [here]; rfl)
      (idle here (by rintro splash ⟨⟩) rfl _)).silent (by simp [Dam.workerEntry, here])
  · rename_i splash here
    simp only [Dam.workerEntry, here]
    exact Option.some.inj step ▸ shows_.clear here
  · obtain ⟨suspended, same⟩ := Option.ite_none_right_eq_some.1 step
    have decided : dam.worker.undecided = none := by
      cases here : dam.worker <;> rw [here] at suspended <;> first | rfl | cases suspended
    refine Option.some.inj same ▸ (shows_.exit decided fun _ => Or.inr ⟨_, rfl⟩).silent ?_
    unfold Dam.workerEntry
    cases dam.worker <;> rfl
  · cases step

end Worker

/-! ### The task -/

namespace RunTask

variable {loop : LegacyLoop} {cancelled : Bool} {run next : RunTask} {event : DamEvent}

/-- A loop that reports progress looks for a cancellation after it. -/
theorem rechecks_of_progress (task : LegacyTask) (progress : task.loop.progress = true) :
    task.loop.rechecks = true := by
  cases task with
  | fixedCount count => rfl
  | _ => cases progress

theorem progress_of_progressing {attempt : Nat}
    (step : run.step loop cancelled event = some (.progressing attempt)) :
    loop.progress = true := by
  unfold RunTask.step at step
  grind [RunTask.suspended, awake]

/-- `work.execute()` is called after a look at the flag, which was not set. -/
theorem uncancelled_of_starting {attempt : Nat}
    (rechecks : ∀ attempt, run = .progressing attempt → loop.rechecks = true)
    (step : run.step loop cancelled event = some (.starting attempt)) : cancelled = false := by
  unfold RunTask.step at step
  grind [RunTask.suspended, awake]

theorem cancelled_of_interrupting
    (step : run.step loop cancelled event = some .interrupting) : cancelled = true := by
  unfold RunTask.step at step
  grind [RunTask.suspended, awake]

end RunTask

section Task

variable {log : List DamEntry} {dam after : Dam} {splash : Splash} {run next : RunTask}
  {event : DamEvent}

theorem isStarting_retask (i : Nat) :
    Dam.isStarting { dam with task := some (splash, next) } i =
      (splash.execution == i && next.isStarting) := rfl

/-- A step of the task leaves the worker and the slot. -/
theorem Line.retask (line : Line log dam) (there : dam.task = some (splash, run)) :
    Line log { dam with task := some (splash, next) } := by
  refine ⟨fun _ => line.tidy (by simp [there]), line.queue, line.nodup, line.worker, line.current,
    line.slot, ?_, line.fate⟩
  rintro other run' ⟨⟩
  exact line.task splash run there

/-- The checks after a step of the task that is not one, nor its last. -/
theorem Checks.retask (checks : Checks log dam) (there : dam.task = some (splash, run))
    (before : run.isStarting = false) (now : next.isStarting = false)
    (interrupting : next = .interrupting → splash.execution ∈ dam.cancelled)
    (progressing : ∀ attempt, next = .progressing attempt → splash.task.loop.rechecks = true) :
    Checks log { dam with task := some (splash, next) } where
  counts := by
    intro i
    have counts := checks.counts i
    rw [Dam.isStarting, there, Option.any_some, before, Bool.and_false] at counts
    rw [isStarting_retask, now, Bool.and_false]
    exact counts
  interrupting := by
    rintro other ⟨⟩
    exact interrupting rfl
  progressing := by
    rintro other attempt ⟨⟩
    exact progressing attempt rfl

theorem Shows.retask (shows_ : Shows log dam) (there : dam.task = some (splash, run))
    (checks : Checks log { dam with task := some (splash, next) }) :
    Shows log { dam with task := some (splash, next) } :=
  ⟨shows_.lawful, shows_.seq, shows_.raised, shows_.line.retask there,
    shows_.flags.congr rfl rfl, checks⟩

/-- The last check before `work.execute()`. -/
theorem Shows.check {attempt : Nat} (shows_ : Shows log dam)
    (there : dam.task = some (splash, run)) (before : run.isStarting = false)
    (uncancelled : splash.execution ∉ dam.cancelled) :
    Shows (log ++ [.checked splash.execution])
      { dam with task := some (splash, .starting attempt) } := by
  obtain ⟨passed, slot⟩ := shows_.line.task splash run there
  have even : ∀ i, log.count (.checked i) = log.count (.started i) := by
    intro i
    have counts := shows_.checks.counts i
    rw [Dam.isStarting, there, Option.any_some, before, Bool.and_false] at counts
    exact counts
  refine ⟨lawful_snoc.2 ⟨shows_.lawful, passed, (shows_.line.slot _ slot).2, ?_, even _⟩,
    shows_.seq.trans (stamps_concat rfl).symm, shows_.raised.longer fun _ _ => DamEntry.noConfusion,
    (shows_.line.longer rfl).retask there, (shows_.flags.longer rfl).congr rfl rfl, ⟨?_, ?_, ?_⟩⟩
  · exact fun c returned => uncancelled (shows_.flags.marked c _ returned)
  · intro i
    rw [isStarting_retask, List.count_append, List.count_append, even i, List.count_singleton,
      List.count_singleton]
    by_cases same : splash.execution = i
    · simp [same, RunTask.isStarting]
    · simp [same]
  · rintro other ⟨⟩
  · rintro other attempt ⟨⟩

/-- `work.execute()` is called. -/
theorem Shows.start {attempt : Nat} (shows_ : Shows log dam)
    (there : dam.task = some (splash, .starting attempt)) (now : next.isStarting = false)
    (interrupting : next ≠ .interrupting) (progressing : ∀ attempt, next ≠ .progressing attempt) :
    Shows (log ++ [.started splash.execution]) { dam with task := some (splash, next) } := by
  obtain ⟨passed, slot⟩ := shows_.line.task splash _ there
  have counts : ∀ i, log.count (.checked i) =
      log.count (.started i) + if splash.execution = i then 1 else 0 := by
    intro i
    rw [shows_.checks.counts i, Dam.isStarting, there]
    simp [RunTask.isStarting]
  refine ⟨lawful_snoc.2 ⟨shows_.lawful, passed, (shows_.line.slot _ slot).2, ?_⟩,
    shows_.seq.trans (stamps_concat rfl).symm, shows_.raised.longer fun _ _ => DamEntry.noConfusion,
    (shows_.line.longer rfl).retask there, (shows_.flags.longer rfl).congr rfl rfl, ⟨?_, ?_, ?_⟩⟩
  · rw [counts, if_pos rfl]
  · intro i
    rw [isStarting_retask, now, Bool.and_false, List.count_append, List.count_append, counts i,
      List.count_singleton, List.count_singleton]
    by_cases same : splash.execution = i
    · simp [same]
    · simp [same]
  · rintro other ⟨⟩
    exact (interrupting rfl).elim
  · rintro other attempt ⟨⟩
    exact (progressing _ rfl).elim

/-- A step that is not one of the callbacks, nor the call of `work.execute()`. -/
theorem Shows.goOn (shows_ : Shows log dam) (there : dam.task = some (splash, run))
    (before : run.isStarting = false)
    (moves : run.step splash.task.loop (decide (splash.execution ∈ dam.cancelled)) event =
      some next) :
    Shows
      (log ++ (Dam.checkEntry splash (run.step splash.task.loop
        (decide (splash.execution ∈ dam.cancelled)) event)).toList)
      { dam with task := some (splash, next) } := by
  rw [moves]
  have quietly (now : next.isStarting = false) :
      Shows log { dam with task := some (splash, next) } := by
    refine shows_.retask there (shows_.checks.retask there before now ?_ ?_)
    · rintro rfl
      exact of_decide_eq_true (RunTask.cancelled_of_interrupting moves)
    · rintro attempt rfl
      exact RunTask.rechecks_of_progress _ (RunTask.progress_of_progressing moves)
  cases next with
  | starting attempt =>
    have unset := RunTask.uncancelled_of_starting ?_ moves
    · exact shows_.check there before (of_decide_eq_false unset)
    · rintro attempt rfl
      exact shows_.checks.progressing splash attempt there
  | _ => exact (quietly rfl).silent rfl

/-- A task interrupts its own execution. -/
theorem Shows.interrupt {failure : Option String} (shows_ : Shows log dam)
    (there : dam.task = some (splash, run)) (passed : .passed splash.execution ∈ log)
    (reached : ∃ c, ReachedBy log c splash.execution) :
    Shows (log ++ (dam.interrupts splash.execution).toList)
      (dam.notifyInterrupt splash.execution failure) := by
  have line := shows_.line
  have published := published_of_passed shows_.lawful passed
  have others : ∀ other ∈ dam.queue, other.execution ≠ splash.execution :=
    fun other queued same => (line.queue other queued).unpublished (same ▸ published)
  have worker := line.worker
  have busy : Holds (log ++ (dam.interrupts splash.execution).toList) dam dam.worker ∧
      dam.worker.undecided = none := by
    rcases line.tidy (by simp [there]) with ⟨held, joining⟩ | ⟨error, exited⟩
    · rw [joining] at worker ⊢
      exact ⟨⟨worker.1, mem_interrupts_of_mem worker.2 _⟩, rfl⟩
    · rw [exited]
      exact ⟨trivial, rfl⟩
  have kept : Line (log ++ (dam.interrupts splash.execution).toList)
      { dam with worker := dam.worker } := by
    refine line.notify shows_.flags busy.1 busy.2 others ?_ line.tidy
    intro other undecided
    rw [busy.2] at undecided
    cases undecided
  exact shows_.notify (enqueued_of_published shows_.lawful published) reached
    (kept.congr rfl rfl rfl rfl) rfl rfl rfl rfl
    (shows_.checks.congr rfl (Finset.subset_insert _ _))

/-- A callback was recorded. -/
theorem Shows.record (shows_ : Shows log dam) (failure : Option String) :
    Shows log (dam.recordCallbackFailure failure) :=
  shows_.move (shows_.line.congr rfl rfl rfl rfl) rfl rfl rfl rfl rfl

/-- A section of the task that the worker has spawned. -/
theorem Shows.task (shows_ : Shows log dam) (step : dam.taskStep event = some after) :
    Shows (log ++ (dam.taskEntry event).toList) after := by
  unfold Dam.taskStep at step
  split at step
  · cases step
  · rename_i splash run there
    obtain ⟨next, moves, same⟩ := Option.map_eq_some_iff.1 step
    rw [Dam.taskEntry, there]
    obtain ⟨passed, -⟩ := shows_.line.task splash run there
    have ends (now : next.isStarting = false) (before : run.isStarting = false)
        (calm : ∀ attempt, next ≠ .progressing attempt) (uncut : next ≠ .interrupting) :
        Checks log { dam with task := some (splash, next) } :=
      shows_.checks.retask there before now (fun cut => absurd cut uncut)
        fun attempt progressing => absurd progressing (calm attempt)
    cases run with
    | starting attempt =>
      cases event with
      | proceed =>
        obtain rfl := Option.some.inj moves
        exact same ▸ shows_.start there rfl (by rintro ⟨⟩) (by rintro attempt ⟨⟩)
      | drop => cases moves
      | _ => cases moves
    | exhausting attempt =>
      cases event with
      | callback failure =>
        obtain rfl := Option.some.inj moves
        have fits : (DamEntry.errored splash.execution).Fits log := passed
        have longer :=
          (shows_.retask there (ends rfl rfl (by rintro attempt ⟨⟩) (by rintro ⟨⟩))).longer fits
          rfl rfl rfl rfl fun _ _ => DamEntry.noConfusion
        exact same ▸ longer.record failure
      | drop => cases moves
      | _ => cases moves
    | completing =>
      cases event with
      | callback failure =>
        obtain rfl := Option.some.inj moves
        have fits : (DamEntry.completed splash.execution).Fits log := passed
        have longer :=
          (shows_.retask there (ends rfl rfl (by rintro attempt ⟨⟩) (by rintro ⟨⟩))).longer fits
          rfl rfl rfl rfl fun _ _ => DamEntry.noConfusion
        exact same ▸ longer.record failure
      | drop => cases moves
      | _ => cases moves
    | interrupting =>
      cases event with
      | callback failure =>
        obtain rfl := Option.some.inj moves
        have moved := shows_.retask there (ends rfl rfl (by rintro attempt ⟨⟩) (by rintro ⟨⟩))
        exact same ▸ moved.interrupt rfl passed
          (shows_.flags.reached _ (shows_.checks.interrupting splash there))
      | drop => cases moves
      | _ => cases moves
    | _ =>
      have told := shows_.goOn there rfl moves
      cases event with
      | callback failure => exact same ▸ told.record failure
      | _ => exact same ▸ told

end Task

/-! ## The runs -/

section Runs

variable {log : List DamEntry} {capacity : Nat} {run after : DamRun} {actions : List DamAction}
  {action : DamAction} {dam : Dam} {entry : Option DamEntry}

theorem Tells.new (capacity : Nat) : Tells [] (.new capacity) where
  shows_ := by
    refine ⟨lawful_nil, rfl, ⟨?_, Or.inl rfl⟩,
      ⟨.of_task_eq_none rfl, ?_, List.Pairwise.nil, rfl, ?_,
      ?_, ?_, ?_⟩, ⟨?_, ?_, ?_, ?_⟩, ⟨?_, ?_, ?_⟩⟩
    · simp
    · simp [DamRun.new, Dam.withHandle]
    · simp
    · simp [DamRun.new, Dam.withHandle]
    · simp [DamRun.new, Dam.withHandle]
    · simp
    · simp
    · simp [DamRun.new, Dam.withHandle]
    · simp [DamRun.new, Dam.withHandle]
    · simp [DamRun.new, Dam.withHandle]
    · simp [DamRun.new, Dam.withHandle, Dam.isStarting]
    · simp [DamRun.new, Dam.withHandle]
    · simp [DamRun.new, Dam.withHandle]
  bound := by simp
  calls := by simp [DamRun.new]

/-- A call begins. -/
theorem Tells.begin {entry : DamEntry} {steps : List DamStep} (tells : Tells log run)
    (subject : entry.subject = run.calls.length) (byCall : entry.byCall = some run.calls.length)
    (shows_ : Shows (log ++ [entry]) run.dam)
    (doing : Doing (log ++ [entry]) run.calls.length steps) :
    Tells (log ++ [entry]) (run.begin steps) where
  shows_ := shows_
  bound := by
    intro e member
    rw [DamRun.begin, List.length_append, List.length_singleton]
    rcases List.mem_append.1 member with before | last
    · exact (tells.bound e before).trans (Nat.lt_succ_self _)
    · rw [List.mem_singleton.1 last, subject]
      exact Nat.lt_succ_self _
  calls := by
    intro c steps' there
    rw [DamRun.begin] at there
    by_cases old : c < run.calls.length
    · rw [List.getElem?_append_left old] at there
      refine (tells.calls c steps' there).longer ?_
      rw [byCall]
      exact fun same => absurd (Option.some.inj same) (Nat.ne_of_gt old)
    · have bound := (List.getElem?_eq_some_iff.1 there).1
      rw [List.length_append, List.length_singleton] at bound
      obtain rfl : c = run.calls.length := by omega
      rw [List.getElem?_concat_length] at there
      exact Option.some.inj there ▸ doing

/-- The dam moves by itself. -/
theorem Tells.beside (tells : Tells log run) (shows_ : Shows (log ++ entry.toList) dam)
    (others : ∀ e, entry = some e → e.byCall = none) :
    Tells (log ++ entry.toList) { run with dam := dam } where
  shows_ := shows_
  bound := by
    intro e member
    rcases List.mem_append.1 member with before | last
    · exact tells.bound e before
    · have same := Option.mem_toList.1 last
      rw [same] at shows_
      obtain ⟨lawful, fits⟩ := lawful_snoc.1 shows_.lawful
      exact tells.bound (.enqueued e.subject) (enqueued_of_fits lawful fits (others e same))
  calls := by
    intro c steps there
    have still := tells.calls c steps there
    cases entry with
    | none => rwa [Option.toList_none, List.append_nil]
    | some e =>
      refine still.longer ?_
      rw [others e rfl]
      rintro ⟨⟩

theorem byCall_of_interrupts {i : Nat} {e : DamEntry} (made : dam.interrupts i = some e) :
    e.byCall = none := by
  obtain ⟨-, same⟩ := Option.ite_none_left_eq_some.1 made
  exact Option.some.inj same ▸ rfl

theorem byCall_of_workerEntry {event : DamEvent} {e : DamEntry}
    (made : dam.workerEntry event = some e) : e.byCall = none := by
  unfold Dam.workerEntry at made
  split at made
  · exact byCall_of_interrupts made
  · exact Option.some.inj made ▸ rfl
  · exact byCall_of_interrupts made
  · exact Option.some.inj made ▸ rfl
  · exact Option.some.inj made ▸ rfl
  · exact byCall_of_interrupts made
  · exact Option.some.inj made ▸ rfl
  · cases made

theorem byCall_of_taskEntry {event : DamEvent} {e : DamEntry}
    (made : dam.taskEntry event = some e) : e.byCall = none := by
  unfold Dam.taskEntry at made
  split at made
  · cases made
  · unfold Dam.runEntry at made
    split at made
    · exact Option.some.inj made ▸ rfl
    · exact Option.some.inj made ▸ rfl
    · exact Option.some.inj made ▸ rfl
    · exact byCall_of_interrupts made
    · unfold Dam.checkEntry at made
      split at made
      · exact Option.some.inj made ▸ rfl
      · cases made

/-- **Step lemma.** -/
theorem Tells.step (tells : Tells log run)
    (few : stamps (log ++ (run.entry action).toList) ≤ Checked.u64Max)
    (step : run.step action = some after) : Tells (log ++ (run.entry action).toList) after := by
  have new : ∀ {e : DamEntry}, e.subject = run.calls.length → e ∉ log :=
    fun same member => absurd (tells.bound _ member) (same ▸ Nat.lt_irrefl _)
  cases action with
  | enqueue task =>
    obtain rfl := Option.some.inj step
    have fits : (DamEntry.enqueueBegan run.calls.length).Fits log := tells.bound
    refine tells.begin rfl rfl
      (tells.shows_.longer fits rfl rfl rfl rfl fun _ _ => DamEntry.noConfusion) ?_
    exact ⟨List.mem_append_right _ (List.mem_singleton_self _),
      fun seq => not_mem_concat (new rfl) DamEntry.noConfusion⟩
  | cancelAll =>
    obtain rfl := Option.some.inj step
    have fits : (DamEntry.cancelBegan run.calls.length).Fits log := tells.bound
    refine tells.begin rfl rfl
      (tells.shows_.longer fits rfl rfl rfl rfl fun _ _ => DamEntry.noConfusion) ?_
    exact ⟨List.mem_append_right _ (List.mem_singleton_self _),
      fun marked => not_mem_concat (new rfl) DamEntry.noConfusion⟩
  | advance call =>
    simp only [DamRun.step] at step
    split at step
    · rename_i section_ rest found
      obtain rfl := Option.some.inj step
      simp only [DamRun.entry, found] at few ⊢
      exact tells.advance found few
    · cases step
  | worker event =>
    obtain ⟨dam, moves, rfl⟩ := Option.map_eq_some_iff.1 step
    exact tells.beside (tells.shows_.worker moves) fun e made => byCall_of_workerEntry made
  | task event =>
    obtain ⟨dam, moves, rfl⟩ := Option.map_eq_some_iff.1 step
    exact tells.beside (tells.shows_.task moves) fun e made => byCall_of_taskEntry made

theorem damLog_snoc
    (ran : (damCalls capacity).exec (damCalls capacity).init actions = some run) :
    damLog capacity (actions ++ [action]) =
      damLog capacity actions ++ (run.entry action).toList :=
  System.outputs_snoc ran

/-- **Run lemma.** -/
theorem tells_of_run
    (ran : (damCalls capacity).exec (damCalls capacity).init actions = some run)
    (few : stamps (damLog capacity actions) ≤ Checked.u64Max) :
    Tells (damLog capacity actions) run := by
  revert few
  refine System.exec_invariant (I := fun actions run =>
    stamps (damLog capacity actions) ≤ Checked.u64Max → Tells (damLog capacity actions) run)
    ?_ ?_ ran
  · exact fun _ => .new capacity
  · intro before x y action reached ih taken few
    have step : x.step action = some y := taken
    rw [damLog_snoc reached] at few ⊢
    refine (ih ?_).step few step
    rw [stamps_append] at few
    omega

end Runs

end BusyBeaver
