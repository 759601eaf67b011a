import BusyBeaver.Legacy.Dam
import Mathlib.Data.List.Count
import Mathlib.Tactic.Common

/-!
# The life of a legacy task

One accepted task by itself (`src/dam.rs`): it waits in the channel, is received, run by a task
of its own, and perhaps run again, until the worker lets it go.  What is seen of it is its trace,
the calls of `work.execute()` and how they end, the callbacks, and the cancellations that its
loop reads.

The trace of a bounded task that was let go is one of seven (`Verdict`), all of them rounds of
attempts that ask for a retry and then one ending; `on_complete` and `on_interrupt` are the last
that is seen of any task (`Lives.ends`).
-/

namespace BusyBeaver

/-! ## Notes -/

/-- What `on_error` is told, of `RuntimeError`. -/
inductive LegacyFailure : Type
  | retriesExhausted
  | taskExecutionFailed (message : String)
  deriving DecidableEq, Repr

inductive LegacyNote : Type
  /-- `work.execute()` is called -/
  | executed
  | answered (needRetry : Bool)
  /-- it panics -/
  | unwound (message : String)
  /-- the timer of a delay panics, on a runtime without a time driver -/
  | timerUnwound (message : String)
  /-- the loop reads that it is cancelled -/
  | seen
  | onComplete
  | onInterrupt
  | onError (failure : LegacyFailure)
  deriving DecidableEq, Repr

namespace LegacyNote

/-- The callback that tells how the task has ended. -/
def isTerminal : LegacyNote → Bool
  | .onComplete | .onInterrupt | .onError _ => true
  | _ => false

/-- The callbacks after which a periodic task is over. -/
def isEnd : LegacyNote → Bool
  | .onComplete | .onInterrupt => true
  | _ => false

/-- How a call of `work.execute()` ends. -/
def isResult : LegacyNote → Bool
  | .answered _ | .unwound _ => true
  | _ => false

end LegacyNote

namespace RunTask

/-- What a section of `run_task` adds to the trace, given where it goes. -/
def note (run : RunTask) (event : DamEvent) (after : RunTask) : Option LegacyNote :=
  match run, event with
  | .starting _, .proceed => some .executed
  | .executing _, .result needRetry => some (.answered needRetry)
  | .executing _, .panic message => some (.unwound message)
  | .sleeping _, .panic message => some (.timerUnwound message)
  | .exhausting _, .callback _ => some (.onError .retriesExhausted)
  | .completing, .callback _ => some .onComplete
  | .interrupting, .callback _ => some .onInterrupt
  | _, _ => if after = .interrupting then some .seen else none

/-- Between the check of an attempt and its call of `work.execute()`. -/
def between : RunTask → Option Nat
  | .sleeping attempt | .progressing attempt | .rechecking attempt | .starting attempt =>
    some attempt
  | _ => none

/-- The sections of `run_task`, but for the drop. -/
inductive Noted (loop : LegacyLoop) : RunTask → Option LegacyNote → RunTask → Prop
  | leave {attempt limit : Nat} (bounded : loop.limit = some limit) (reached : limit ≤ attempt) :
    Noted loop (.checking attempt) none .returned
  | enter {attempt : Nat} {run : RunTask}
      (below : ∀ limit, loop.limit = some limit → attempt < limit)
      (entered : run.between = some attempt) :
    Noted loop (.checking attempt) none run
  | advance {attempt : Nat} {run after : RunTask} (here : run.between = some attempt)
      (there : after.between = some attempt) :
    Noted loop run none after
  | seeFirst {attempt : Nat} (below : ∀ limit, loop.limit = some limit → attempt < limit) :
    Noted loop (.checking attempt) (some .seen) .interrupting
  | seeBetween {attempt : Nat} {run : RunTask} (here : run.between = some attempt) :
    Noted loop run (some .seen) .interrupting
  | seeAfter {attempt : Nat} {needRetry : Bool} :
    Noted loop (.executed attempt needRetry) (some .seen) .interrupting
  | execute {attempt : Nat} : Noted loop (.starting attempt) (some .executed) (.executing attempt)
  | answer {attempt : Nat} {needRetry : Bool} :
    Noted loop (.executing attempt) (some (.answered needRetry)) (.executed attempt needRetry)
  | unwind {attempt : Nat} {message : String} :
    Noted loop (.executing attempt) (some (.unwound message)) (.panicked message)
  | unwindTimer {attempt : Nat} {message : String} :
    Noted loop (.sleeping attempt) (some (.timerUnwound message)) (.panicked message)
  | finish {attempt : Nat} : Noted loop (.executed attempt false) none .completing
  | exhaust {attempt : Nat} (last : loop.limit = some (attempt + 1)) :
    Noted loop (.executed attempt true) none (.exhausting attempt)
  | again {attempt : Nat} (more : loop.limit ≠ some (attempt + 1)) :
    Noted loop (.executed attempt true) none (.checking (attempt + 1))
  | exhausted {attempt : Nat} :
    Noted loop (.exhausting attempt) (some (.onError .retriesExhausted)) (.checking (attempt + 1))
  | completed : Noted loop .completing (some .onComplete) .returned
  | interrupted : Noted loop .interrupting (some .onInterrupt) .returned

variable {loop : LegacyLoop} {cancelled : Bool} {run after : RunTask} {event : DamEvent}

theorem between_awake (loop : LegacyLoop) (attempt : Nat) :
    (awake loop attempt).between = some attempt := by
  unfold awake
  split
  · rfl
  · split <;> rfl

theorem ne_interrupting_of_between {attempt : Nat} (here : run.between = some attempt) :
    run ≠ .interrupting := by
  rintro rfl
  cases here

/-- A look at the flag on the way to `work.execute()`. -/
theorem Noted.of_look {attempt : Nat} {next : RunTask} (here : run.between = some attempt)
    (there : next.between = some attempt)
    (step : (if cancelled then some .interrupting else some next) = some after) :
    Noted loop run (if after = .interrupting then some .seen else none) after := by
  cases cancelled with
  | true =>
    cases step
    exact .seeBetween here
  | false =>
    cases step
    rw [if_neg (ne_interrupting_of_between there)]
    exact .advance here there

/-- What a section does, seen from outside. -/
theorem Noted.of_step (step : run.step loop cancelled event = some after) (kept : event ≠ .drop) :
    Noted loop run (run.note event after) after := by
  cases run with
  | checking attempt =>
    cases event with
    | proceed =>
      rw [RunTask.step] at step
      by_cases reached : (loop.limit.any fun limit => decide (limit ≤ attempt)) = true
      · rw [if_pos reached] at step
        obtain ⟨limit, bounded, le⟩ := (Option.any_eq_true _ _).1 reached
        cases step
        exact .leave bounded (of_decide_eq_true le)
      · have below : ∀ limit, loop.limit = some limit → attempt < limit := by
          intro limit bounded
          simpa [bounded] using reached
        rw [if_neg reached] at step
        cases cancelled with
        | true =>
          cases step
          exact .seeFirst below
        | false =>
          rw [if_neg Bool.false_ne_true] at step
          have entered : after.between = some attempt := by
            split at step
            · cases step
              rfl
            · cases step
              exact between_awake loop attempt
          have quiet : RunTask.note (.checking attempt) .proceed after = none :=
            if_neg (ne_interrupting_of_between entered)
          exact quiet ▸ .enter below entered
    | drop => exact absurd rfl kept
    | _ => cases step
  | sleeping attempt =>
    cases event with
    | proceed => exact .of_look rfl (between_awake loop attempt) step
    | panic message =>
      cases step
      exact .unwindTimer
    | drop => exact absurd rfl kept
    | _ => cases step
  | progressing attempt =>
    cases event with
    | callback failure =>
      rw [RunTask.step] at step
      split at step <;> cases step <;> exact .advance rfl rfl
    | drop => exact absurd rfl kept
    | _ => cases step
  | rechecking attempt =>
    cases event with
    | proceed => exact .of_look rfl rfl step
    | drop => exact absurd rfl kept
    | _ => cases step
  | starting attempt =>
    cases event with
    | proceed =>
      cases step
      exact .execute
    | drop => exact absurd rfl kept
    | _ => cases step
  | executing attempt =>
    cases event with
    | result needRetry =>
      cases step
      exact .answer
    | panic message =>
      cases step
      exact .unwind
    | drop => exact absurd rfl kept
    | _ => cases step
  | executed attempt needRetry =>
    cases event with
    | proceed =>
      rw [RunTask.step] at step
      cases cancelled with
      | true =>
        cases step
        exact .seeAfter
      | false =>
        cases needRetry with
        | false =>
          cases step
          exact .finish
        | true =>
          rw [if_neg Bool.false_ne_true, if_neg (by decide)] at step
          split at step
          · cases step
            exact .exhaust ‹_›
          · cases step
            exact .again ‹_›
    | drop => exact absurd rfl kept
    | _ => cases step
  | exhausting attempt =>
    cases event with
    | callback failure =>
      cases step
      exact .exhausted
    | drop => exact absurd rfl kept
    | _ => cases step
  | completing =>
    cases event with
    | callback failure =>
      cases step
      exact .completed
    | drop => exact absurd rfl kept
    | _ => cases step
  | interrupting =>
    cases event with
    | callback failure =>
      cases step
      exact .interrupted
    | drop => exact absurd rfl kept
    | _ => cases step
  | _ =>
    cases event with
    | drop => exact absurd rfl kept
    | _ => cases step

end RunTask

/-! ## The life of a task -/

/-- Where an accepted task is: before `enqueue` has sent it, in the channel, with the worker
before it is run, in the hands of the task that runs it, and let go. -/
inductive LegacyLife : Type
  | ahead
  | queued (task : LegacyTask)
  | received (task : LegacyTask)
  | spawning (task : LegacyTask)
  | running (task : LegacyTask) (run : RunTask)
  /-- a periodic task that has panicked, before it is run again -/
  | healing (task : LegacyTask)
  | gone (task : LegacyTask)
  deriving DecidableEq, Repr

namespace LegacyLife

def task : LegacyLife → Option LegacyTask
  | .ahead => none
  | .queued task | .received task | .spawning task | .running task _ | .healing task
  | .gone task => some task

/-- What may happen to it, and what is seen. -/
inductive Step : LegacyLife → Option LegacyNote → LegacyLife → Prop
  | send (task : LegacyTask) : Step .ahead none (.queued task)
  | receive (task : LegacyTask) : Step (.queued task) none (.received task)
  /-- the watermark lies above its number -/
  | overtaken (task : LegacyTask) : Step (.received task) (some .onInterrupt) (.gone task)
  | pass (task : LegacyTask) : Step (.received task) none (.spawning task)
  | spawn (task : LegacyTask) : Step (.spawning task) none (.running task (.checking 0))
  | run (task : LegacyTask) {run after : RunTask} {note : Option LegacyNote}
      (noted : RunTask.Noted task.loop run note after) :
    Step (.running task run) note (.running task after)
  | join (task : LegacyTask) : Step (.running task .returned) none (.gone task)
  | fail (task : LegacyTask) (message : String) :
    Step (.running task (.panicked message))
      (some (.onError (.taskExecutionFailed message))) (.gone task)
  | heal (task : LegacyTask) (message : String) (periodic : task.isPeriodic = true) :
    Step (.running task (.panicked message))
      (some (.onError (.taskExecutionFailed message))) (.healing task)
  | healed (task : LegacyTask) : Step (.healing task) none (.spawning task)
  | interruptHealing (task : LegacyTask) :
    Step (.healing task) (some .onInterrupt) (.gone task)
  /-- the timer panics in the worker -/
  | loseWorker (task : LegacyTask) : Step (.healing task) none (.gone task)

variable {life next : LegacyLife} {note : Option LegacyNote}

theorem Step.task_eq {task : LegacyTask} (step : Step life note next)
    (here : life.task = some task) :
    next.task = some task := by
  cases step with
  | send _ => cases here
  | _ => exact here

end LegacyLife

/-- A life so far, with its trace. -/
inductive Lives : List LegacyNote → LegacyLife → Prop
  | new : Lives [] .ahead
  | step {trace : List LegacyNote} {life next : LegacyLife} {note : Option LegacyNote}
      (before : Lives trace life) (step : life.Step note next) :
    Lives (trace ++ note.toList) next

/-! ## Bounded tasks -/

namespace LegacyNote

/-- Attempts that ask for a retry. -/
def rounds : Nat → List LegacyNote
  | 0 => []
  | n + 1 => rounds n ++ [.executed, .answered true]

end LegacyNote

open LegacyNote

/-- The traces with which a task of `n` attempts is let go. -/
inductive Verdict (n : Nat) : List LegacyNote → Prop
  | overtaken : Verdict n [.onInterrupt]
  | completed {a : Nat} (within : a < n) :
    Verdict n (rounds a ++ [.executed, .answered false, .onComplete])
  | exhausted : Verdict n (rounds n ++ [.onError .retriesExhausted])
  | failed {a : Nat} (within : a < n) (message : String) :
    Verdict n (rounds a ++ [.executed, .unwound message, .onError (.taskExecutionFailed message)])
  | timerFailed {a : Nat} (within : a < n) (message : String) :
    Verdict n (rounds a ++ [.timerUnwound message, .onError (.taskExecutionFailed message)])
  | interrupted {a : Nat} (within : a < n) : Verdict n (rounds a ++ [.seen, .onInterrupt])
  | interruptedAfter {a : Nat} (within : a < n) (needRetry : Bool) :
    Verdict n (rounds a ++ [.executed, .answered needRetry, .seen, .onInterrupt])

/-- What the trace of a bounded task tells while its loop runs. -/
def ToldRun (n : Nat) (trace : List LegacyNote) : RunTask → Prop
  | .checking a =>
    a < n ∧ trace = rounds a ∨ a = n ∧ trace = rounds n ++ [.onError .retriesExhausted]
  | .sleeping a | .progressing a | .rechecking a | .starting a => a < n ∧ trace = rounds a
  | .executing a => a < n ∧ trace = rounds a ++ [.executed]
  | .executed a needRetry => a < n ∧ trace = rounds a ++ [.executed, .answered needRetry]
  | .exhausting a => a + 1 = n ∧ trace = rounds n
  | .completing => ∃ a < n, trace = rounds a ++ [.executed, .answered false]
  | .interrupting => ∃ a < n, trace = rounds a ++ [.seen] ∨
      ∃ needRetry, trace = rounds a ++ [.executed, .answered needRetry, .seen]
  | .returned => Verdict n trace
  | .panicked message => ∃ a < n, trace = rounds a ++ [.executed, .unwound message] ∨
      trace = rounds a ++ [.timerUnwound message]
  | .dropped => False

/-- What it tells at any time. -/
def Told (n : Nat) (trace : List LegacyNote) : LegacyLife → Prop
  | .ahead | .queued _ | .received _ | .spawning _ => trace = []
  | .running _ run => ToldRun n trace run
  | .healing _ => False
  | .gone _ => Verdict n trace

section Bounded

variable {n : Nat} {trace : List LegacyNote} {loop : LegacyLoop} {run after : RunTask}
  {life next : LegacyLife} {note : Option LegacyNote} {task : LegacyTask}

theorem toldRun_between {a : Nat} (here : run.between = some a) :
    ToldRun n trace run ↔ a < n ∧ trace = rounds a := by
  cases run <;> cases here <;> exact Iff.rfl

/-- **Step lemma.**  One section of the loop. -/
theorem RunTask.Noted.told (noted : RunTask.Noted loop run note after)
    (bounded : loop.limit = some n) (told : ToldRun n trace run) :
    ToldRun n (trace ++ note.toList) after := by
  cases noted with
  | @leave a limit limited reached =>
    obtain rfl := Option.some.inj (bounded.symm.trans limited)
    rcases told with ⟨within, -⟩ | ⟨-, rfl⟩
    · omega
    · rw [Option.toList_none, List.append_nil]
      exact .exhausted
  | @enter a run below entered =>
    have within := below n bounded
    rcases told with ⟨-, rfl⟩ | ⟨rfl, -⟩
    · rw [Option.toList_none, List.append_nil]
      exact (toldRun_between entered).2 ⟨within, rfl⟩
    · omega
  | advance here there =>
    rw [Option.toList_none, List.append_nil]
    exact (toldRun_between there).2 ((toldRun_between here).1 told)
  | @seeFirst a below =>
    have within := below n bounded
    rcases told with ⟨-, rfl⟩ | ⟨rfl, -⟩
    · exact ⟨a, within, .inl rfl⟩
    · omega
  | @seeBetween a run here =>
    obtain ⟨within, rfl⟩ := (toldRun_between here).1 told
    exact ⟨a, within, .inl rfl⟩
  | @seeAfter a needRetry =>
    obtain ⟨within, rfl⟩ := told
    exact ⟨a, within, .inr ⟨needRetry, by simp⟩⟩
  | execute =>
    obtain ⟨within, rfl⟩ := told
    exact ⟨within, rfl⟩
  | answer =>
    obtain ⟨within, rfl⟩ := told
    exact ⟨within, by simp⟩
  | @unwind a message =>
    obtain ⟨within, rfl⟩ := told
    exact ⟨a, within, .inl (by simp)⟩
  | @unwindTimer a message =>
    obtain ⟨within, rfl⟩ := told
    exact ⟨a, within, .inr rfl⟩
  | @finish a =>
    obtain ⟨within, rfl⟩ := told
    exact ⟨a, within, by simp⟩
  | @exhaust a last =>
    obtain ⟨-, rfl⟩ := told
    obtain rfl := Option.some.inj (bounded.symm.trans last)
    exact ⟨rfl, by simp [rounds]⟩
  | @again a more =>
    obtain ⟨within, rfl⟩ := told
    have unequal : a + 1 ≠ n := by
      rintro rfl
      exact more bounded
    have next : a + 1 < n := by omega
    exact .inl ⟨next, by simp [rounds]⟩
  | exhausted =>
    obtain ⟨rfl, rfl⟩ := told
    exact .inr ⟨rfl, rfl⟩
  | completed =>
    obtain ⟨a, within, rfl⟩ := told
    have verdict := Verdict.completed within
    simpa [ToldRun] using verdict
  | interrupted =>
    obtain ⟨a, within, rfl | ⟨needRetry, rfl⟩⟩ := told
    · simpa [ToldRun] using Verdict.interrupted within
    · simpa [ToldRun] using Verdict.interruptedAfter within needRetry

theorem not_periodic_of_limit (bounded : task.loop.limit = some n) : task.isPeriodic = false := by
  cases task with
  | periodic _ => cases bounded
  | _ => rfl

/-- **Step lemma.** -/
theorem LegacyLife.Step.told (step : life.Step note next) (here : next.task = some task)
    (bounded : task.loop.limit = some n) (positive : 0 < n) (told : Told n trace life) :
    Told n (trace ++ note.toList) next := by
  cases step with
  | send _ => exact (List.append_nil trace).trans told
  | receive _ => exact (List.append_nil trace).trans told
  | overtaken _ =>
    obtain rfl : trace = [] := told
    exact .overtaken
  | pass _ => exact (List.append_nil trace).trans told
  | spawn _ => exact .inl ⟨positive, (List.append_nil trace).trans told⟩
  | run _ noted =>
    obtain rfl := Option.some.inj here
    exact noted.told bounded told
  | join _ => exact (List.append_nil trace).symm ▸ told
  | fail _ message =>
    obtain ⟨a, within, rfl | rfl⟩ := told
    · simpa [Told] using Verdict.failed within message
    · simpa [Told] using Verdict.timerFailed within message
  | heal _ _ periodic =>
    obtain rfl := Option.some.inj here
    rw [not_periodic_of_limit bounded] at periodic
    cases periodic
  | healed _ => exact told.elim
  | interruptHealing _ => exact told.elim
  | loseWorker _ => exact told.elim

/-- **Run lemma.** -/
theorem Lives.told (lives : Lives trace life) (here : life.task = some task)
    (bounded : task.loop.limit = some n) (positive : 0 < n) : Told n trace life := by
  induction lives with
  | new => cases here
  | @step trace life next note before step ih =>
    cases life with
    | ahead =>
      cases step with
      | send _ =>
        cases before with
        | new => rfl
        | step _ last => cases last
    | _ => exact step.told here bounded positive (ih ((step.task_eq rfl).symm.trans here))

end Bounded

/-! ## One verdict -/

/-- The last `work.execute()` has returned `Done`. -/
def LastDone (trace : List LegacyNote) : Prop :=
  (trace.filter isResult).getLast? = some (.answered false)

/-- A call of `work.execute()` has panicked, or the timer of a delay. -/
def HasUnwound (trace : List LegacyNote) : Prop :=
  ∃ message, .unwound message ∈ trace ∨ .timerUnwound message ∈ trace

/-- The run of a task of `n` attempts ends with one verdict. -/
structure OneVerdict (n : Nat) (trace : List LegacyNote) : Prop where
  executes : trace.count .executed ≤ n
  last : ∀ before after, trace = before ++ .answered false :: after → .executed ∉ after
  once : trace.countP isTerminal = 1
  complete : .onComplete ∈ trace ↔ LastDone trace ∧ .seen ∉ trace
  exhausted : .onError .retriesExhausted ∈ trace ↔
    trace.count (.answered true) = n ∧ .seen ∉ trace
  failed : (∃ message, .onError (.taskExecutionFailed message) ∈ trace) ↔ HasUnwound trace
  interrupted : .onInterrupt ∈ trace ↔
    ¬ (LastDone trace ∧ .seen ∉ trace) ∧ ¬ (trace.count (.answered true) = n ∧ .seen ∉ trace) ∧
      ¬ HasUnwound trace

section Rounds

variable {n a : Nat} {tail before after : List LegacyNote} {note : LegacyNote}

/-- A note that no round has. -/
theorem mem_rounds_append (other : note ≠ .executed ∧ note ≠ .answered true) :
    note ∈ rounds a ++ tail ↔ note ∈ tail := by
  induction a generalizing tail with
  | zero => exact Iff.rfl
  | succ a ih =>
    rw [rounds, List.append_assoc, ih]
    simp [other.1, other.2]

theorem count_executed_rounds : (rounds a ++ tail).count .executed = a + tail.count .executed := by
  induction a generalizing tail with
  | zero => exact (Nat.zero_add _).symm
  | succ a ih =>
    rw [rounds, List.append_assoc, ih]
    simp
    omega

theorem count_answered_rounds :
    (rounds a ++ tail).count (.answered true) = a + tail.count (.answered true) := by
  induction a generalizing tail with
  | zero => exact (Nat.zero_add _).symm
  | succ a ih =>
    rw [rounds, List.append_assoc, ih]
    simp
    omega

theorem countP_rounds : (rounds a ++ tail).countP isTerminal = tail.countP isTerminal := by
  induction a generalizing tail with
  | zero => rfl
  | succ a ih =>
    rw [rounds, List.append_assoc, ih]
    simp [isTerminal]

/-- The last call is that of the ending, if it has one; else it has asked for a retry. -/
theorem lastDone_rounds : LastDone (rounds a ++ tail) ↔ LastDone tail := by
  induction a generalizing tail with
  | zero => exact Iff.rfl
  | succ a ih =>
    rw [rounds, List.append_assoc, ih]
    simp only [LastDone, List.cons_append, List.nil_append, List.filter_cons, isResult,
      if_true, Bool.false_eq_true, if_false]
    cases rest : tail.filter isResult with
    | nil => simp
    | cons first more => simp

/-- A `Done` comes after the rounds. -/
theorem split_rounds (split : rounds a ++ tail = before ++ .answered false :: after) :
    ∃ middle, tail = middle ++ .answered false :: after := by
  induction a generalizing tail with
  | zero => exact ⟨before, split⟩
  | succ a ih =>
    rw [rounds, List.append_assoc] at split
    obtain ⟨middle, cut⟩ := ih split
    rcases middle with - | ⟨one, - | ⟨two, middle⟩⟩
    · simp at cut
    · simp at cut
    · simp only [List.cons_append, List.nil_append, List.cons.injEq] at cut
      exact ⟨middle, cut.2.2⟩

/-- What comes after a `Done` comes after the first one. -/
theorem not_mem_after (none_ : note ∉ tail.dropWhile (· ≠ .answered false))
    (split : tail = before ++ .answered false :: after) : note ∉ after := by
  subst split
  induction before with
  | nil =>
    intro there
    apply none_
    rw [List.nil_append, List.dropWhile_cons_of_neg (by decide)]
    exact List.mem_cons_of_mem _ there
  | cons first before ih =>
    by_cases same : first = .answered false
    · subst same
      intro there
      apply none_
      rw [List.cons_append, List.dropWhile_cons_of_neg (by decide)]
      exact List.mem_cons_of_mem _ (List.mem_append_right _ (List.mem_cons_of_mem _ there))
    · apply ih
      rwa [List.cons_append, List.dropWhile_cons_of_pos (by simpa using same)] at none_

theorem hasUnwound_rounds : HasUnwound (rounds a ++ tail) ↔ HasUnwound tail := by
  refine exists_congr fun message => ?_
  rw [mem_rounds_append ⟨by simp, by simp⟩, mem_rounds_append ⟨by simp, by simp⟩]

/-- The rounds have no part in the verdict but for their number. -/
theorem OneVerdict.of_tail (executes : a + tail.count .executed ≤ n)
    (last : .executed ∉ tail.dropWhile (· ≠ .answered false))
    (once : tail.countP isTerminal = 1)
    (complete : .onComplete ∈ tail ↔ LastDone tail ∧ .seen ∉ tail)
    (exhausted : .onError .retriesExhausted ∈ tail ↔
      a + tail.count (.answered true) = n ∧ .seen ∉ tail)
    (failed : (∃ message, .onError (.taskExecutionFailed message) ∈ tail) ↔ HasUnwound tail)
    (interrupted : .onInterrupt ∈ tail ↔
      ¬ (LastDone tail ∧ .seen ∉ tail) ∧
        ¬ (a + tail.count (.answered true) = n ∧ .seen ∉ tail) ∧ ¬ HasUnwound tail) :
    OneVerdict n (rounds a ++ tail) := by
  have apart {other : LegacyNote} (here : other ≠ .executed ∧ other ≠ .answered true) :
      other ∈ rounds a ++ tail ↔ other ∈ tail := mem_rounds_append here
  have seen : .seen ∈ rounds a ++ tail ↔ .seen ∈ tail := apart ⟨by simp, by simp⟩
  constructor
  · rw [count_executed_rounds]
    exact executes
  · intro before after split
    obtain ⟨middle, cut⟩ := split_rounds split
    exact not_mem_after last cut
  · rw [countP_rounds]
    exact once
  · rw [apart ⟨by simp, by simp⟩, lastDone_rounds, seen]
    exact complete
  · rw [apart ⟨by simp, by simp⟩, count_answered_rounds, seen]
    exact exhausted
  · rw [hasUnwound_rounds, ← failed]
    exact exists_congr fun message => apart ⟨by simp, by simp⟩
  · rw [apart ⟨by simp, by simp⟩, lastDone_rounds, count_answered_rounds, hasUnwound_rounds, seen]
    exact interrupted

/-- Each of the verdicts is one. -/
theorem Verdict.oneVerdict {trace : List LegacyNote} (verdict : Verdict n trace)
    (positive : 0 < n) : OneVerdict n trace := by
  cases verdict with
  | overtaken =>
    have apart : 0 ≠ n := Nat.ne_of_lt positive
    refine OneVerdict.of_tail (a := 0) ?_ ?_ ?_ ?_ ?_ ?_ ?_ <;>
      simp [isTerminal, LastDone, isResult, HasUnwound, apart]
  | @completed a within =>
    have apart : a ≠ n := Nat.ne_of_lt within
    refine .of_tail ?_ ?_ ?_ ?_ ?_ ?_ ?_ <;>
      simp [isTerminal, LastDone, isResult, HasUnwound, apart]
    exact within
  | exhausted =>
    refine .of_tail ?_ ?_ ?_ ?_ ?_ ?_ ?_ <;>
      simp [isTerminal, LastDone, isResult, HasUnwound]
  | @failed a within message =>
    have apart : a ≠ n := Nat.ne_of_lt within
    refine .of_tail ?_ ?_ ?_ ?_ ?_ ?_ ?_ <;>
      simp [isTerminal, LastDone, isResult, HasUnwound, apart]
    exact within
  | @timerFailed a within message =>
    have apart : a ≠ n := Nat.ne_of_lt within
    refine .of_tail ?_ ?_ ?_ ?_ ?_ ?_ ?_ <;>
      simp [isTerminal, LastDone, isResult, HasUnwound, apart]
    exact within.le
  | @interrupted a within =>
    have apart : a ≠ n := Nat.ne_of_lt within
    refine .of_tail ?_ ?_ ?_ ?_ ?_ ?_ ?_ <;>
      simp [isTerminal, LastDone, isResult, HasUnwound, apart]
    exact within.le
  | @interruptedAfter a within needRetry =>
    refine .of_tail ?_ ?_ ?_ ?_ ?_ ?_ ?_ <;>
      simp [isTerminal, LastDone, isResult, HasUnwound]
    · exact within
    · cases needRetry <;> decide

end Rounds

/-- **A bounded task that is let go has one verdict.** -/
theorem Lives.oneVerdict {n : Nat} {task : LegacyTask} {trace : List LegacyNote}
    (lives : Lives trace (.gone task)) (bounded : task.loop.limit = some n) (positive : 0 < n) :
    OneVerdict n trace :=
  Verdict.oneVerdict (lives.told rfl bounded positive) positive

/-! ## All tasks -/

/-- Nothing is seen after `on_complete` or `on_interrupt`. -/
def Ends (trace : List LegacyNote) : Prop :=
  ∀ before note after, trace = before ++ note :: after → note.isEnd = true → after = []

/-- The task may still be seen. -/
def Quiet (trace : List LegacyNote) : Prop := ∀ note ∈ trace, note.isEnd = false

/-- What the trace of any task tells: `on_complete` and `on_interrupt` are the last of it. -/
def Closes (trace : List LegacyNote) : LegacyLife → Prop
  | .running _ .returned | .gone _ => Ends trace
  | _ => Quiet trace

section Ends

variable {trace : List LegacyNote} {loop : LegacyLoop} {run after : RunTask}
  {life next : LegacyLife} {note : Option LegacyNote} {last : LegacyNote} {task : LegacyTask}

theorem Quiet.ends (quiet : Quiet trace) : Ends trace := by
  rintro before note after rfl isEnd
  have other := quiet note (List.mem_append_right _ List.mem_cons_self)
  rw [isEnd] at other
  cases other

/-- The last note may be the end. -/
theorem Quiet.ends_concat (quiet : Quiet trace) : Ends (trace ++ [last]) := by
  intro before note after split isEnd
  rcases List.eq_nil_or_concat' after with rfl | ⟨rest, other, rfl⟩
  · rfl
  · rw [← List.cons_append, ← List.append_assoc] at split
    obtain ⟨rfl, -⟩ := List.append_inj' split rfl
    have other := quiet note (List.mem_append_right _ List.mem_cons_self)
    rw [isEnd] at other
    cases other

theorem Quiet.concat (quiet : Quiet trace) (other : last.isEnd = false) :
    Quiet (trace ++ [last]) := by
  intro note there
  rcases List.mem_append.1 there with before | here
  · exact quiet note before
  · rw [List.mem_singleton.1 here]
    exact other

theorem Quiet.append_none (quiet : Quiet trace) :
    Quiet (trace ++ (none : Option LegacyNote).toList) := by
  rw [Option.toList_none, List.append_nil]
  exact quiet

theorem closes_of_between {a : Nat} (here : run.between = some a) :
    Closes trace (.running task run) ↔ Quiet trace := by
  cases run <;> cases here <;> exact Iff.rfl

/-- **Step lemma.**  One section of the loop. -/
theorem RunTask.Noted.closes (noted : RunTask.Noted loop run note after)
    (closes : Closes trace (.running task run)) :
    Closes (trace ++ note.toList) (.running task after) := by
  cases noted with
  | leave _ _ => exact (Quiet.append_none closes).ends
  | enter _ entered => exact (closes_of_between entered).2 (Quiet.append_none closes)
  | advance here there =>
    exact (closes_of_between there).2 ((closes_of_between here).1 closes).append_none
  | seeFirst _ => exact Quiet.concat closes rfl
  | seeBetween here => exact ((closes_of_between here).1 closes).concat rfl
  | completed => exact Quiet.ends_concat closes
  | interrupted => exact Quiet.ends_concat closes
  | finish => exact Quiet.append_none closes
  | exhaust _ => exact Quiet.append_none closes
  | again _ => exact Quiet.append_none closes
  | _ => exact Quiet.concat closes rfl

/-- **Step lemma.** -/
theorem LegacyLife.Step.closes (step : life.Step note next) (closes : Closes trace life) :
    Closes (trace ++ note.toList) next := by
  cases step with
  | run _ noted => exact noted.closes closes
  | overtaken _ => exact Quiet.ends_concat closes
  | interruptHealing _ => exact Quiet.ends_concat closes
  | join _ => exact (List.append_nil trace).symm ▸ closes
  | fail _ _ => exact (Quiet.concat closes rfl).ends
  | heal _ _ _ => exact Quiet.concat closes rfl
  | loseWorker _ => exact (Quiet.append_none closes).ends
  | _ => exact Quiet.append_none closes

/-- **Run lemma.** -/
theorem Lives.closes (lives : Lives trace life) : Closes trace life := by
  induction lives with
  | new => exact fun note absent => absurd absent List.not_mem_nil
  | step _ step ih => exact step.closes ih

/-- **Nothing comes after `on_complete` or `on_interrupt`.** -/
theorem Lives.ends (lives : Lives trace life) : Ends trace := by
  have closes := lives.closes
  unfold Closes at closes
  split at closes
  · exact closes
  · exact closes
  · exact closes.ends

/-- So there is one of them at most. -/
theorem Ends.countP_le_one (ends : Ends trace) : trace.countP isEnd ≤ 1 := by
  induction trace with
  | nil => exact Nat.zero_le _
  | cons first rest ih =>
    by_cases isEnd : first.isEnd = true
    · obtain rfl := ends [] first rest rfl isEnd
      rw [List.countP_cons_of_pos isEnd]
      rfl
    · rw [List.countP_cons_of_neg isEnd]
      apply ih
      intro before note after split here
      exact ends (first :: before) note after (congrArg (first :: ·) split) here

end Ends

end BusyBeaver
