import BusyBeaver.Legacy.Worker
import BusyBeaver.Lib.History
import Mathlib.Data.List.Count

/-!
# The calls on one dam

Any number of `enqueue` and `cancel_all` calls run against one dam and its worker.  A call is
what it still has to do, and the execution that an `enqueue` makes bears the number of its
call.  What can be seen of a run is its log (`damLog`): the calls, the `current` slot, the
calls of `work.execute()` and the callbacks.
-/

namespace BusyBeaver

open Transition

/-- A dam and the calls on it. -/
structure DamRun : Type where
  dam : Dam
  calls : List (List DamStep)
  deriving DecidableEq

inductive DamAction : Type
  | enqueue (task : LegacyTask)
  | cancelAll
  /-- the next section of a call -/
  | advance (call : Nat)
  | worker (event : DamEvent)
  | task (event : DamEvent)
  deriving DecidableEq, Repr

namespace DamRun

/-- A dam nobody has called. -/
def new (capacity : Nat) : DamRun where
  dam := .withHandle capacity
  calls := []

def begin (run : DamRun) (steps : List DamStep) : DamRun :=
  { run with calls := run.calls ++ [steps] }

/-- One section of call `call`, with what it has to do after it. -/
def advance (run : DamRun) (call : Nat) (step : DamStep) (rest : List DamStep) : DamRun :=
  match run.dam.step call step with
  | .error _ => { run with calls := run.calls.set call [] }
  | .ok (dam, steps) => ⟨dam, run.calls.set call (steps ++ rest)⟩

def step (run : DamRun) : DamAction → Option DamRun
  | .enqueue task => some (run.begin (Dam.enqueue task))
  | .cancelAll => some (run.begin Dam.cancelAll)
  | .advance call =>
    match run.calls[call]? with
    | some (step :: rest) => some (run.advance call step rest)
    | _ => none
  | .worker event => (run.dam.workerStep event).map fun dam => { run with dam := dam }
  | .task event => (run.dam.taskStep event).map fun dam => { run with dam := dam }

end DamRun

/-- All runs of a dam. -/
def damCalls (capacity : Nat) : System DamRun DamAction := ⟨.new capacity, DamRun.step⟩

/-! ## The log -/

inductive DamEntry : Type
  | enqueueBegan (call : Nat)
  | stamped (call seq : Nat)
  /-- `enqueue` returns `Ok` -/
  | enqueued (call : Nat)
  | refused (call : Nat)
  | cancelBegan (call : Nat)
  | loaded (call watermark : Nat)
  | raised (call watermark : Nat)
  /-- `cancel_all` has cancelled what it found in the slot, and returns -/
  | returned (call : Nat) (marked : Option Nat)
  | published (execution : Nat)
  /-- the watermark was read again, and the task is run -/
  | passed (execution : Nat)
  | cleared (execution : Nat)
  /-- the last check before `work.execute()` -/
  | checked (execution : Nat)
  | started (execution : Nat)
  | interrupted (execution : Nat)
  | completed (execution : Nat)
  | errored (execution : Nat)
  deriving DecidableEq, Repr

namespace DamEntry

/-- The call, or the execution. -/
def subject : DamEntry → Nat
  | .enqueueBegan call | .stamped call _ | .enqueued call | .refused call | .cancelBegan call
  | .loaded call _ | .raised call _ | .returned call _ => call
  | .published execution | .passed execution | .cleared execution | .checked execution
  | .started execution | .interrupted execution | .completed execution
  | .errored execution => execution

def isStamped : DamEntry → Bool
  | .stamped _ _ => true
  | _ => false

end DamEntry

namespace Dam

/-- `on_interrupt` runs, unless it has. -/
def interrupts (dam : Dam) (execution : Nat) : Option DamEntry :=
  if execution ∈ dam.interruptNotified then none else some (.interrupted execution)

/-- What a section of call `call` puts in the log. -/
def callEntry (dam : Dam) (call : Nat) (step : DamStep) : Option DamEntry :=
  match dam.step call step with
  | .error _ => some (.refused call)
  | .ok _ =>
    match step with
    | .stamp _ => some (.stamped call dam.enqueueSeq)
    | .send _ => some (.enqueued call)
    | .loadSeq => some (.loaded call dam.enqueueSeq)
    | .raise watermark => some (.raised call watermark)
    | .cancelCurrent => some (.returned call dam.current)
    | _ => none

def workerEntry (dam : Dam) (event : DamEvent) : Option DamEntry :=
  match dam.worker, event with
  | .received splash, .callback _ => dam.interrupts splash.execution
  | .publishing splash, .proceed => some (.published splash.execution)
  | .published splash, .callback _ => dam.interrupts splash.execution
  | .published splash, .proceed => some (.passed splash.execution)
  | .joining splash, .callback _ => some (.errored splash.execution)
  | .healing splash, .callback _ => dam.interrupts splash.execution
  | .clearing splash, .proceed => some (.cleared splash.execution)
  | _, _ => none

/-- The last look at the flag before `work.execute()`. -/
def checkEntry (splash : Splash) : Option RunTask → Option DamEntry
  | some (.starting _) => some (.checked splash.execution)
  | _ => none

/-- What the task of `splash` puts in the log. -/
def runEntry (dam : Dam) (splash : Splash) (run : RunTask) (event : DamEvent) :
    Option DamEntry :=
  match run, event with
  | .starting _, .proceed => some (.started splash.execution)
  | .exhausting _, .callback _ => some (.errored splash.execution)
  | .completing, .callback _ => some (.completed splash.execution)
  | .interrupting, .callback _ => dam.interrupts splash.execution
  | run, event =>
    checkEntry splash
      (run.step splash.task.loop (decide (splash.execution ∈ dam.cancelled)) event)

def taskEntry (dam : Dam) (event : DamEvent) : Option DamEntry :=
  match dam.task with
  | none => none
  | some (splash, run) => dam.runEntry splash run event

end Dam

/-- What an action puts in the log. -/
def DamRun.entry (run : DamRun) : DamAction → Option DamEntry
  | .enqueue _ => some (.enqueueBegan run.calls.length)
  | .cancelAll => some (.cancelBegan run.calls.length)
  | .advance call =>
    match run.calls[call]? with
    | some (step :: _) => run.dam.callEntry call step
    | _ => none
  | .worker event => run.dam.workerEntry event
  | .task event => run.dam.taskEntry event

/-- The log of a run. -/
def damLog (capacity : Nat) (actions : List DamAction) : List DamEntry :=
  (damCalls capacity).outputs DamRun.entry (damCalls capacity).init actions

/-! ## What the log says -/

/-- How many sequence numbers were given out. -/
def stamps (log : List DamEntry) : Nat := log.countP DamEntry.isStamped

@[simp] theorem stamps_append (log more : List DamEntry) :
    stamps (log ++ more) = stamps log + stamps more :=
  List.countP_append

/-- When an entry is in place.  `enqueue` takes the number of the stamps before it, and
`cancel_all` raises the watermark to the stamps before its load; a task passes if no watermark
lies above its number; what finds the slot taken cancels the execution in it, and a cancelled
execution passes no check. -/
def DamEntry.Fits (before : List DamEntry) : DamEntry → Prop
  | .enqueueBegan call => ∀ entry ∈ before, entry.subject < call
  | .stamped call seq =>
    seq = stamps before ∧ .enqueueBegan call ∈ before ∧ ∀ other, .stamped call other ∉ before
  | .enqueued call => ∃ seq, .stamped call seq ∈ before
  | .refused _ => True
  | .cancelBegan call => ∀ entry ∈ before, entry.subject < call
  | .loaded call watermark => watermark = stamps before ∧ .cancelBegan call ∈ before
  | .raised call watermark =>
    .loaded call watermark ∈ before ∧ ∀ marked, .returned call marked ∉ before
  | .returned call marked =>
    (∃ watermark, .raised call watermark ∈ before) ∧ (∀ other, .returned call other ∉ before) ∧
      (∀ execution, marked = some execution → .published execution ∈ before) ∧
        ∀ execution, .published execution ∈ before →
          marked = some execution ∨ .cleared execution ∈ before
  | .published execution => .enqueued execution ∈ before
  | .passed execution =>
    .published execution ∈ before ∧ ∃ seq, .stamped execution seq ∈ before ∧
      ∀ call watermark, .raised call watermark ∈ before → watermark ≤ seq
  | .cleared execution => .published execution ∈ before
  | .checked execution =>
    .passed execution ∈ before ∧ .cleared execution ∉ before ∧
      (∀ call, .returned call (some execution) ∉ before) ∧
        before.count (.checked execution) = before.count (.started execution)
  | .started execution =>
    .passed execution ∈ before ∧ .cleared execution ∉ before ∧
      before.count (.checked execution) = before.count (.started execution) + 1
  | .interrupted execution => .enqueued execution ∈ before ∧ .interrupted execution ∉ before
  | .completed execution | .errored execution => .passed execution ∈ before

end BusyBeaver
