import BusyBeaver.Legacy.Ledger

/-!
# The cancellation watermark

A `cancel_all` reaches what was enqueued before it began, from the moment it raises the
watermark: what was published by then is cancelled through the slot, the rest is interrupted
when the worker reads the watermark.  A worker that publishes and passes between the beginning
of the call and the raise is not stopped, and neither is anything once the counter has wrapped
(`window_and_wrap`).
-/

namespace BusyBeaver

open Transition Checked

/-- The task was enqueued before the call began, and was not published by the time the call
raised the watermark. -/
def Behind (log : List DamEntry) (c i : Nat) : Prop :=
  ∃ first rest watermark after,
    log = (first ++ .cancelBegan c :: rest) ++ .raised c watermark :: after ∧
      .enqueued i ∈ first ∧ .published i ∉ first ++ .cancelBegan c :: rest

/-- **Main result.**  As long as the sequence numbers last: a task that was enqueued before a
`cancel_all` began, and was not published when it raised the watermark, is interrupted once and
never run; one that was published by the time it returned calls `work.execute()` at most once
more; and one that is enqueued after it is not reached by it, so that another call has reached
what is interrupted or cancelled. -/
theorem cancel_all_watermark {capacity : Nat} {run : DamRun} {actions : List DamAction}
    (ran : (damCalls capacity).exec (damCalls capacity).init actions = some run)
    (few : stamps (damLog capacity actions) ≤ Checked.u64Max) :
    (∀ c i, Behind (damLog capacity actions) c i →
      .started i ∉ damLog capacity actions ∧ .completed i ∉ damLog capacity actions ∧
        .errored i ∉ damLog capacity actions ∧
          ((damLog capacity actions).count (.interrupted i) = 1 ∨
            (damLog capacity actions).count (.interrupted i) = 0 ∧ run.dam.Awaits i)) ∧
    ∀ c i marked before after,
      damLog capacity actions = before ++ .returned c marked :: after →
        (.published i ∈ before → after.count (.started i) ≤ 1) ∧
          (.enqueueBegan i ∈ after → ¬ ReachedBy (damLog capacity actions) c i ∧
            (.interrupted i ∈ damLog capacity actions ∨ i ∈ run.dam.cancelled →
              ∃ other, other ≠ c ∧ ReachedBy (damLog capacity actions) other i)) := by
  have tells := tells_of_run ran few
  generalize damLog capacity actions = log at tells
  have lawful := tells.shows_.lawful
  have flags := tells.shows_.flags
  refine ⟨?_, ?_⟩
  · rintro c i ⟨first, rest, watermark, after, split, enqueued, unpublished⟩
    have unpassed := not_passed_of_raised lawful split rfl enqueued unpublished
    refine ⟨fun started => unpassed (passed_of_started lawful started),
      fun completed => unpassed (passed_of_completed lawful completed),
      fun errored => unpassed (passed_of_errored lawful errored), ?_⟩
    have once := interrupted_le_one lawful i
    have known : .enqueued i ∈ log := by
      rw [split]
      exact List.mem_append_left _ (List.mem_append_left _ enqueued)
    rcases tells.shows_.line.fate i known with awaits | interrupted | passed
    · rcases Nat.le_one_iff_eq_zero_or_eq_one.1 once with none_ | one
      · exact Or.inr ⟨none_, awaits⟩
      · exact Or.inl one
    · exact Or.inl (Nat.le_antisymm once (List.count_pos_iff.2 interrupted))
    · exact absurd passed unpassed
  · intro c i marked before after split
    refine ⟨started_le_one lawful split, fun began => ?_⟩
    have unreached : ¬ ReachedBy log c i := by
      rintro (returned | ⟨seq, watermark, stamped, raised, lt⟩)
      · exact not_marked lawful split began returned
      · exact absurd lt (Nat.not_lt.2 (watermark_le_stamp lawful split began stamped raised))
    refine ⟨unreached, fun hit => ?_⟩
    have cancelled : i ∈ run.dam.cancelled :=
      hit.elim (fun interrupted => flags.cancelled ((flags.notified i).2 interrupted)) id
    obtain ⟨other, reached⟩ := flags.reached i cancelled
    exact ⟨other, fun same => unreached (same ▸ reached), reached⟩

/-- A task in the backlog of a `cancel_all`. -/
theorem cancel_all_backlog :
    ∃ run actions, (damCalls 1).exec (damCalls 1).init actions = some run ∧
      .started 0 ∉ damLog 1 actions ∧ (damLog 1 actions).count (.interrupted 0) = 1 := by
  have ran : ((damCalls 1).exec (damCalls 1).init
      [.enqueue (.fixedCount 1), .advance 0, .advance 0, .advance 0, .cancelAll, .advance 1,
        .advance 1, .advance 1, .worker .proceed, .worker (.callback none)]).isSome := by
    decide +kernel
  obtain ⟨run, ran⟩ := Option.isSome_iff_exists.1 ran
  obtain ⟨behind, -⟩ := cancel_all_watermark ran (by decide +kernel)
  obtain ⟨unstarted, -, -, -⟩ := behind 1 0 ⟨[.enqueueBegan 0, .stamped 0 0, .enqueued 0],
    [.loaded 1 1], 1, [.returned 1 none, .interrupted 0], by decide +kernel, by decide, by decide⟩
  exact ⟨run, _, ran, unstarted, by decide +kernel⟩

/-! ## Before the raise, and after the wrap -/

section Wrap

variable {capacity : Nat} {dam : Dam} {calls : List (List DamStep)} {run mid after : DamRun}
  {actions more : List DamAction} {log rest : List DamEntry}

/-- The actions lead from one state to another and put `log` out. -/
def Plays (capacity : Nat) (run : DamRun) (actions : List DamAction) (log : List DamEntry)
    (after : DamRun) : Prop :=
  (damCalls capacity).exec run actions = some after ∧
    (damCalls capacity).outputs DamRun.entry run actions = log

theorem Plays.append (plays : Plays capacity run actions log mid)
    (plays' : Plays capacity mid more rest after) :
    Plays capacity run (actions ++ more) (log ++ rest) after := by
  refine ⟨?_, ?_⟩
  · rw [System.exec_append, plays.1]
    exact plays'.1
  · rw [System.outputs_append plays.1, plays.2, plays'.2]

/-- A call of `enqueue` that runs undisturbed. -/
def enqueueAlone (call : Nat) (task : LegacyTask) : List DamAction :=
  [.enqueue task, .advance call, .advance call, .advance call]

def cancelAllAlone (call : Nat) : List DamAction :=
  [.cancelAll, .advance call, .advance call, .advance call]

theorem plays_refused (task : LegacyTask) (unreleased : dam.releaseFlag = false)
    (sender : dam.sender = true)
    (full : dam.capacity ≤ dam.queue.length) :
    Plays capacity ⟨dam, calls⟩ (enqueueAlone calls.length task)
      [.enqueueBegan calls.length, .stamped calls.length dam.enqueueSeq, .refused calls.length]
      ⟨{ dam with enqueueSeq := (dam.enqueueSeq + 1) % (u64Max + 1) }, calls ++ [[]]⟩ := by
  constructor
  · simp [enqueueAlone, damCalls, System.exec, DamRun.step, DamRun.begin, DamRun.advance,
      Dam.enqueue, Dam.step, unreleased, sender, full]
  · simp [enqueueAlone, damCalls, System.outputs, DamRun.step, DamRun.entry, DamRun.begin,
      DamRun.advance, Dam.enqueue, Dam.step, Dam.callEntry, unreleased, sender, full]

theorem plays_enqueued (task : LegacyTask) (unreleased : dam.releaseFlag = false)
    (sender : dam.sender = true)
    (alive : dam.worker.hasExited = false) (room : dam.queue.length < dam.capacity) :
    Plays capacity ⟨dam, calls⟩ (enqueueAlone calls.length task)
      [.enqueueBegan calls.length, .stamped calls.length dam.enqueueSeq, .enqueued calls.length]
      ⟨{ dam with
          enqueueSeq := (dam.enqueueSeq + 1) % (u64Max + 1)
          queue := dam.queue ++ [⟨calls.length, task, dam.enqueueSeq⟩] }, calls ++ [[]]⟩ := by
  have room' : ¬ dam.capacity ≤ dam.queue.length := Nat.not_le.2 room
  constructor
  · simp [enqueueAlone, damCalls, System.exec, DamRun.step, DamRun.begin, DamRun.advance,
      Dam.enqueue, Dam.step, unreleased, sender, alive, room']
  · simp [enqueueAlone, damCalls, System.outputs, DamRun.step, DamRun.entry, DamRun.begin,
      DamRun.advance, Dam.enqueue, Dam.step, Dam.callEntry, unreleased, sender, alive, room']

theorem plays_cancelAll (idle : dam.current = none) :
    Plays capacity ⟨dam, calls⟩ (cancelAllAlone calls.length)
      [.cancelBegan calls.length, .loaded calls.length dam.enqueueSeq,
        .raised calls.length dam.enqueueSeq, .returned calls.length none]
      ⟨{ dam with cancelWatermark := max dam.cancelWatermark dam.enqueueSeq }, calls ++ [[]]⟩ := by
  constructor
  · simp [cancelAllAlone, damCalls, System.exec, DamRun.step, DamRun.begin, DamRun.advance,
      Dam.cancelAll, Dam.step, idle]
  · simp [cancelAllAlone, damCalls, System.outputs, DamRun.step, DamRun.entry, DamRun.begin,
      DamRun.advance, Dam.cancelAll, Dam.step, Dam.callEntry, idle]

/-- The numbers that refused calls use up. -/
theorem plays_refusals (unreleased : dam.releaseFlag = false) (sender : dam.sender = true)
    (full : dam.capacity ≤ dam.queue.length) (task : LegacyTask) (n : Nat)
    (last : dam.enqueueSeq + n ≤ u64Max) :
    ∃ actions log, Plays capacity ⟨dam, calls⟩ actions log
      ⟨{ dam with enqueueSeq := dam.enqueueSeq + n }, calls ++ List.replicate n []⟩ ∧
        ∀ i, .published i ∉ log := by
  induction n with
  | zero => exact ⟨[], [], ⟨by simp [System.exec], rfl⟩, by simp⟩
  | succ n ih =>
    obtain ⟨actions, log, plays, unpublished⟩ := ih (by omega)
    have next := plays.append (plays_refused task unreleased sender full)
    rw [Nat.mod_eq_of_lt (by simp only; omega), List.append_assoc, ← List.replicate_succ'] at next
    exact ⟨_, _, next, by simp [unpublished]⟩

/-- The worker takes what it holds through its only attempt. -/
def runThrough : List DamAction :=
  [.worker .proceed, .worker .proceed, .worker .proceed, .worker .proceed, .task .proceed,
    .task .proceed, .task (.result false), .task .proceed, .task (.callback none),
    .worker .proceed, .worker .proceed]

/-- The worker takes the next task to its first call of `work.execute()`. -/
def runNext : List DamAction :=
  [.worker .proceed, .worker .proceed, .worker .proceed, .worker .proceed, .worker .proceed,
    .task .proceed, .task .proceed]

/-- The worker stands before its first read of the watermark when the counter wraps. -/
theorem plays_wrap :
    ∃ actions first calls,
      Plays 1 (.new 1) actions first ⟨{ Dam.withHandle 1 with
        queue := [⟨calls.length, .rangeInterval 1, u64Max⟩],
        worker := .received ⟨0, .rangeInterval 1, 0⟩ }, calls ++ [[]]⟩ ∧
      .enqueued calls.length ∈ first ∧ ∀ i, .published i ∉ first := by
  have first : Plays 1 ⟨.withHandle 1, []⟩ _ _ _ :=
    plays_enqueued (.rangeInterval 1) rfl rfl rfl (Nat.zero_lt_one)
  obtain ⟨actions, log, filler, unpublished⟩ :
      ∃ actions log, Plays 1
          ⟨{ Dam.withHandle 1 with enqueueSeq := 1, queue := [⟨0, .rangeInterval 1, 0⟩] }, [[]]⟩
          actions log ⟨{ Dam.withHandle 1 with
            enqueueSeq := u64Max, queue := [⟨0, .rangeInterval 1, 0⟩] },
            [[]] ++ List.replicate (u64Max - 1) []⟩ ∧
        ∀ i, .published i ∉ log :=
    plays_refusals rfl rfl (Nat.le_refl 1) (.rangeInterval 1) (u64Max - 1) (by decide)
  have before := first.append filler
  generalize [[]] ++ List.replicate (u64Max - 1) [] = calls at before
  have taken : Plays 1
      ⟨{ Dam.withHandle 1 with enqueueSeq := u64Max, queue := [⟨0, .rangeInterval 1, 0⟩] }, calls⟩
      [.worker .proceed] [] ⟨{ Dam.withHandle 1 with
        enqueueSeq := u64Max, worker := .received ⟨0, .rangeInterval 1, 0⟩ }, calls⟩ :=
    ⟨rfl, rfl⟩
  have last : Plays 1 ⟨{ Dam.withHandle 1 with
      enqueueSeq := u64Max, worker := .received ⟨0, .rangeInterval 1, 0⟩ }, calls⟩ _ _ _ :=
    plays_enqueued (.rangeInterval 1) rfl rfl rfl (Nat.zero_lt_one)
  refine ⟨_, _, calls, (before.append taken).append last, by simp, fun i => by simp [unpublished]⟩

/-- What the worker puts in the log when it runs what it holds and then task `i`. -/
def runsLog (i : Nat) : List DamEntry :=
  [.published 0, .passed 0, .checked 0, .started 0, .completed 0, .cleared 0, .published i,
    .passed i, .checked i, .started i]

theorem after_the_wrap :
    ∃ run actions c i, (damCalls 1).exec (damCalls 1).init actions = some run ∧
      Behind (damLog 1 actions) c i ∧ .started i ∈ damLog 1 actions := by
  obtain ⟨actions, first, calls, before, enqueued, unpublished⟩ := plays_wrap
  have cancelled : Plays 1 ⟨{ Dam.withHandle 1 with
      queue := [⟨calls.length, .rangeInterval 1, u64Max⟩],
      worker := .received ⟨0, .rangeInterval 1, 0⟩ }, calls ++ [[]]⟩ _ _ _ :=
    plays_cancelAll rfl
  have through : Plays 1 ⟨{ Dam.withHandle 1 with
      queue := [⟨calls.length, .rangeInterval 1, u64Max⟩],
      worker := .received ⟨0, .rangeInterval 1, 0⟩ }, calls ++ [[]] ++ [[]]⟩
      (runThrough ++ runNext) (runsLog calls.length) _ :=
    ⟨rfl, rfl⟩
  obtain ⟨ran, log⟩ := (before.append cancelled).append through
  refine ⟨_, _, (calls ++ [[]]).length, calls.length, ran, ?_, ?_⟩
  · refine ⟨first, [.loaded (calls ++ [[]]).length 0], 0,
      .returned (calls ++ [[]]).length none :: runsLog calls.length, ?_, enqueued, ?_⟩
    · exact (log.trans (List.append_assoc first _ _)).trans
        (List.append_assoc first [.cancelBegan _, .loaded _ 0] _).symm
    · simp [unpublished]
  · have last : .started calls.length ∈ runsLog calls.length := by simp [runsLog]
    exact (congrArg (DamEntry.started calls.length ∈ ·) log).mpr
      (List.mem_append_right _ last)
end Wrap

/-- The two limits of `cancel_all`.  A task enqueued before the call began is run when it is
published and passes before the raise; and a worker that holds an old task while the counter
wraps takes the last task of the round to `work.execute()`, although a `cancel_all` has raised the
watermark to 0 after it. -/
theorem window_and_wrap :
    (∃ run actions first rest, (damCalls 1).exec (damCalls 1).init actions = some run ∧
      damLog 1 actions = first ++ .cancelBegan 1 :: rest ∧ .enqueued 0 ∈ first ∧
        .published 0 ∉ first ∧ .started 0 ∈ damLog 1 actions) ∧
    ∃ run actions c i, (damCalls 1).exec (damCalls 1).init actions = some run ∧
      Behind (damLog 1 actions) c i ∧ .started i ∈ damLog 1 actions := by
  refine ⟨⟨_, [.enqueue (.rangeInterval 1), .advance 0, .advance 0, .advance 0, .cancelAll,
    .worker .proceed, .worker .proceed, .worker .proceed, .worker .proceed, .worker .proceed,
    .task .proceed, .task .proceed, .advance 1, .advance 1, .advance 1],
    [.enqueueBegan 0, .stamped 0 0, .enqueued 0],
    [.published 0, .passed 0, .checked 0, .started 0, .loaded 1 1, .raised 1 1,
      .returned 1 (some 0)],
    rfl, by decide +kernel, by decide, by decide, by decide +kernel⟩, after_the_wrap⟩

end BusyBeaver
