import BusyBeaver.Lane.Refines

/-!
# The lane's accounts and the submissions

What the lane counts is counted of the submissions themselves.  `submittedOptions` reads off
the sections of a run the options each execution was submitted with; the lane refines the
queue, so the jobs that wait and run in it are those that arrived, and the keys it holds and
the references it counts are those of the submissions.
-/

namespace BusyBeaver

open Transition KeyedQueue

/-! ## The submissions of a run -/

/-- The submissions that are known once the section has run. -/
def LaneAction.record (known : ExecutionId → Option SpawnOptions) :
    LaneAction → ExecutionId → Option SpawnOptions
  | .insertPrepared id options _ => Function.update known id (some options)
  | _ => known

/-- The options that each execution was submitted with. -/
def submittedOptions (actions : List LaneAction) : ExecutionId → Option SpawnOptions :=
  actions.foldl LaneAction.record fun _ => none

/-- The ordering key that the execution was submitted with. -/
def submittedKey (actions : List LaneAction) (id : ExecutionId) : Option OrderingKey :=
  (submittedOptions actions id).bind SpawnOptions.orderingKey

theorem submittedOptions_snoc (actions : List LaneAction) (action : LaneAction) :
    submittedOptions (actions ++ [action]) = action.record (submittedOptions actions) :=
  List.foldl_append

theorem SpawnOptions.job_injective {options others : SpawnOptions} {id : ExecutionId}
    (same : options.job id = others.job id) : options = others := by
  cases options
  cases others
  simp only [SpawnOptions.job, Job.mk.injEq, true_and] at same
  simp [same.1, same.2]

namespace LaneRun

variable {config : LaneConfig} {run after : LaneRun} {action : LaneAction}
variable {actions : List LaneAction} {id : ExecutionId}

/-- What arrives in a section is the submission of the section. -/
theorem record_moves (config : LaneConfig) (run : LaneRun) (action : LaneAction)
    (known : ExecutionId → Option (Job ExecutionId Priority OrderingKey)) :
    (run.moves config action).foldl Action.record known = known ∨
      ∃ id options ticket, action = .insertPrepared id options ticket ∧
        (run.moves config action).foldl Action.record known =
          Function.update known id (some (options.job id)) := by
  cases action with
  | insertPrepared id options ticket =>
    simp only [moves]
    split
    · exact .inr ⟨id, options, ticket, rfl, rfl⟩
    · exact .inl rfl
  | takeStartable => exact .inl (foldl_record_starts known _)
  | removeQueued id | executionFinished id =>
    simp only [moves]
    split <;> exact .inl rfl
  | _ => exact .inl rfl

theorem issued_mono (step : run.step config action = some after) : run.issued ⊆ after.issued := by
  cases action with
  | insertPrepared id options ticket =>
    obtain ⟨-, eq⟩ := Option.ite_none_left_eq_some.1 step
    split at eq <;> obtain rfl := Option.some.inj eq <;> exact Finset.subset_insert ..
  | executionFinished id | finishWaitingProducer ticket =>
    obtain ⟨-, eq⟩ := Option.ite_none_right_eq_some.1 step
    obtain rfl := Option.some.inj eq
    exact Finset.Subset.refl _
  | newWaitingProducer =>
    simp only [LaneRun.step] at step
    split at step <;> obtain rfl := Option.some.inj step <;> exact Finset.Subset.refl _
  | _ =>
    obtain rfl := Option.some.inj step
    exact Finset.Subset.refl _

/-- The jobs that have arrived are the submissions of executions with an issued id. -/
theorem arrivals_trace
    (ran : (laneSystem config).exec (laneSystem config).init actions = some run) :
    ∀ id job, arrivals (trace config (laneSystem config).init actions) id = some job →
      id ∈ run.issued ∧ ∃ options, submittedOptions actions id = some options ∧
        options.job id = job := by
  apply System.exec_invariant (A := laneSystem config) (s := (laneSystem config).init)
    (I := fun actions run => ∀ id job,
      arrivals (trace config (laneSystem config).init actions) id = some job →
        id ∈ run.issued ∧ ∃ options, submittedOptions actions id = some options ∧
          options.job id = job) _ _ ran
  · intro id job absurd
    cases absurd
  intro actions before after action ran ih step id job arrived
  have step : before.step config action = some after := step
  rw [trace_snoc ran, arrivals_append] at arrived
  rw [submittedOptions_snoc]
  cases action with
  | insertPrepared other options ticket =>
    obtain ⟨fresh, eq⟩ := Option.ite_none_left_eq_some.1 step
    have issued : after.issued = insert other before.issued := by
      split at eq <;> obtain rfl := Option.some.inj eq <;> rfl
    rw [issued]
    -- an id that has arrived before is another one
    have earlier : arrivals (trace config (laneSystem config).init actions) id = some job →
        id ∈ insert other before.issued ∧ ∃ known,
          LaneAction.record (submittedOptions actions) (.insertPrepared other options ticket) id =
            some known ∧ known.job id = job := by
      intro came
      obtain ⟨old, known, own, same⟩ := ih id job came
      have apart : id ≠ other := by
        rintro rfl
        exact fresh old
      exact ⟨Finset.mem_insert_of_mem old, known, (Function.update_of_ne apart ..).trans own, same⟩
    rcases record_moves config before (.insertPrepared other options ticket)
      (arrivals (trace config (laneSystem config).init actions)) with
      same | ⟨_, _, _, same, recorded⟩
    · rw [same] at arrived
      exact earlier arrived
    · cases same
      rw [recorded] at arrived
      by_cases here : id = other
      · subst here
        rw [Function.update_self] at arrived
        exact ⟨Finset.mem_insert_self _ _, options, Function.update_self ..,
          Option.some.inj arrived⟩
      · rw [Function.update_of_ne here] at arrived
        exact earlier arrived
  | _ =>
    rcases record_moves config before _
      (arrivals (trace config (laneSystem config).init actions)) with
      same | ⟨_, _, _, absurd, -⟩
    · rw [same] at arrived
      obtain ⟨issued, submitted⟩ := ih id job arrived
      exact ⟨issued_mono step issued, submitted⟩
    · cases absurd

/-- While the runtime is there, what is monitored is active. -/
theorem monitored_active (reached : (laneSystem config).Reachable run) :
    run.lane.runtimeUnavailable = false → ∀ id ∈ run.monitors, id ∈ run.lane.active := by
  induction reached with
  | refl =>
    intro _ id absurd
    cases absurd
  | @tail before after action reached _ step ih =>
    have inv := Inv.of_reachable reached
    have step : before.step config action = some after := step
    intro available id monitored
    cases action with
    | insertPrepared other options ticket =>
      obtain ⟨-, eq⟩ := Option.ite_none_left_eq_some.1 step
      split at eq
      · obtain rfl := Option.some.inj eq
        exact ih available id monitored
      · rename_i lane ok
        obtain rfl := Option.some.inj eq
        have fields := (LaneState.Inserted.of_ok ok).eq
        change lane.runtimeUnavailable = false at available
        change id ∈ lane.active
        rw [fields] at available ⊢
        exact Finset.mem_insert_of_mem (ih available id monitored)
    | removeQueued other =>
      obtain rfl := Option.some.inj step
      have same := (@LaneState.removeQueued_keys before.lane other).2
      exact LaneState.mem_active_removeQueued (ih (same.symm.trans available) id monitored)
        (inv.monitored id monitored).2
    | takeStartable =>
      obtain rfl := Option.some.inj step
      have loop := inv.lane.takeStartable
      change id ∈ (before.lane.takeStartable config).state.active
      rw [loop.active]
      rcases Finset.mem_union.1 monitored with earlier | started
      · exact ih (loop.runtimeUnavailable.symm.trans available) id earlier
      · exact inv.lane.entries_active id (loop.started id (List.mem_toFinset.1 started))
    | executionFinished other =>
      obtain ⟨-, eq⟩ := Option.ite_none_right_eq_some.1 step
      obtain rfl := Option.some.inj eq
      have active := (executionFinished_fields before.lane other).1
      have same := @LaneState.executionFinished_runtimeUnavailable before.lane other
      change id ∈ (before.lane.executionFinished other).1.active
      rw [active]
      obtain ⟨apart, earlier⟩ := Finset.mem_erase.1 monitored
      exact Finset.mem_erase.2 ⟨apart, ih (same.symm.trans available) id earlier⟩
    | dispatcherStopped =>
      obtain rfl := Option.some.inj step
      cases available
    | newWaitingProducer =>
      have only := @LaneState.WaitingOnly.newWaitingProducer config before.lane
      simp only [LaneRun.step] at step
      split at step <;> rename_i eq <;> obtain rfl := Option.some.inj step
      all_goals
        rw [eq] at only
        exact only.active.symm ▸ ih (only.runtimeUnavailable.symm.trans available) id monitored
    | finishWaitingProducer ticket =>
      obtain ⟨-, eq⟩ := Option.ite_none_right_eq_some.1 step
      obtain rfl := Option.some.inj eq
      exact ih available id monitored
    | requestClose | stats =>
      obtain rfl := Option.some.inj step
      exact ih available id monitored

/-! ## The accounts -/

/-- The coupled fields, against the submissions of the run. -/
structure Accounts (actions : List LaneAction) (run : LaneRun) : Prop where
  /-- The queue has the options it was given. -/
  queued : ∀ id entry, run.lane.entries.lookup id = some entry →
    submittedOptions actions id = some entry.options
  /-- What runs is what was dispatched and not reported as finished. -/
  running : run.lane.runtimeUnavailable = false → ∀ id,
    id ∈ run.lane.active ∧ id ∉ run.lane.entries ↔ id ∈ run.monitors
  /-- What runs holds the key it was submitted with, if any. -/
  holds : ∀ id ∈ run.lane.active, id ∉ run.lane.entries → ∃ options,
    submittedOptions actions id = some options ∧
      run.lane.runningOrderingKeys.lookup id = options.orderingKey
  activeKeys : ∀ key, key ∈ run.lane.activeOrderingKeys ↔
    ∃ id ∈ run.lane.active, id ∉ run.lane.entries ∧ submittedKey actions id = some key
  /-- No two executions submitted with one key run together. -/
  exclusive : ∀ a ∈ run.lane.active, ∀ b ∈ run.lane.active, a ∉ run.lane.entries →
    b ∉ run.lane.entries → ∀ key, submittedKey actions a = some key →
      submittedKey actions b = some key → a = b
  /-- A key is counted once for each execution, queued or running, submitted with it. -/
  refcounts : ∀ key, (run.lane.orderingKeyRefcounts.lookup key).getD 0 =
    (run.lane.active.filter fun id => submittedKey actions id = some key).card

/-- Holders of a key, by their keys. -/
theorem card_holders {state : LaneState} (inv : state.Inv config) {key : OrderingKey}
    {keyOf : ExecutionId → Option OrderingKey}
    (queued : ∀ id entry, state.entries.lookup id = some entry →
      keyOf id = entry.options.orderingKey)
    (running : ∀ id ∈ state.active, id ∉ state.entries →
      keyOf id = state.runningOrderingKeys.lookup id) :
    LaneState.holders state.entries state.runningOrderingKeys key =
      (state.active.filter fun id => keyOf id = some key).card := by
  unfold LaneState.holders
  rw [AssocMap.count_eq_card, AssocMap.count_eq_card, ← Finset.card_union_of_disjoint]
  · congr 1
    ext id
    rw [Finset.mem_union, AssocMap.mem_filter_keys, AssocMap.mem_filter_keys, Finset.mem_filter]
    constructor
    · rintro (⟨entry, found, own⟩ | ⟨held, found, own⟩)
      · refine ⟨inv.entries_active id (AssocMap.mem_of_lookup found), ?_⟩
        exact (queued id entry found).trans (eq_of_beq own)
      · obtain ⟨active, unqueued⟩ := inv.keys_running id (AssocMap.mem_of_lookup found)
        refine ⟨active, (running id active unqueued).trans (found.trans ?_)⟩
        rw [eq_of_beq own]
    · rintro ⟨active, own⟩
      by_cases waits : id ∈ state.entries
      · obtain ⟨entry, found⟩ := AssocMap.mem_iff_lookup.1 waits
        refine .inl ⟨entry, found, beq_iff_eq.2 ?_⟩
        exact (queued id entry found).symm.trans own
      · refine .inr ⟨key, (running id active waits).symm.trans own, beq_self_eq_true key⟩
  · refine Finset.disjoint_left.2 fun id waits runs => ?_
    obtain ⟨entry, found, -⟩ := AssocMap.mem_filter_keys.1 waits
    obtain ⟨held, holder, -⟩ := AssocMap.mem_filter_keys.1 runs
    exact (inv.keys_running id (AssocMap.mem_of_lookup holder)).2 (AssocMap.mem_of_lookup found)

theorem accounts_of_exec
    (ran : (laneSystem config).exec (laneSystem config).init actions = some run) :
    run.Accounts actions := by
  have reached := System.Reaches.of_schedule actions ran
  have inv := Inv.of_reachable reached
  have sound := Queue.Sound.of_exec (exec_trace .refl ran)
  have queued : ∀ id entry, run.lane.entries.lookup id = some entry →
      submittedOptions actions id = some entry.options := by
    intro id entry found
    have came := sound.waits _ (inv.lane.job_mem found)
    obtain ⟨-, options, own, same⟩ := arrivals_trace ran id _ came
    rw [own, SpawnOptions.job_injective same]
  have holds : ∀ id ∈ run.lane.active, id ∉ run.lane.entries → ∃ options,
      submittedOptions actions id = some options ∧
        run.lane.runningOrderingKeys.lookup id = options.orderingKey := by
    intro id active unqueued
    obtain ⟨job, came, held⟩ := sound.holds id (Finset.mem_filter.2 ⟨active, unqueued⟩)
    obtain ⟨-, options, own, rfl⟩ := arrivals_trace ran id job came
    exact ⟨options, own, held⟩
  have held : ∀ id ∈ run.lane.active, id ∉ run.lane.entries →
      submittedKey actions id = run.lane.runningOrderingKeys.lookup id := by
    intro id active unqueued
    obtain ⟨options, own, key⟩ := holds id active unqueued
    rw [submittedKey, own, key]
    rfl
  constructor
  case queued => exact queued
  case holds => exact holds
  case running =>
    intro available id
    constructor
    · rintro ⟨active, unqueued⟩
      exact (inv.covered id active).resolve_left unqueued
    · intro monitored
      exact ⟨monitored_active reached available id monitored, (inv.monitored id monitored).2⟩
  case activeKeys =>
    intro key
    rw [inv.lane.keys_active]
    constructor
    · rintro ⟨id, holder⟩
      obtain ⟨active, unqueued⟩ := inv.lane.keys_running id (AssocMap.mem_of_lookup holder)
      exact ⟨id, active, unqueued, (held id active unqueued).trans holder⟩
    · rintro ⟨id, active, unqueued, own⟩
      exact ⟨id, (held id active unqueued).symm.trans own⟩
  case exclusive =>
    intro a activeA b activeB unqueuedA unqueuedB key ownA ownB
    exact inv.lane.keys_injective a b key ((held a activeA unqueuedA).symm.trans ownA)
      ((held b activeB unqueuedB).symm.trans ownB)
  case refcounts =>
    intro key
    rw [inv.lane.refcounts.value key]
    refine card_holders inv.lane (fun id entry found => ?_) held
    rw [submittedKey, queued id entry found]
    rfl

end LaneRun

/-- **The lane's accounting.**  Whatever order the sections run in, the coupled fields agree
with each other and with the submissions, and the only code the lane logs is that of the
wrapping dispatch counter: no branch for a missing, mismatched or underflowing field is taken. -/
theorem lane_accounting {config : LaneConfig} {actions : List LaneAction} {run : LaneRun}
    (ran : (laneSystem config).exec (laneSystem config).init actions = some run) :
    run.lane.Inv config ∧ run.Accounts actions ∧
      ∀ code ∈ run.logged, code = .dispatchCountOverflow :=
  have inv := LaneRun.Inv.of_reachable (System.Reaches.of_schedule actions ran)
  ⟨inv.lane, LaneRun.accounts_of_exec ran, inv.logged⟩

/-- Both submissions count under their key while one runs and one is queued; in the end the
first has finished, the second is rolled back, and nothing is counted. -/
theorem lane_accounting_keyed :
    ∃ between run,
      (laneSystem narrowLane).exec (laneSystem narrowLane).init (keyedRun.take 3) = some between ∧
      between.Accounts (keyedRun.take 3) ∧
      between.lane.orderingKeyRefcounts.lookup ⟨[1], by decide⟩ = some 2 ∧
      (laneSystem narrowLane).exec (laneSystem narrowLane).init keyedRun = some run ∧
      run.lane.Inv narrowLane ∧ run.Accounts keyedRun ∧
      (∀ code ∈ run.logged, code = .dispatchCountOverflow) ∧
      run.lane.running = 0 ∧ run.lane.orderingKeyRefcounts = ∅ := by
  have first : ∃ between,
      (laneSystem narrowLane).exec (laneSystem narrowLane).init (keyedRun.take 3) = some between ∧
      between.lane.orderingKeyRefcounts.lookup ⟨[1], by decide⟩ = some 2 := ⟨_, rfl, rfl⟩
  have ran : ∃ run, (laneSystem narrowLane).exec (laneSystem narrowLane).init keyedRun = some run ∧
      run.lane.running = 0 ∧ run.lane.orderingKeyRefcounts = ∅ := ⟨_, rfl, rfl, rfl⟩
  obtain ⟨between, eqBetween, two⟩ := first
  obtain ⟨run, eq, idle, released⟩ := ran
  obtain ⟨inv, accounts, silent⟩ := lane_accounting eq
  exact ⟨between, run, eqBetween, (lane_accounting eqBetween).2.1, two, eq, inv, accounts, silent,
    idle, released⟩

end BusyBeaver
