import BusyBeaver.Traffic.Dispatcher

/-!
# What is outstanding when the dispatcher returns

An execution leaves the active map when its monitor has seen its exit, or when its entry is
taken out of the queue.  In the second case its exit is committed only when the start taken
out is dropped, outside the mutex; so the dispatcher of a closing lane, which looks at the
active map alone, returns from executions whose cancellation is still under way.
-/

namespace BusyBeaver

open Transition Wakeup

/-- The call answered `Ok`. -/
def SpawnPhase.Answers (id : ExecutionId) (phase : SpawnPhase) : Prop :=
  phase = .leaving (some (.ok id)) ∨ phase = .ended (some (.ok id))

/-- The call has its execution in the lane, registered or about to be. -/
def SpawnPhase.Holds (id : ExecutionId) (phase : SpawnPhase) : Prop :=
  phase = .registering id ∨ phase.Answers id

theorem SpawnPhase.Holds.answered {id : ExecutionId} {reply : SpawnReply}
    (holds : (SpawnPhase.leaving reply).Holds id ∨ (SpawnPhase.ended reply).Holds id) :
    reply = some (.ok id) := by
  rcases holds with (absurd | eq | absurd) | (absurd | absurd | eq)
  · cases absurd
  · exact SpawnPhase.leaving.inj eq
  · cases absurd
  · cases absurd
  · cases absurd
  · exact SpawnPhase.ended.inj eq

namespace Traffic

/-- A submission of the execution was admitted. -/
def Admitted (s : Traffic) (id : ExecutionId) : Prop :=
  ∃ i caller, s.callers i = some caller ∧ caller.phase.Answers id

def Placed (s : Traffic) (id : ExecutionId) : Prop :=
  ∃ i caller, s.callers i = some caller ∧ caller.phase.Holds id

variable {config : LaneConfig} {s s' : Traffic} {action : TrafficAction} {i : Nat}
variable {caller caller' : SpawnCall} {id : ExecutionId}

theorem Admitted.placed (admitted : s.Admitted id) : s.Placed id := by
  obtain ⟨i, caller, found, answers⟩ := admitted
  exact ⟨i, caller, found, .inr answers⟩

theorem Placed.of_call (placed : (s.call i caller').Placed id) :
    caller'.phase.Holds id ∨ s.Placed id := by
  obtain ⟨j, other, at_j, holds⟩ := placed
  rcases Pool.of_set_eq_some at_j with ⟨-, rfl⟩ | ⟨-, old⟩
  · exact .inl holds
  · exact .inr ⟨j, other, old, holds⟩

theorem not_holds_refused (caller : SpawnCall) (error : SpawnError) (id : ExecutionId) :
    ¬ (caller.refused error).phase.Holds id := by
  unfold SpawnCall.refused
  intro holds
  split at holds
  · split at holds
    · split at holds <;> rcases holds with absurd | absurd | absurd <;> cases absurd
    · cases SpawnPhase.Holds.answered (.inl holds)
  · cases SpawnPhase.Holds.answered (.inl holds)

/-! ## Where an execution is until its exit is committed -/

structure Tracked (s : Traffic) : Prop where
  dropping : ∀ id ∈ s.dropping, id ∈ s.run.issued ∧ id ∉ s.run.lane.entries ∧
    id ∉ s.run.monitors ∧ id ∉ s.exits
  exits : ∀ id ∈ s.exits, id ∈ s.run.issued ∧ id ∉ s.run.lane.entries
  kept : s.dispatcher ≠ .stopped → ∀ id, s.Placed id →
    id ∈ s.run.lane.active ∨ id ∈ s.dropping ∨ id ∈ s.exits

namespace Tracked

theorem new : Traffic.new.Tracked where
  dropping := by intro id absurd; cases absurd
  exits := by intro id absurd; cases absurd
  kept := by
    rintro - id ⟨i, caller, absurd, -⟩
    cases absurd

/-- A step that commits no exit, drops nothing and takes nothing out of the active map. -/
theorem frame (tracked : s.Tracked) (issued : ∀ id ∈ s.run.issued, id ∈ s'.run.issued)
    (entries : ∀ id ∈ s'.run.lane.entries, id ∈ s.run.lane.entries)
    (monitors : ∀ id ∈ s'.run.monitors, id ∈ s.run.monitors ∨ id ∈ s.run.lane.entries)
    (active : s'.dispatcher ≠ .stopped → s.dispatcher ≠ .stopped ∧
      ∀ id ∈ s.run.lane.active, id ∈ s'.run.lane.active)
    (dropping : s'.dropping = s.dropping) (exits : s'.exits = s.exits)
    (placed : ∀ id, s'.Placed id → s.Placed id) : s'.Tracked := by
  constructor
  · intro id member
    rw [dropping] at member
    obtain ⟨known, unqueued, unmonitored, uncommitted⟩ := tracked.dropping id member
    refine ⟨issued id known, fun queued => unqueued (entries id queued), ?_, exits ▸ uncommitted⟩
    intro monitored
    exact (monitors id monitored).elim unmonitored unqueued
  · intro id member
    rw [exits] at member
    obtain ⟨known, unqueued⟩ := tracked.exits id member
    exact ⟨issued id known, fun queued => unqueued (entries id queued)⟩
  · intro going id holds
    rw [dropping, exits]
    obtain ⟨before, stays⟩ := active going
    exact (tracked.kept before id (placed id holds)).imp_left (stays id)

/-- A caller moves to a phase in which it has the execution it had, or none. -/
theorem call (tracked : s.Tracked) (placed : ∀ id, caller'.phase.Holds id → s.Placed id) :
    (s.call i caller').Tracked :=
  tracked.frame (fun _ known => known) (fun _ queued => queued) (fun _ => .inl)
    (fun going => ⟨going, fun _ active => active⟩) rfl rfl
    fun id holds => holds.of_call.elim (placed id) fun before => before

/-- A section of the lane that keeps its entries and its active map. -/
theorem lane (tracked : s.Tracked) {run : LaneRun} (issued : ∀ id ∈ s.run.issued, id ∈ run.issued)
    (entries : run.lane.entries = s.run.lane.entries) (active : run.lane.active = s.run.lane.active)
    (monitors : run.monitors = s.run.monitors) : { s with run : Traffic }.Tracked := by
  refine tracked.frame issued ?_ ?_ ?_ rfl rfl fun _ placed => placed
  · intro id queued
    rw [← entries]
    exact queued
  · intro id monitored
    rw [← monitors]
    exact .inl monitored
  · intro going
    refine ⟨going, fun id before => ?_⟩
    change id ∈ run.lane.active
    rw [active]
    exact before

theorem post (tracked : s.Tracked) (notices : List Notice) : (s.post notices).Tracked where
  dropping := tracked.dropping
  exits := tracked.exits
  kept := tracked.kept

/-- What `remove_queued` takes out of the active map is about to be dropped. -/
theorem removeQueued (tracked : s.Tracked) (inv : LaneRun.Inv config s.run)
    (id : ExecutionId) : (s.removeQueued id).Tracked := by
  obtain ⟨-, entries, -⟩ := LaneRun.removeQueued_fields s.run.lane id
  have queued_of : ∀ a, a ∈ (s.removeQueued id).run.lane.entries →
      a ∈ s.run.lane.entries ∧ a ≠ id :=
    fun a queued => (entries a).1 queued
  have dropping : ∀ a, a ∈ (s.removeQueued id).dropping ↔
      a ∈ s.dropping ∨ a = id ∧ id ∈ s.run.lane.entries := by
    intro a
    by_cases queued : id ∈ s.run.lane.entries <;>
      simp [Traffic.removeQueued, Traffic.post, queued, or_comm]
  constructor
  · intro a member
    rcases (dropping a).1 member with earlier | ⟨rfl, queued⟩
    · obtain ⟨issued, unqueued, unmonitored, uncommitted⟩ := tracked.dropping a earlier
      exact ⟨issued, fun queued => unqueued (queued_of a queued).1, unmonitored, uncommitted⟩
    · refine ⟨inv.queued_issued queued, fun still => (queued_of a still).2 rfl, ?_, ?_⟩
      · intro monitored
        exact (inv.monitored a monitored).2 queued
      · intro committed
        exact (tracked.exits a committed).2 queued
  · intro a member
    obtain ⟨issued, unqueued⟩ := tracked.exits a member
    exact ⟨issued, fun queued => unqueued (queued_of a queued).1⟩
  · intro going a placed
    rcases tracked.kept going a placed with active | dropped | committed
    · by_cases queued : a ∈ s.run.lane.entries
      · by_cases same : a = id
        · exact .inr (.inl ((dropping a).2 (.inr ⟨same, same ▸ queued⟩)))
        · refine .inl ((inv.lane.removeQueued id).1.entries_active a ?_)
          exact (entries a).2 ⟨queued, same⟩
      · exact .inl (LaneState.mem_active_removeQueued active queued)
    · exact .inr (.inl ((dropping a).2 (.inl dropped)))
    · exact .inr (.inr committed)

/-- An exit is committed. -/
theorem commit (tracked : s.Tracked) (issued : id ∈ s.run.issued)
    (unqueued : id ∉ s.run.lane.entries) :
    { s with dropping := s.dropping.erase id, exits := insert id s.exits : Traffic }.Tracked where
  dropping a member := by
    obtain ⟨other, dropped⟩ := Finset.mem_erase.1 member
    obtain ⟨known, absent, unmonitored, uncommitted⟩ := tracked.dropping a dropped
    refine ⟨known, absent, unmonitored, fun committed => ?_⟩
    exact (Finset.mem_insert.1 committed).elim other uncommitted
  exits a member := by
    rcases Finset.mem_insert.1 member with rfl | earlier
    · exact ⟨issued, unqueued⟩
    · exact tracked.exits a earlier
  kept going a placed := by
    by_cases same : a = id
    · exact .inr (.inr (Finset.mem_insert.2 (.inl same)))
    · refine (tracked.kept going a placed).imp_right (Or.imp ?_ Finset.mem_insert_of_mem)
      exact Finset.mem_erase_of_ne_of_mem same

/-- A monitored execution commits: it was not about to be dropped. -/
theorem commit_monitored (tracked : s.Tracked) (inv : LaneRun.Inv config s.run)
    (monitored : id ∈ s.run.monitors) :
    { s with exits := insert id s.exits : Traffic }.Tracked := by
  obtain ⟨issued, unqueued⟩ := inv.monitored id monitored
  have undropped : id ∉ s.dropping := fun dropped => (tracked.dropping id dropped).2.2.1 monitored
  have committed := tracked.commit issued unqueued
  rw [Finset.erase_eq_of_notMem undropped] at committed
  exact committed

theorem take (tracked : s.Tracked) (inv : LaneRun.Inv config s.run)
    (phase : s.dispatcher = .watching) : (s.takeStartable config).Tracked := by
  have loop := inv.lane.takeStartable
  refine tracked.frame (fun _ known => known) ?_ ?_ ?_ rfl rfl fun _ placed => placed
  · intro id queued
    exact ((loop.entries id).1 queued).1
  · intro id monitored
    refine (Finset.mem_union.1 monitored).imp_right fun started => ?_
    exact loop.started id (List.mem_toFinset.1 started)
  · intro _
    refine ⟨by simp [phase], fun id active => ?_⟩
    change id ∈ (s.run.lane.takeStartable config).state.active
    rw [loop.active]
    exact active

/-- The entry of a fresh execution takes its place. -/
theorem place {lane : LaneState} (tracked : s.Tracked) (fresh : id ∉ s.run.issued)
    {ticket : Option Nat} {options : SpawnOptions}
    (ok : s.run.lane.insertPrepared config id options ticket = .ok lane) :
    ({ s with run := { s.run with issued := insert id s.run.issued, lane } }.call i
      (caller.moveTo (.registering id))).Tracked := by
  have fields := (LaneState.Inserted.of_ok ok).eq
  have older : ∀ {a}, a ∈ s.run.issued → a ∉ s.run.lane.entries → a ∉ lane.entries := by
    intro a known absent
    rw [fields, AList.mem_insert, not_or]
    exact ⟨fun same => fresh (same ▸ known), absent⟩
  constructor
  · intro a member
    obtain ⟨known, unqueued, rest⟩ := tracked.dropping a member
    exact ⟨Finset.mem_insert_of_mem known, older known unqueued, rest⟩
  · intro a member
    obtain ⟨known, unqueued⟩ := tracked.exits a member
    exact ⟨Finset.mem_insert_of_mem known, older known unqueued⟩
  · intro going a placed
    change a ∈ lane.active ∨ _
    rw [fields]
    rcases placed.of_call with holds | before
    · obtain rfl : id = a := by
        simpa [SpawnCall.moveTo, SpawnPhase.Holds, SpawnPhase.Answers] using holds
      exact .inl (Finset.mem_insert_self _ _)
    · exact (tracked.kept going a before).imp_left Finset.mem_insert_of_mem

/-- The monitor has waited for the exit. -/
theorem complete (tracked : s.Tracked) (inv : LaneRun.Inv config s.run) {run : LaneRun}
    (ran : s.run.step config (.executionFinished id) = some run) :
    ({ s with run, exits := insert id s.exits }.post [.workOne]).Tracked := by
  simp only [LaneRun.step] at ran
  split at ran
  case isFalse => cases ran
  rename_i monitored
  obtain rfl := Option.some.inj ran
  obtain ⟨active, entries, -, -⟩ := LaneRun.executionFinished_fields s.run.lane id
  have committed := tracked.commit_monitored inv monitored
  constructor
  · intro a member
    obtain ⟨known, unqueued, unmonitored, uncommitted⟩ := committed.dropping a member
    refine ⟨known, ?_, fun monitored => unmonitored (Finset.mem_of_mem_erase monitored),
      uncommitted⟩
    change a ∉ (s.run.lane.executionFinished id).1.entries
    rw [entries]
    exact unqueued
  · intro a member
    obtain ⟨known, unqueued⟩ := committed.exits a member
    refine ⟨known, ?_⟩
    change a ∉ (s.run.lane.executionFinished id).1.entries
    rw [entries]
    exact unqueued
  · intro going a placed
    change a ∈ (s.run.lane.executionFinished id).1.active ∨ _
    rw [active]
    by_cases same : a = id
    · exact .inr (.inr (Finset.mem_insert.2 (.inl same)))
    · exact (committed.kept going a placed).imp_left (Finset.mem_erase_of_ne_of_mem same)

/-- The dispatcher is gone, and the entries it had are dropped. -/
theorem stop (tracked : s.Tracked) (inv : LaneRun.Inv config s.run) : s.stop.Tracked where
  dropping a member := by
    refine ⟨?_, fun absurd => (by cases absurd), ?_⟩
    · rcases Finset.mem_union.1 member with earlier | queued
      · exact (tracked.dropping a earlier).1
      · exact inv.queued_issued (AList.mem_keys.2 (List.mem_toFinset.1 queued))
    · rcases Finset.mem_union.1 member with earlier | queued
      · exact (tracked.dropping a earlier).2.2
      · have member := AList.mem_keys.2 (List.mem_toFinset.1 queued)
        exact ⟨fun monitored => (inv.monitored a monitored).2 member,
          fun committed => (tracked.exits a committed).2 member⟩
  exits a member := ⟨(tracked.exits a member).1, fun absurd => by cases absurd⟩
  kept going := (going rfl).elim

/-- **Step lemma.** -/
theorem step (tracked : s.Tracked) (inv : LaneRun.Inv config s.run)
    (moved : Moved config s action s') : s'.Tracked := by
  have without : ∀ {caller' : SpawnCall}, (∀ id, ¬ caller'.phase.Holds id) →
      ∀ id, caller'.phase.Holds id → s.Placed id := fun never id holds => (never id holds).elim
  have refusal : ∀ {caller : SpawnCall} {error : SpawnError} (id : ExecutionId),
      ¬ (caller.moveTo (.leaving (some (.error error)))).phase.Holds id := by
    intro caller error id holds
    cases SpawnPhase.Holds.answered (.inl holds)
  cases moved with
  | submitted _ =>
    exact tracked.call (without (by simp [SpawnCall.enter, SpawnPhase.Holds, SpawnPhase.Answers]))
  | @looked i caller found phase =>
    have calling : ∀ id, ¬ (caller.moveTo .calling).phase.Holds id := by
      simp [SpawnCall.moveTo, SpawnPhase.Holds, SpawnPhase.Answers]
    unfold look
    split
    · exact tracked.call (without calling)
    · have moved := tracked.call (i := i) (without calling)
      exact ⟨moved.dropping, moved.exits, moved.kept⟩
  | refused _ _ _ => exact tracked.call (without (not_holds_refused _ _))
  | passed _ _ _ | woken _ _ _ _ =>
    exact tracked.call (without (by simp [SpawnCall.moveTo, SpawnPhase.Holds, SpawnPhase.Answers]))
  | unprepared _ _ | gaveUp _ _ => exact tracked.call (without refusal)
  | dropped _ _ =>
    exact tracked.call (without (by simp [SpawnCall.moveTo, SpawnPhase.Holds, SpawnPhase.Answers]))
  | @unplaced i caller id error found phase fresh refused =>
    have issued : { s with
        run := { s.run with issued := insert id s.run.issued } : Traffic }.Tracked :=
      tracked.lane (fun _ => Finset.mem_insert_of_mem) rfl rfl rfl
    exact issued.call fun a holds => (not_holds_refused _ _ a holds).elim
  | @placed i caller id lane found phase fresh ok => exact tracked.place fresh ok
  | @registered i caller id found phase =>
    refine (tracked.call fun a holds => ?_).post _
    obtain rfl : id = a := by
      simpa using SpawnPhase.Holds.answered (.inl holds)
    exact ⟨i, caller, found, .inl phase⟩
  | @unregistered i caller id resource found phase =>
    exact (tracked.removeQueued inv id).call fun a holds => (refusal a holds).elim
  | @unqueued i caller lane error found phase refused =>
    have only := LaneState.WaitingOnly.of_eq refused
    have same : { s with run := { s.run with lane } : Traffic }.Tracked :=
      tracked.lane (fun _ known => known) only.entries only.active rfl
    exact same.call fun a holds => (refusal a holds).elim
  | @queued i caller lane ticket found phase ok =>
    have only := LaneState.WaitingOnly.of_eq ok
    have same : { s with
        run := { s.run with
          lane, producers := insert ticket s.run.producers } : Traffic }.Tracked :=
      tracked.lane (fun _ known => known) only.entries only.active rfl
    have entering : ∀ id, ¬ { caller with ticket := some ticket, phase := .entering :
        SpawnCall }.phase.Holds id := by
      simp [SpawnPhase.Holds, SpawnPhase.Answers]
    have moved := same.call (i := i) fun a holds => (entering a holds).elim
    exact ⟨moved.dropping, moved.exits, moved.kept⟩
  | @ended i caller reply found phase without =>
    refine tracked.call fun a holds => ⟨i, caller, found, .inr (.inl ?_)⟩
    rw [phase, SpawnPhase.Holds.answered (.inr holds)]
  | @finished i caller reply ticket run found phase own ran =>
    have only : LaneState.WaitingOnly s.run.lane run.lane ∧ run.monitors = s.run.monitors ∧
        run.issued = s.run.issued := by
      simp only [LaneRun.step] at ran
      split at ran
      · obtain rfl := Option.some.inj ran
        exact ⟨@LaneState.WaitingOnly.finishWaitingProducer config s.run.lane ticket, rfl, rfl⟩
      · cases ran
    have same : { s with run : Traffic }.Tracked :=
      tracked.lane (fun _ known => only.2.2 ▸ known) only.1.entries only.1.active only.2.1
    refine (same.call fun a holds => ⟨i, caller, found, .inr (.inl ?_)⟩).post _
    rw [phase, SpawnPhase.Holds.answered (.inr holds)]
  | @sent notice _ => cases notice <;> exact ⟨tracked.dropping, tracked.exits, tracked.kept⟩
  | removed => exact tracked.removeQueued inv _
  | @discarded id member =>
    obtain ⟨issued, unqueued, -⟩ := tracked.dropping id member
    exact tracked.commit issued unqueued
  | committed monitored => exact tracked.commit_monitored inv monitored
  | completed ran => exact tracked.complete inv ran
  | closed => exact ⟨tracked.dropping, tracked.exits, tracked.kept⟩
  | shutDown => exact ⟨tracked.dropping, tracked.exits, tracked.kept⟩
  | took phase => exact tracked.take inv phase
  | watching phase | parked phase | resumed phase _ | launched phase =>
    exact ⟨tracked.dropping, tracked.exits, fun _ => tracked.kept (by simp [phase])⟩
  | stopped _ | lost _ => exact tracked.stop inv

theorem of_reaches {ok : Traffic → TrafficAction → Prop}
    (reached : (traffic config).Reaches ok (traffic config).init s) : s.Tracked := by
  induction reached with
  | refl => exact new
  | tail before _ step ih => exact ih.step (lane_inv before) (Moved.of_step step)

end Tracked

/-! ## The return of the dispatcher -/

/-- If the dispatcher, looking now, is to return, the lane is closing and every admitted
execution has its exit. -/
def ReturnsFinished (config : LaneConfig) (s : Traffic) : Prop :=
  ∀ t, s.step config .takeStartable = some t → t.dispatcher = .exiting →
    t.run.lane.closing = true ∧ ∀ id, t.Admitted id → id ∈ t.exits

/-- No admitted execution is between its removal from the queue and the drop of its start when
the dispatcher looks at a closing lane without active executions. -/
def StartsDropped (s : Traffic) : Prop :=
  s.dispatcher = .watching → s.run.lane.closing = true → s.run.lane.active = ∅ →
    ∀ id ∈ s.dropping, ¬ s.Admitted id

/-- The dispatcher returns from its look exactly on a closing lane without active executions. -/
theorem takeStartable_exiting (inv : LaneRun.Inv config s.run) :
    (s.takeStartable config).dispatcher = .exiting ↔
      s.run.lane.closing = true ∧ s.run.lane.active = ∅ := by
  have loop := inv.lane.takeStartable
  have exits : (s.run.lane.takeStartable config).state.shouldExit = true ↔
      s.run.lane.closing = true ∧ s.run.lane.active = ∅ := by
    rw [← loop.closing, ← loop.active]
    simp [LaneState.shouldExit]
  rw [← exits]
  change (if (s.run.lane.takeStartable config).state.shouldExit then DispatcherPhase.exiting
    else if (s.run.lane.takeStartable config).starts = [] then .idle else .launching) = _ ↔ _
  split
  · simp_all
  · split <;> simp_all

theorem returnsFinished_iff (tracked : s.Tracked) (inv : LaneRun.Inv config s.run) :
    s.ReturnsFinished config ↔ s.StartsDropped := by
  have ran : s.dispatcher = .watching →
      s.step config .takeStartable = some (s.takeStartable config) := by
    intro phase
    simp [Traffic.step, phase]
  constructor
  · intro returns phase closing empty id dropped admitted
    obtain ⟨-, finished⟩ :=
      returns _ (ran phase) ((takeStartable_exiting inv).2 ⟨closing, empty⟩)
    exact (tracked.dropping id dropped).2.2.2 (finished id admitted)
  · intro dropped t step exiting
    by_cases phase : s.dispatcher = .watching
    · obtain rfl := Option.some.inj ((ran phase).symm.trans step)
      obtain ⟨closing, empty⟩ := (takeStartable_exiting inv).1 exiting
      refine ⟨inv.lane.takeStartable.closing.trans closing, fun id admitted => ?_⟩
      have before : s.Admitted id := admitted
      rcases tracked.kept (by simp [phase]) id before.placed with active | dropping | committed
      · rw [empty] at active
        cases active
      · exact (dropped phase closing empty id dropping before).elim
      · exact committed
    · simp [Traffic.step] at step

end Traffic

/-- **The dispatcher never sleeps on work**, and what it returns from is finished exactly if no
admitted execution is still to be dropped by the call that took it out of the queue. -/
theorem never_sleeps_on_work {config : LaneConfig} {s : Traffic}
    (reached : (traffic config).Reachable s) :
    s.NeverSleepsOnWork config ∧ (s.ReturnsFinished config ↔ s.StartsDropped) :=
  ⟨.of_reachable reached,
    Traffic.returnsFinished_iff (.of_reaches reached) (Traffic.lane_inv reached)⟩

/-- The dispatcher looks at an empty queue, an execution is admitted before it parks, and
the permit of the admission wakes it at once; it starts the execution and parks. -/
def nearMiss : List TrafficAction :=
  [.watch, .takeStartable, .submit 0 {} false, .look 0, .check 0, .prepare 0 (.ok 100),
    .register 0 (.ok ()), .send .workOne, .park, .resume, .watch, .takeStartable, .send .readHead,
    .launched, .watch, .takeStartable, .park]

/-- The execution ends, the lane is closed, and the dispatcher is about to look. -/
def lastLook : List TrafficAction :=
  [.commit 100, .executionFinished 100, .requestClose, .send .workOne, .resume, .watch]

theorem never_sleeps_on_work_nearMiss :
    ∃ s, (traffic fourDeep).exec (traffic fourDeep).init (nearMiss ++ lastLook) = some s ∧
      s.Admitted 100 ∧ s.StartsDropped ∧ s.NeverSleepsOnWork fourDeep ∧
      ∃ t, s.step fourDeep .takeStartable = some t ∧ t.dispatcher = .exiting ∧ 100 ∈ t.exits := by
  have ends : ∃ s, (traffic fourDeep).exec (traffic fourDeep).init (nearMiss ++ lastLook) = some s ∧
      (∃ caller, s.callers 0 = some caller ∧ caller.phase = .leaving (some (.ok 100))) ∧
      s.dropping = ∅ ∧
      ∃ t, s.step fourDeep .takeStartable = some t ∧ t.dispatcher = .exiting ∧
        t.callers = s.callers :=
    ⟨_, rfl, ⟨_, rfl, rfl⟩, rfl, _, rfl, rfl, rfl⟩
  obtain ⟨s, run, ⟨caller, found, phase⟩, empty, t, step, exiting, same⟩ := ends
  have admitted : s.Admitted 100 := ⟨0, caller, found, .inl phase⟩
  have dropped : s.StartsDropped := by
    intro _ _ _ id member
    rw [empty] at member
    cases member
  obtain ⟨parks, returns⟩ := never_sleeps_on_work (System.Reaches.of_schedule _ run)
  have finished := (returns.2 dropped t step exiting).2
  refine ⟨s, run, admitted, dropped, parks, t, step, exiting, finished 100 ?_⟩
  unfold Traffic.Admitted
  rw [same]
  exact admitted

/-- A queued execution is cancelled: its entry is taken out, and before it is dropped the lane
is closed and the dispatcher looks. -/
def cancelledAtClose : List TrafficAction :=
  [.submit 0 {} false, .look 0, .check 0, .prepare 0 (.ok 100), .register 0 (.ok ()), .finish 0,
    .removeQueued 100, .requestClose, .watch]

/-- The dispatcher returns, and the admitted execution has no exit. -/
theorem dispatcher_returns_early :
    ∃ s, (traffic fourDeep).exec (traffic fourDeep).init cancelledAtClose = some s ∧
      s.Admitted 100 ∧ ∃ t, s.step fourDeep .takeStartable = some t ∧ t.dispatcher = .exiting ∧
        t.Admitted 100 ∧ 100 ∉ t.exits := by
  have ends : ∃ s, (traffic fourDeep).exec (traffic fourDeep).init cancelledAtClose = some s ∧
      (∃ caller, s.callers 0 = some caller ∧ caller.phase = .ended (some (.ok 100))) ∧
      ∃ t, s.step fourDeep .takeStartable = some t ∧ t.dispatcher = .exiting ∧
        (∃ caller, t.callers 0 = some caller ∧ caller.phase = .ended (some (.ok 100))) ∧
        t.exits = ∅ :=
    ⟨_, rfl, ⟨_, rfl, rfl⟩, _, rfl, rfl, ⟨_, rfl, rfl⟩, rfl⟩
  obtain ⟨s, run, ⟨caller, found, phase⟩, t, step, exiting, ⟨caller', found', phase'⟩,
    empty⟩ := ends
  refine ⟨s, run, ⟨0, caller, found, .inr phase⟩, t, step, exiting,
    ⟨0, caller', found', .inr phase'⟩, ?_⟩
  simp [empty]

end BusyBeaver
