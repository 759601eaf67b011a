import BusyBeaver.Traffic.Moves
import BusyBeaver.Lane.Order

/-!
# The dispatcher never sleeps on work

Between the check and the park of the dispatcher every section of the lane may run.  A
`Notified` that was created before the check notices a notification of all, and a single
notification leaves a permit; so whatever makes an entry startable, or the lane ready to
exit, is either still to be announced or will be found when the dispatcher polls.
-/

namespace BusyBeaver

open Transition Wakeup

namespace LaneState

variable {config : LaneConfig} {state after : LaneState}

/-- There is nothing for the dispatcher to do. -/
structure Settled (config : LaneConfig) (state : LaneState) : Prop where
  saturated : state.running = config.concurrency ∨
    ∀ id entry, state.entries.lookup id = some entry → state.blocked entry = true
  busy : ¬ (state.closing = true ∧ state.active = ∅)

theorem Settled.frame (settled : state.Settled config) (entries : after.entries = state.entries)
    (running : after.running = state.running)
    (keys : after.activeOrderingKeys = state.activeOrderingKeys)
    (active : after.active = state.active) (closing : after.closing = state.closing) :
    after.Settled config := by
  refine ⟨?_, ?_⟩
  · rw [running, entries]
    refine settled.saturated.imp_right fun blocked id entry found => ?_
    unfold LaneState.blocked
    rw [keys]
    exact blocked id entry found
  · rw [closing, active]
    exact settled.busy

theorem Settled.waitingOnly (settled : state.Settled config) (only : WaitingOnly state after) :
    after.Settled config :=
  settled.frame only.entries only.running only.activeOrderingKeys only.active only.closing

/-- When the loop of `take_startable` stops, the slots are taken or every entry is blocked. -/
theorem Inv.saturated (inv : Inv config state) (idle : dispatchOne config state = .idle) :
    state.running = config.concurrency ∨
      ∀ id entry, state.entries.lookup id = some entry → state.blocked entry = true := by
  by_cases room : state.running < config.concurrency
  · right
    intro id entry queued
    by_contra free
    rw [Bool.not_eq_true] at free
    obtain ⟨candidate, offered, -, -⟩ := inv.exists_candidate queued free
    rcases inv.dispatchOne_cases with _ | ⟨_, _, _, started, -⟩
    · unfold dispatchOne at idle
      rw [if_pos room] at idle
      cases selected : selectReadyCandidate state.dispatchCount state.readyCandidates with
      | none =>
        rw [selectReadyCandidate_eq_choose, Select.choose_eq_none] at selected
        rw [selected] at offered
        cases offered
      | some best =>
        obtain ⟨at_index, own, found, -⟩ :=
          mem_readyCandidates (mem_of_selectReadyCandidate selected)
        have fits : Checked.add Checked.usizeMax state.running 1 = some (state.running + 1) :=
          Checked.add_eq_some.2 ⟨Nat.le_trans room config.concurrency_le, rfl⟩
        simp [selected, fits, at_index, found] at idle
    · exact absurd (idle.symm.trans started) (by simp)
  · have most := inv.running_le
    exact .inl (by omega)

end LaneState

namespace Traffic

/-- The dispatcher is going to be notified: a notification is on its way, or a caller whose
entry is queued is about to make one. -/
def Called (s : Traffic) : Prop :=
  .workOne ∈ s.unsent ∨ .workAll ∈ s.unsent ∨
    ∃ i caller id, s.callers i = some caller ∧ caller.phase = .registering id ∧
      id ∈ s.run.lane.entries

structure Alert (config : LaneConfig) (s : Traffic) : Prop where
  running : s.dispatcher ≠ .stopped → ∀ id ∈ s.run.monitors, id ∈ s.run.lane.active
  watches : s.dispatcher = .watching ∨ s.dispatcher = .idle → s.workChanged.Watches
  listens : s.dispatcher = .parked → s.workChanged.Listens
  idle : s.dispatcher = .idle →
    s.workChanged.Roused ∨ s.Called ∨ s.run.lane.Settled config
  parked : s.dispatcher = .parked →
    s.workChanged.ready = true ∨ s.Called ∨ s.run.lane.Settled config
  exiting : s.dispatcher = .exiting →
    s.run.lane.closing = true ∧ s.run.lane.active = ∅

variable {config : LaneConfig} {s s' : Traffic} {action : TrafficAction} {i : Nat}
variable {caller caller' : SpawnCall}

/-- A caller that was not registering moves. -/
theorem Called.call (called : s.Called) (found : s.callers i = some caller)
    (other : ∀ id, caller.phase ≠ .registering id) : (s.call i caller').Called := by
  rcases called with one | all | ⟨j, holder, id, at_j, phase, queued⟩
  · exact .inl one
  · exact .inr (.inl all)
  · refine .inr (.inr ⟨j, holder, id, (Pool.set_of_ne ?_).trans at_j, phase, queued⟩)
    rintro rfl
    obtain rfl : caller = holder := Option.some.inj (found.symm.trans at_j)
    exact other id phase

namespace Alert

theorem new (config : LaneConfig) : Traffic.new.Alert config where
  running := by intro _ id absurd; cases absurd
  watches := by intro absurd; rcases absurd with absurd | absurd <;> cases absurd
  listens := by intro absurd; cases absurd
  idle := by intro absurd; cases absurd
  parked := by intro absurd; cases absurd
  exiting := by intro absurd; cases absurd

/-- Another party moves: what the dispatcher has to know, it is going to be told. -/
theorem frame (alert : s.Alert config) (dispatcher : s'.dispatcher = s.dispatcher)
    (work : s'.workChanged = s.workChanged)
    (running : (∀ id ∈ s.run.monitors, id ∈ s.run.lane.active) →
      ∀ id ∈ s'.run.monitors, id ∈ s'.run.lane.active)
    (called : s.Called → s'.Called)
    (settled : s.run.lane.Settled config → s'.Called ∨ s'.run.lane.Settled config)
    (exiting : s.run.lane.closing = true ∧ s.run.lane.active = ∅ →
      s'.run.lane.closing = true ∧ s'.run.lane.active = ∅) : s'.Alert config := by
  constructor
  · intro going
    rw [dispatcher] at going
    exact running (alert.running going)
  · rw [dispatcher, work]
    exact alert.watches
  · rw [dispatcher, work]
    exact alert.listens
  · intro phase
    rw [dispatcher] at phase
    rw [work]
    rcases alert.idle phase with roused | before | nothing
    · exact .inl roused
    · exact .inr (.inl (called before))
    · exact .inr (settled nothing)
  · intro phase
    rw [dispatcher] at phase
    rw [work]
    rcases alert.parked phase with ready | before | nothing
    · exact .inl ready
    · exact .inr (.inl (called before))
    · exact .inr (settled nothing)
  · intro phase
    rw [dispatcher] at phase
    exact exiting (alert.exiting phase)

/-- A section that announces itself to the dispatcher. -/
theorem announced (alert : s.Alert config) (dispatcher : s'.dispatcher = s.dispatcher)
    (work : s'.workChanged = s.workChanged)
    (running : (∀ id ∈ s.run.monitors, id ∈ s.run.lane.active) →
      ∀ id ∈ s'.run.monitors, id ∈ s'.run.lane.active)
    (called : s'.Called)
    (exiting : s.run.lane.closing = true ∧ s.run.lane.active = ∅ →
      s'.run.lane.closing = true ∧ s'.run.lane.active = ∅) : s'.Alert config :=
  alert.frame dispatcher work running (fun _ => called) (fun _ => .inl called) exiting

theorem call (alert : s.Alert config) (found : s.callers i = some caller)
    (other : ∀ id, caller.phase ≠ .registering id) : (s.call i caller').Alert config :=
  alert.frame rfl rfl (fun before => before) (fun called => called.call found other) .inr
    fun before => before

/-- A section of a waiting producer. -/
theorem waitingOnly (alert : s.Alert config) {run : LaneRun}
    (only : LaneState.WaitingOnly s.run.lane run.lane) (monitors : run.monitors = s.run.monitors) :
    { s with run : Traffic }.Alert config := by
  refine alert.frame rfl rfl ?_ ?_ (fun settled => .inr (settled.waitingOnly only)) ?_
  · intro before id member
    change id ∈ run.monitors at member
    change id ∈ run.lane.active
    rw [monitors] at member
    rw [only.active]
    exact before id member
  · rintro (one | all | ⟨j, holder, id, at_j, phase, queued⟩)
    · exact .inl one
    · exact .inr (.inl all)
    · refine .inr (.inr ⟨j, holder, id, at_j, phase, ?_⟩)
      change id ∈ run.lane.entries
      rw [only.entries]
      exact queued
  · change _ → run.lane.closing = true ∧ run.lane.active = ∅
    rw [only.closing, only.active]
    exact fun before => before

/-- More notifications are posted. -/
theorem post (alert : s.Alert config) (notices : List Notice) :
    (s.post notices).Alert config := by
  refine alert.frame rfl rfl (fun before => before) ?_ .inr fun before => before
  rintro (one | all | registering)
  · exact .inl (List.mem_append_left _ one)
  · exact .inr (.inl (List.mem_append_left _ all))
  · exact .inr (.inr registering)

/-- `remove_queued` announces what it removed. -/
theorem removeQueued (alert : s.Alert config) (inv : LaneRun.Inv config s.run)
    (id : ExecutionId) : (s.removeQueued id).Alert config := by
  by_cases queued : id ∈ s.run.lane.entries
  · have called : (s.removeQueued id).Called := by
      refine .inl (List.mem_append_right _ ?_)
      simp [queued]
    refine alert.announced rfl rfl ?_ called ?_
    · intro before a member
      have unqueued := (inv.monitored a member).2
      exact LaneState.mem_active_removeQueued (before a member) unqueued
    · intro before
      have active := inv.lane.entries_active id queued
      rw [before.2] at active
      cases active
  · have same := LaneState.removeQueued_of_notMem queued
    have lane : (s.removeQueued id).run.lane = s.run.lane := by
      simp [Traffic.removeQueued, LaneRun.removeQueued, same, Traffic.post]
    have unsent : (s.removeQueued id).unsent = s.unsent := by
      simp [Traffic.removeQueued, queued, Traffic.post]
    have called : s.Called → (s.removeQueued id).Called := by
      unfold Called
      rw [lane, unsent]
      exact fun before => before
    refine alert.frame rfl rfl ?_ called ?_ ?_
    · rw [lane]
      exact fun before => before
    · rw [lane]
      exact .inr
    · rw [lane]
      exact fun before => before

theorem take (alert : s.Alert config) (inv : LaneRun.Inv config s.run)
    (phase : s.dispatcher = .watching) : (s.takeStartable config).Alert config := by
  have loop := inv.lane.takeStartable
  have watches := alert.watches (.inl phase)
  let taken := s.run.lane.takeStartable config
  have exits : taken.state.shouldExit = true ↔
      taken.state.closing = true ∧ taken.state.active = ∅ := by
    simp [LaneState.shouldExit]
  have next : (s.takeStartable config).dispatcher =
      if taken.state.shouldExit then .exiting
      else if taken.starts = [] then .idle else .launching := rfl
  refine Alert.post (s := { s with
    run := s.run.takeStartable config
    dispatcher := (s.takeStartable config).dispatcher }) ?_ _
  constructor
  · intro _ id member
    change id ∈ taken.state.active
    rw [loop.active]
    rcases Finset.mem_union.1 member with earlier | new
    · exact alert.running (by simp [phase]) id earlier
    · exact inv.lane.entries_active id (loop.started id (List.mem_toFinset.1 new))
  · intro _
    exact watches
  · intro absurd
    simp only [next] at absurd
    split at absurd
    · cases absurd
    · split at absurd <;> cases absurd
  · intro idle
    refine .inr (.inr ⟨loop.inv.saturated inv.lane.takeStartable_idle, fun leave => ?_⟩)
    simp only [next, exits.2 leave, if_true] at idle
    cases idle
  · intro absurd
    simp only [next] at absurd
    split at absurd
    · cases absurd
    · split at absurd <;> cases absurd
  · intro exiting
    simp only [next] at exiting
    split at exiting
    · rename_i leave
      exact exits.1 leave
    · split at exiting <;> cases exiting

/-- A notification reaches the future of the dispatcher, or leaves a permit for it. -/
theorem send (alert : s.Alert config) (notice : Notice) :
    ({ s with unsent := s.unsent.erase notice }.send notice).Alert config := by
  have kept : ∀ {other : Notice}, other ≠ notice → other ∈ s.unsent →
      other ∈ s.unsent.erase notice := by
    intro other apart member
    exact (List.mem_erase_of_ne apart).2 member
  cases notice with
  | workOne =>
    constructor
    · exact alert.running
    · intro phase
      exact (alert.watches phase).notifyOne.1
    · intro phase
      exact (alert.listens phase).notifyOne.1
    · intro phase
      exact .inl (alert.watches (.inr phase)).notifyOne.2
    · intro phase
      exact .inl (alert.listens phase).notifyOne.2
    · exact alert.exiting
  | workAll =>
    constructor
    · exact alert.running
    · intro phase
      exact (alert.watches phase).notifyWaiters.1
    · intro phase
      exact (alert.listens phase).notifyWaiters.1
    · intro phase
      exact .inl (alert.watches (.inr phase)).notifyWaiters.2
    · intro phase
      exact .inl (alert.listens phase).notifyWaiters.2
    · exact alert.exiting
  | signal ticket =>
    refine alert.frame rfl rfl (fun before => before) ?_ .inr fun before => before
    rintro (one | all | registering)
    · exact .inl (kept nofun one)
    · exact .inr (.inl (kept nofun all))
    · exact .inr (.inr registering)
  | readHead | readAll =>
    refine Alert.post ?_ _
    refine alert.frame rfl rfl (fun before => before) ?_ .inr fun before => before
    rintro (one | all | registering)
    · exact .inl (kept nofun one)
    · exact .inr (.inl (kept nofun all))
    · exact .inr (.inr registering)

/-- The dispatcher is gone, and owes nothing. -/
theorem stop (s : Traffic) : s.stop.Alert config where
  running := by intro going; exact (going rfl).elim
  watches := by intro absurd; rcases absurd with absurd | absurd <;> cases absurd
  listens := by intro absurd; cases absurd
  idle := by intro absurd; cases absurd
  parked := by intro absurd; cases absurd
  exiting := by intro absurd; cases absurd

/-- **Step lemma.** -/
theorem step (alert : s.Alert config) (inv : LaneRun.Inv config s.run)
    (moved : Moved config s action s') : s'.Alert config := by
  cases moved with
  | @submitted i options waits fresh =>
    refine alert.frame rfl rfl (fun before => before) ?_ .inr fun before => before
    rintro (one | all | ⟨j, holder, id, at_j, phase, queued⟩)
    · exact .inl one
    · exact .inr (.inl all)
    · refine .inr (.inr ⟨j, holder, id, (Pool.set_of_ne ?_).trans at_j, phase, queued⟩)
      rintro rfl
      exact absurd (fresh.symm.trans at_j) (by simp)
  | @looked i caller found phase =>
    unfold look
    split
    · exact alert.call found (by simp [phase])
    · rename_i ticket own
      have same : { s with
          signals := Function.update s.signals ticket (s.signals ticket).create.enable
          : Traffic }.Alert config :=
        alert.frame rfl rfl (fun before => before) (fun called => called) .inr fun before => before
      exact same.call found (by simp [phase])
  | refused found phase _ => exact alert.call found (by simp [phase])
  | passed found phase _ => exact alert.call found (by simp [phase])
  | unprepared found phase => exact alert.call found (by simp [phase])
  | @unplaced i caller id error found phase fresh refused =>
    have issued : { s with
        run := { s.run with issued := insert id s.run.issued } : Traffic }.Alert config :=
      alert.frame rfl rfl (fun before => before) (fun called => called) .inr fun before => before
    exact issued.call found (by simp [phase])
  | @placed i caller id lane found phase fresh ok =>
    have inserted := LaneState.Inserted.of_ok ok
    have fields := inserted.eq
    obtain ⟨-, opened, -⟩ := LaneState.not_closing_of_admissionError inserted.admitted
    refine alert.announced rfl rfl ?_ ?_ ?_
    · intro before a member
      change a ∈ lane.active
      rw [fields]
      exact Finset.mem_insert_of_mem (before a member)
    · refine .inr (.inr ⟨i, _, id, Pool.set_self, rfl, ?_⟩)
      change id ∈ lane.entries
      rw [fields]
      exact (AList.mem_insert s.run.lane.entries).2 (.inl rfl)
    · intro before
      exact absurd (opened.symm.trans before.1) (by simp)
  | registered found phase =>
    refine alert.announced rfl rfl (fun before => before) (.inl ?_) fun before => before
    exact List.mem_append_right _ (List.mem_singleton_self _)
  | @unregistered i caller id resource found phase =>
    have removed := alert.removeQueued inv id
    refine removed.frame rfl rfl (fun before => before) ?_ .inr fun before => before
    rintro (one | all | ⟨j, holder, other, at_j, at_, queued⟩)
    · exact .inl one
    · exact .inr (.inl all)
    · refine .inr (.inr ⟨j, holder, other, (Pool.set_of_ne ?_).trans at_j, at_, queued⟩)
      rintro rfl
      obtain rfl : caller = holder := Option.some.inj (found.symm.trans at_j)
      obtain rfl : id = other := SpawnPhase.registering.inj (phase.symm.trans at_)
      exact (((LaneRun.removeQueued_fields s.run.lane id).2.1 id).1 queued).2 rfl
  | @unqueued i caller lane error found phase refused =>
    have waited : { s with run := { s.run with lane } : Traffic }.Alert config :=
      alert.waitingOnly (LaneState.WaitingOnly.of_eq refused) rfl
    exact waited.call found (by simp [phase])
  | @queued i caller lane ticket found phase ok =>
    have waited : { s with
        run := { s.run with lane, producers := insert ticket s.run.producers } : Traffic }.Alert
          config :=
      alert.waitingOnly (LaneState.WaitingOnly.of_eq ok) rfl
    have signalled : { s with
        run := { s.run with lane, producers := insert ticket s.run.producers }
        signals := Function.update s.signals ticket .new : Traffic }.Alert config :=
      waited.frame rfl rfl (fun before => before) (fun called => called) .inr fun before => before
    exact signalled.call found (by simp [phase])
  | woken found phase _ _ => exact alert.call found (by simp [phase])
  | gaveUp found phase =>
    refine alert.call found fun id at_ => ?_
    rcases phase with phase | phase | phase | phase <;> cases phase.symm.trans at_
  | dropped found phase => exact alert.call found (by simp [phase])
  | ended found phase _ => exact alert.call found (by simp [phase])
  | @finished i caller reply ticket run found phase own ran =>
    have section_ : LaneState.WaitingOnly s.run.lane run.lane ∧ run.monitors = s.run.monitors := by
      simp only [LaneRun.step] at ran
      split at ran
      · obtain rfl := Option.some.inj ran
        exact ⟨@LaneState.WaitingOnly.finishWaitingProducer config s.run.lane ticket, rfl⟩
      · cases ran
    have waited := alert.waitingOnly section_.1 section_.2
    exact (waited.call found (by simp [phase])).post _
  | sent _ => exact alert.send _
  | removed => exact alert.removeQueued inv _
  | @completed id run ran =>
    simp only [LaneRun.step] at ran
    split at ran
    · obtain rfl := Option.some.inj ran
      obtain ⟨active, -, -, closing⟩ := LaneRun.executionFinished_fields s.run.lane id
      refine alert.announced rfl rfl ?_ (.inl (List.mem_append_right _ (by simp))) ?_
      · intro before a member
        change a ∈ (s.run.lane.executionFinished id).1.active
        rw [active]
        exact Finset.mem_erase.2 ⟨Finset.ne_of_mem_erase member,
          before a (Finset.mem_of_mem_erase member)⟩
      · intro before
        change (s.run.lane.executionFinished id).1.closing = true ∧
          (s.run.lane.executionFinished id).1.active = ∅
        rw [active, closing, before.2]
        exact ⟨before.1, rfl⟩
    · cases ran
  | closed =>
    refine alert.announced rfl rfl (fun before => before)
      (.inr (.inl (List.mem_append_right _ (by simp)))) fun before => ⟨rfl, before.2⟩
  | discarded _ | committed _ | shutDown =>
    exact alert.frame rfl rfl (fun before => before) (fun called => called) .inr
      fun before => before
  | watching phase =>
    refine ⟨fun _ => alert.running (by simp [phase]), fun _ => .create _, ?_, ?_, ?_, ?_⟩ <;>
      (intro absurd; cases absurd)
  | took phase => exact alert.take inv phase
  | parked phase =>
    have watches := alert.watches (.inr phase)
    refine ⟨fun _ => alert.running (by simp [phase]), ?_, fun _ => .of_enable watches, ?_, ?_, ?_⟩
    · intro absurd
      rcases absurd with absurd | absurd <;> cases absurd
    · intro absurd
      cases absurd
    · intro _
      exact (alert.idle phase).imp_left fun roused => roused.ready_enable watches
    · intro absurd
      cases absurd
  | resumed phase _ | launched phase =>
    refine ⟨fun _ => alert.running (by simp [phase]), ?_, ?_, ?_, ?_, ?_⟩
    · intro absurd
      rcases absurd with absurd | absurd <;> cases absurd
    all_goals
      intro absurd
      cases absurd
  | stopped | lost => exact .stop s

theorem of_reaches {ok : Traffic → TrafficAction → Prop}
    (reached : (traffic config).Reaches ok (traffic config).init s) : s.Alert config := by
  induction reached with
  | refl => exact new config
  | tail before _ step ih => exact ih.step (lane_inv before) (Moved.of_step step)

end Alert

/-- Nobody is about to notify the dispatcher. -/
structure Resting (s : Traffic) : Prop where
  one : .workOne ∉ s.unsent
  all : .workAll ∉ s.unsent
  callers : ∀ i caller id, s.callers i = some caller → caller.phase ≠ .registering id

theorem Resting.not_called (resting : s.Resting) : ¬ s.Called := by
  rintro (one | all | ⟨i, caller, id, found, phase, -⟩)
  · exact resting.one one
  · exact resting.all all
  · exact resting.callers i caller id found phase

/-- What the dispatcher of a lane keeps to in every state: it is parked only when nothing is
left to start, and returns from a closing lane that has nothing queued and nothing running. -/
structure NeverSleepsOnWork (config : LaneConfig) (s : Traffic) : Prop where
  parked : s.dispatcher = .parked → s.workChanged.ready = false → s.Resting →
    (s.run.lane.running = config.concurrency ∨
      ∀ id entry, s.run.lane.entries.lookup id = some entry →
        ∃ key, entry.options.orderingKey = some key ∧ key ∈ s.run.lane.activeOrderingKeys) ∧
      ¬ (s.run.lane.closing = true ∧ s.run.lane.active = ∅)
  returns : s.dispatcher = .exiting → s.run.lane.closing = true ∧
    ∀ id, id ∉ s.run.lane.active ∧ id ∉ s.run.lane.entries ∧ id ∉ s.run.monitors

theorem NeverSleepsOnWork.of_reachable (reached : (traffic config).Reachable s) :
    s.NeverSleepsOnWork config := by
  have alert := Alert.of_reaches reached
  have inv := lane_inv reached
  constructor
  case parked =>
    intro phase asleep resting
    rcases alert.parked phase with ready | called | settled
    · exact absurd (asleep.symm.trans ready) (by simp)
    · exact (resting.not_called called).elim
    · refine ⟨settled.saturated.imp_right fun blocked id entry found => ?_, settled.busy⟩
      have held := blocked id entry found
      unfold LaneState.blocked at held
      cases own : entry.options.orderingKey with
      | none => simp [own] at held
      | some key => exact ⟨key, rfl, by simpa [own] using held⟩
  case returns =>
    intro phase
    obtain ⟨closing, empty⟩ := alert.exiting phase
    have inactive : ∀ id, id ∉ s.run.lane.active := by simp [empty]
    refine ⟨closing, fun id => ⟨inactive id, fun queued => ?_, fun monitored => ?_⟩⟩
    · exact inactive id (inv.lane.entries_active id queued)
    · exact inactive id (alert.running (by simp [phase]) id monitored)

end Traffic

end BusyBeaver
