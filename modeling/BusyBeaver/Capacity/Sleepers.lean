import BusyBeaver.Capacity.State
import BusyBeaver.Slot.Existing

/-!
# Who sleeps while there is room

A place that becomes free is announced to one waiter, or to all.  `Covered` is the
accounting of it: while a current supervisor sleeps on an open lane without waiting
producers, every free place has a single notification on its way or taken and not used,
unless a notification of all is still to come.

The count drops where a supervisor that took a single notification leaves the loop
without an admission.  That is the step a run has to avoid while others sleep.
-/

namespace BusyBeaver

open Transition Wakeup

/-! ## What a slot step does to the supervisors -/

namespace SlotRun

variable {run run' : SlotRun} {action : SlotAction} {t : Nat}

def phase (run : SlotRun) (t : Nat) : Option SupervisorPhase :=
  (run.supervisors t).map Supervisor.phase

/-- The supervisor that takes the step. -/
def mover : SlotAction → Option Nat
  | .start t | .waited t | .attempt t _ | .wake t | .publish t | .deliver t | .clear t
  | .lose t => some t
  | _ => none

theorem phase_move {transaction : Nat} {supervisor : Supervisor} :
    (run.move transaction supervisor).phase t =
      if t = transaction then some supervisor.phase else run.phase t := by
  by_cases own : t = transaction
  · subst own
    simp [phase, move]
  · simp [phase, move, own]

/-- A supervisor stays, keeps its revision, and once superseded stays superseded. -/
theorem Moved.superseded (history : run.History) (moved : Moved run action run')
    {supervisor : Supervisor} (found : run.supervisors t = some supervisor) :
    ∃ supervisor', run'.supervisors t = some supervisor' ∧
      supervisor'.revision = supervisor.revision ∧
      (run.slot.superseded t supervisor.revision = true →
        run'.slot.superseded t supervisor.revision = true) := by
  have moves : ∀ {r : SlotRun} {transaction : Nat} {old next : Supervisor},
      r.supervisors = run.supervisors → run.supervisors transaction = some old →
      next.revision = old.revision →
      (run.slot.superseded t supervisor.revision = true →
        r.slot.superseded t supervisor.revision = true) →
      ∃ supervisor', (r.move transaction next).supervisors t = some supervisor' ∧
        supervisor'.revision = supervisor.revision ∧
        (run.slot.superseded t supervisor.revision = true →
          (r.move transaction next).slot.superseded t supervisor.revision = true) := by
    intro r transaction old next same at_ revision monotone
    by_cases own : t = transaction
    · subst own
      obtain rfl : supervisor = old := Option.some.inj (found.symm.trans at_)
      exact ⟨next, Pool.set_self, revision, monotone⟩
    · refine ⟨supervisor, ?_, rfl, monotone⟩
      rw [← found, ← same]
      exact Pool.set_of_ne own
  cases moved with
  | refused => exact ⟨supervisor, found, rfl, fun before => before⟩
  | accepted accepts =>
    have below := history.bounded t supervisor found
    have other : t ≠ run.slot.transaction + 1 := by omega
    refine ⟨supervisor, (Pool.set_of_ne other).trans found, rfl, fun _ => ?_⟩
    have apart : run.slot.transaction + 1 ≠ t := other.symm
    simp [move, SlotState.superseded, apart]
  | awaiting at_ _ _ | ready at_ _ _ | waited at_ _ _ | overtaken at_ _ _ | admitted at_ _ _ _
  | full at_ _ _ | failed at_ _ _ _ | woken at_ _ | withdrawn at_ _ _ | published at_ _ _
  | delivered at_ _ | lost at_ _ => exact moves rfl at_ rfl fun before => before
  | @cleared transaction _ executionId at_ _ _ =>
    refine moves rfl at_ rfl fun before => ?_
    rcases run.slot.clear_cases transaction executionId with ⟨_, _, eq⟩ | eq
    · rw [eq]
      exact before
    · rw [eq]
      exact before
  | finished _ | cancelled => exact ⟨supervisor, found, rfl, fun before => before⟩
  | closed =>
    refine ⟨supervisor, found, rfl, fun _ => ?_⟩
    have closed := run.slot.close_fields.1
    simp [cancel, SlotState.superseded, closed]

/-- Who does not take the step keeps its phase, if it has one. -/
theorem Moved.phase_other (history : run.History) (moved : Moved run action run')
    (apart : mover action ≠ some t) :
    run'.phase t = run.phase t ∨ (run.phase t = none ∧ run'.phase t = some .spawned) := by
  have other : ∀ {u : Nat}, mover action = some u → t ≠ u := by
    intro u moves own
    exact apart (own ▸ moves)
  cases moved with
  | accepted accepts =>
    by_cases own : t = run.slot.transaction + 1
    · right
      constructor
      · cases found : run.supervisors t with
        | none => simp [phase, found]
        | some supervisor =>
          have below := history.bounded t supervisor found
          omega
      · rw [phase_move, if_pos own]
        rfl
    · left
      rw [phase_move, if_neg own]
      rfl
  | refused | finished _ | cancelled | closed => exact .inl rfl
  | awaiting | ready | waited | overtaken | admitted | full | failed | woken | withdrawn
  | published | delivered | cleared | lost =>
    exact .inl (phase_move.trans (if_neg (other rfl)))

/-- The steps outside the loop begin and end outside it, or lead into it. -/
theorem Moved.phase_own (moved : Moved run action run') (own : mover action = some t)
    (outside : action.ofLoop = false) :
    run.phase t ≠ some .trying ∧ run.phase t ≠ some .parked ∧ run'.phase t ≠ some .parked := by
  cases moved with
  | refused | accepted | finished | cancelled | closed => cases own
  | overtaken | admitted | full | failed | woken | lost => cases outside
  | awaiting found at_ | ready found at_ | waited found at_ | withdrawn found at_
  | published found at_ | cleared found at_ =>
    obtain rfl := Option.some.inj own
    simp [phase, found, at_, move, Supervisor.moveTo, Supervisor.answer]
  | delivered found at_ =>
    obtain rfl := Option.some.inj own
    simp [phase, found, at_, deliver, move, Supervisor.answer]

/-- A step that does not take the slot mutex changes nothing the check looks at. -/
theorem Moved.unlocked (moved : Moved run action run') (free : action.locks = false)
    (other : ∀ t result, action ≠ .attempt t result) (t : Nat) :
    run'.slot = run.slot ∧
      (run'.supervisors t).map Supervisor.revision =
        (run.supervisors t).map Supervisor.revision := by
  have moves : ∀ {transaction : Nat} {old next : Supervisor},
      run.supervisors transaction = some old → next.revision = old.revision →
      (run.supervisors.set transaction next t).map Supervisor.revision =
        (run.supervisors t).map Supervisor.revision := by
    intro transaction old next found revision
    by_cases own : t = transaction
    · subst own
      simp [found, revision]
    · rw [Pool.set_of_ne own]
  cases moved with
  | refused | accepted | withdrawn | published | cleared | cancelled | closed => cases free
  | overtaken | admitted | full | failed => exact (other _ _ rfl).elim
  | awaiting found | ready found | waited found | woken found | delivered found | lost found =>
    exact ⟨rfl, moves found rfl⟩
  | finished => exact ⟨rfl, rfl⟩

end SlotRun

/-! ## What a lane section leaves free -/

namespace LaneRun

variable {config : LaneConfig} {run run' : LaneRun} {action : LaneAction}

/-- A section that ends with room and no waiting producer on an open lane announces it
to all, or to one for each place it freed itself. -/
theorem Inv.room (inv : run.Inv config) (step : run.step config action = some run')
    (opened : run'.lane.closing = false) (nobody : run'.lane.waitingQueue = ∅)
    (room : run'.lane.entries.size < config.capacity) :
    run.lane.closing = false ∧
      (0 < (run.notifies config action).2 ∨
        run.lane.waitingQueue = ∅ ∧
        run.lane.entries.size ≤ run'.lane.entries.size + (run.notifies config action).1) := by
  cases action with
  | insertPrepared id options ticket =>
    simp only [LaneRun.step] at step
    split at step
    · cases step
    next fresh =>
    split at step
    · cases step
      exact ⟨opened, .inr ⟨nobody, Nat.le_add_right _ _⟩⟩
    next lane ok =>
    cases step
    have inserted := LaneState.Inserted.of_ok ok
    rw [inserted.eq] at opened nobody
    have unqueued : id ∉ run.lane.entries := fun queued => fresh (inv.queued_issued queued)
    have grown : lane.entries.size = run.lane.entries.size + 1 := by
      rw [inserted.eq]
      exact AssocMap.size_insert _ unqueued
    refine ⟨opened, .inr ⟨nobody, ?_⟩⟩
    simp only [grown]
    omega
  | removeQueued id =>
    cases step
    simp only [LaneRun.removeQueued, LaneState.removeQueued] at opened nobody ⊢
    cases found : run.lane.entries.lookup id with
    | none =>
      rw [found] at opened nobody
      exact ⟨opened, .inr ⟨nobody, Nat.le_add_right _ _⟩⟩
    | some entry =>
      rw [found] at opened nobody
      have queued := AssocMap.mem_of_lookup found
      have shrunk := AssocMap.size_erase queued
      refine ⟨opened, .inr ⟨nobody, ?_⟩⟩
      simp only [notifies, queued, if_true]
      omega
  | takeStartable =>
    cases step
    have loop := inv.lane.takeStartable
    refine ⟨loop.closing.symm.trans opened, ?_⟩
    by_cases none_taken : (run.lane.takeStartable config).starts = []
    · right
      refine ⟨loop.waitingQueue.symm.trans nobody, ?_⟩
      have before := inv.lane.queue.length
      have after := loop.inv.queue.length
      have total := loop.length
      rw [none_taken] at total
      simp only [List.length_nil, LaneRun.takeStartable] at total ⊢
      omega
    · left
      simp [notifies, none_taken]
  | executionFinished id =>
    simp only [LaneRun.step] at step
    split at step
    · cases step
      obtain ⟨_, entries, waiting, closing⟩ := executionFinished_fields run.lane id
      refine ⟨closing.symm.trans opened, .inr ⟨waiting.symm.trans nobody, ?_⟩⟩
      simp only [entries]
      exact Nat.le_add_right _ _
    · cases step
  | requestClose =>
    cases step
    cases opened
  | dispatcherStopped =>
    cases step
    cases opened
  | newWaitingProducer =>
    simp only [LaneRun.step] at step
    rcases LaneState.newWaitingProducer_cases config run.lane with ⟨_, _, eq, _⟩ | ⟨_, eq⟩
    · rw [eq] at step
      cases step
      exact ⟨opened, .inr ⟨nobody, Nat.le_add_right _ _⟩⟩
    · rw [eq] at step
      cases step
      simp at nobody
  | finishWaitingProducer ticket =>
    simp only [LaneRun.step] at step
    split at step
    · next live =>
      cases step
      rw [inv.producers] at live
      refine ⟨opened, .inl ?_⟩
      have last : run.lane.waitingQueue.erase ticket = ∅ := nobody
      have front : firstWaiter run.lane.waitingQueue = some ticket := by
        refine firstWaiter_eq_some.2 ⟨live, fun other member => ?_⟩
        by_contra before
        have member : other ∈ run.lane.waitingQueue.erase ticket :=
          Finset.mem_erase.2 ⟨by omega, member⟩
        rw [last] at member
        cases member
      have free : run.lane.entries.size < config.capacity := room
      simp [notifies, LaneState.finishWaitingProducer, live, last, front, free]
    · cases step
  | stats =>
    cases step
    exact ⟨opened, .inr ⟨nobody, Nat.le_add_right _ _⟩⟩

end LaneRun

/-! ## The accounting -/

/-- The phase a supervisor has in its slot, by its place in the loop. -/
def Turn.Placed (turn : Turn) (phase : Option SupervisorPhase) : Prop :=
  match turn.place with
  | .outside => phase ≠ some .parked
  | .parked => phase = some .parked
  | _ => phase = some .trying

namespace SharedLane

variable {config : LaneConfig} {s s' : SharedLane} {action : SharedAction} {w v : Waiter}

def phase (s : SharedLane) (waiter : Waiter) : Option SupervisorPhase :=
  (s.slots waiter.1).phase waiter.2

/-- The transaction of the supervisor is still the one its slot would admit. -/
def newest (s : SharedLane) (waiter : Waiter) : Bool :=
  (s.supervisor waiter).any fun supervisor =>
    !(s.slots waiter.1).slot.superseded waiter.2 supervisor.revision

/-- Parked, with a transaction that is still the current one. -/
def asleep (s : SharedLane) (waiter : Waiter) : Bool :=
  decide ((s.turns waiter).place = .parked) && s.newest waiter

/-- Some current supervisor sleeps and was not notified. -/
def Sleeper (s : SharedLane) : Prop := ∃ v ∈ s.capacityChanged.waiting, s.asleep v = true

/-- The single notifications to come, on their way, and taken but not used. -/
def credits (s : SharedLane) : Nat := s.pendingOne + s.capacityChanged.ones + s.held.card

/-- Free places are announced while somebody sleeps. -/
def Covered (config : LaneConfig) (s : SharedLane) : Prop :=
  s.shuttingDown = false → s.run.lane.closing = false → s.run.lane.waitingQueue = ∅ →
    s.Sleeper → 0 < s.pendingAll ∨ config.capacity ≤ s.run.lane.entries.size + s.credits

/-- The wake-up the waiter took is not missed by another: the lane is closing, a producer
waits, every free place is announced by another single notification, all are about to be
notified, or no other current supervisor sleeps. -/
def Spares (config : LaneConfig) (s : SharedLane) (waiter : Waiter) : Prop :=
  s.shuttingDown = true ∨ s.run.lane.closing = true ∨ s.run.lane.waitingQueue ≠ ∅ ∨
    config.capacity < s.run.lane.entries.size + s.credits ∨ 0 < s.pendingAll ∨
    ∀ v ∈ s.capacityChanged.waiting, v ≠ waiter → s.asleep v = false

instance (config : LaneConfig) (s : SharedLane) (waiter : Waiter) :
    Decidable (s.Spares config waiter) := by
  unfold Spares
  infer_instance

/-- Who holds the mutex of its slot holds it alone, and is not superseded meanwhile. -/
def Mutex (s : SharedLane) : Prop :=
  ∀ w, (s.turns w).place.locks = true →
    w.1 ∈ s.locked ∧ s.superseded w = false ∧
      ∀ v, (s.turns v).place.locks = true → v.1 = w.1 → v = w

/-- Nobody else holds the mutex of the waiter's slot. -/
def Alone (s : SharedLane) (w : Waiter) : Prop :=
  ∀ v, v ≠ w → (s.turns v).place.locks = true → v.1 ≠ w.1

structure Inv (config : LaneConfig) (s : SharedLane) : Prop where
  lane : (laneSystem config).Reachable s.run
  slots : ∀ k, slotSystem.Reachable (s.slots k)
  placed : ∀ w, (s.turns w).Placed (s.phase w)
  once : s.capacityChanged.keys.Nodup
  registered : ∀ w, w ∈ s.capacityChanged.keys ↔
    (s.turns w).place ≠ .outside ∧ (s.turns w).ready = false
  held : ∀ w ∈ s.held, s.phase w = some .trying
  spent : ∀ w, (s.turns w).place.inserted = true → w ∉ s.held
  mutex : s.Mutex
  covered : s.Covered config

theorem Inv.new (config : LaneConfig) : SharedLane.new.Inv config where
  lane := .refl
  slots _ := .refl
  placed w := by
    intro absurd
    cases absurd
  once := List.nodup_nil
  registered w := by simp [SharedLane.new, Notify.new, Notify.keys, Turn.away]
  held w absurd := by cases absurd
  spent w absurd := by cases absurd
  mutex w absurd := by cases absurd
  covered _ _ _ sleeper := by
    obtain ⟨v, absurd, _⟩ := sleeper
    cases absurd

/-- Nothing a notification is owed for changes, and no credit is lost. -/
theorem Covered.of_credits (covered : s.Covered config)
    (shut : s'.shuttingDown = s.shuttingDown) (run : s'.run = s.run)
    (pending : s'.pendingAll = s.pendingAll) (credits : s.credits ≤ s'.credits)
    (sleeper : s'.Sleeper → s.Sleeper) : s'.Covered config := by
  intro opened lane nobody sleeps
  rw [shut] at opened
  rw [run] at lane nobody ⊢
  rw [pending]
  rcases covered opened lane nobody (sleeper sleeps) with all | full
  · exact .inl all
  · exact .inr (by omega)

/-- Nobody is asleep. -/
theorem Covered.of_awake (awake : s.capacityChanged.waiting = []) : s.Covered config := by
  intro _ _ _ sleeps
  obtain ⟨v, member, _⟩ := sleeps
  rw [awake] at member
  cases member

/-! ### Sections of the lane -/

theorem Inv.of_lane (inv : s.Inv config) {action : LaneAction} {run : LaneRun}
    (step : s.run.step config action = some run) :
    { s with
      run
      pendingOne := s.pendingOne + (s.run.notifies config action).1
      pendingAll := s.pendingAll + (s.run.notifies config action).2 : SharedLane }.Inv
      config where
  lane := inv.lane.tail trivial step
  slots := inv.slots
  placed := inv.placed
  once := inv.once
  registered := inv.registered
  held := inv.held
  spent := inv.spent
  mutex := inv.mutex
  covered := by
    intro opened lane nobody sleeps
    have accounting := LaneRun.Inv.of_reachable inv.lane
    by_cases full : config.capacity ≤ run.lane.entries.size
    · exact .inr (full.trans (Nat.le_add_right _ _))
    obtain ⟨before, all | ⟨empty, size⟩⟩ :=
      accounting.room step lane nobody (Nat.lt_of_not_le full)
    · exact .inl (Nat.lt_of_lt_of_le all (Nat.le_add_left _ _))
    · rcases inv.covered opened before empty sleeps with all | enough
      · exact .inl (Nat.lt_of_lt_of_le all (Nat.le_add_right _ _))
      · right
        unfold credits at enough ⊢
        simp only
        omega

/-! ### Steps of a slot -/

theorem phase_inSlot_of_ne {k : Nat} {action : SlotAction} (other : w.1 ≠ k)
    (step : s.inSlot k action = some s') : s'.phase w = s.phase w := by
  obtain ⟨next, _, rfl⟩ := Option.map_eq_some_iff.1 step
  simp [phase, Function.update_of_ne other]

/-- A step of slot `k`, as a step of its own run. -/
theorem inSlot_cases {k : Nat} {action : SlotAction} (step : s.inSlot k action = some s') :
    ∃ next, (s.slots k).step action = some next ∧
      s' = { s with slots := Function.update s.slots k next } := by
  obtain ⟨next, taken, rfl⟩ := Option.map_eq_some_iff.1 step
  exact ⟨next, taken, rfl⟩

theorem Inv.slots_inSlot (inv : s.Inv config) {k : Nat} {action : SlotAction}
    (step : s.inSlot k action = some s') (j : Nat) : slotSystem.Reachable (s'.slots j) := by
  obtain ⟨next, taken, rfl⟩ := inSlot_cases step
  by_cases own : j = k
  · subst own
    simp only [Function.update_self]
    exact (inv.slots j).tail trivial taken
  · simp only [Function.update_of_ne own]
    exact inv.slots j

theorem superseded_inSlot_of_ne {k : Nat} {action : SlotAction} (other : w.1 ≠ k)
    (step : s.inSlot k action = some s') : s'.superseded w = s.superseded w := by
  obtain ⟨next, _, rfl⟩ := inSlot_cases step
  simp [superseded, supervisor, Function.update_of_ne other]

/-- A step that does not take the slot mutex supersedes nobody. -/
theorem superseded_inSlot_of_free {k : Nat} {action : SlotAction} (free : action.locks = false)
    (apart : ∀ t result, action ≠ .attempt t result) (step : s.inSlot k action = some s') :
    s'.superseded w = s.superseded w := by
  by_cases own : w.1 = k
  · obtain ⟨next, taken, rfl⟩ := inSlot_cases step
    subst own
    obtain ⟨slot, revision⟩ := (SlotRun.Moved.of_step taken).unlocked free apart w.2
    have read : ∀ (o : Option Supervisor),
        (o.any fun supervisor => (s.slots w.1).slot.superseded w.2 supervisor.revision) =
          (o.map Supervisor.revision).any fun r => (s.slots w.1).slot.superseded w.2 r := by
      intro o
      cases o <;> rfl
    simp only [superseded, supervisor, Function.update_self, slot]
    rw [read, read, revision]
  · exact superseded_inSlot_of_ne own step

/-- A slot step makes nobody current who was not. -/
theorem Inv.newest_inSlot (inv : s.Inv config) {k : Nat} {action : SlotAction}
    (step : s.inSlot k action = some s') (present : s.phase v ≠ none)
    (newest : s'.newest v = true) : s.newest v = true := by
  obtain ⟨next, taken, rfl⟩ := inSlot_cases step
  by_cases own : v.1 = k
  · subst own
    have history := SlotRun.History.of_reachable (inv.slots v.1)
    cases found : (s.slots v.1).supervisors v.2 with
    | none => exact (present (by simp [phase, SlotRun.phase, found])).elim
    | some supervisor =>
      obtain ⟨supervisor', found', revision, monotone⟩ :=
        (SlotRun.Moved.of_step taken).superseded history found
      simp only [SharedLane.newest, SharedLane.supervisor, Function.update_self, found',
        Option.any_some, revision, Bool.not_eq_true'] at newest
      simp only [SharedLane.newest, SharedLane.supervisor, found, Option.any_some,
        Bool.not_eq_true']
      by_contra superseded
      rw [Bool.not_eq_false] at superseded
      rw [monotone superseded] at newest
      cases newest
  · simpa only [SharedLane.newest, SharedLane.supervisor, Function.update_of_ne own] using newest

/-- Who sleeps after a slot step slept before it. -/
theorem Inv.asleep_inSlot (inv : s.Inv config) {k : Nat} {action : SlotAction}
    (step : s.inSlot k action = some s') (asleep : s'.asleep v = true) : s.asleep v = true := by
  obtain ⟨next, taken, rfl⟩ := inSlot_cases step
  simp only [SharedLane.asleep, Bool.and_eq_true, decide_eq_true_eq] at asleep ⊢
  obtain ⟨parked, newest⟩ := asleep
  have placed := inv.placed v
  rw [Turn.Placed, parked] at placed
  exact ⟨parked, inv.newest_inSlot step (by simp [placed]) newest⟩

/-- Another supervisor than the one that steps keeps its place. -/
theorem Inv.placed_inSlot (inv : s.Inv config) {k : Nat} {action : SlotAction}
    (step : s.inSlot k action = some s') (other : SlotRun.mover action ≠ some w.2 ∨ w.1 ≠ k) :
    (s.turns w).Placed (s'.phase w) ∧
      (s.phase w = some .trying → s'.phase w = some .trying) := by
  by_cases own : w.1 = k
  · obtain ⟨next, taken, rfl⟩ := inSlot_cases step
    subst own
    have history := SlotRun.History.of_reachable (inv.slots w.1)
    have apart := other.resolve_right (fun ne => ne rfl)
    have placed := inv.placed w
    rcases (SlotRun.Moved.of_step taken).phase_other history apart with same | ⟨absent, spawned⟩
    · have kept : SharedLane.phase { s with slots := Function.update s.slots w.1 next } w =
          s.phase w := by
        simpa [phase] using same
      rw [kept]
      exact ⟨placed, fun trying => trying⟩
    · have before : s.phase w = none := absent
      have after : SharedLane.phase { s with slots := Function.update s.slots w.1 next } w =
          some .spawned := by
        simpa [phase] using spawned
      rw [before, after]
      rw [before] at placed
      refine ⟨?_, fun absurd => by cases absurd⟩
      unfold Turn.Placed at placed ⊢
      cases place : (s.turns w).place <;> simp_all
  · rw [phase_inSlot_of_ne own step]
    exact ⟨inv.placed w, fun trying => trying⟩

/-- A step of a slot outside the loop. -/
theorem Inv.of_slot (inv : s.Inv config) {k : Nat} {action : SlotAction}
    (outside : action.ofLoop = false) (free : action.locks = true → k ∉ s.locked)
    (step : s.inSlot k action = some s') : s'.Inv config := by
  have mutex : s'.Mutex := by
    intro w locks
    have same : s'.turns = s.turns ∧ s'.locked = s.locked := by
      obtain ⟨next, _, rfl⟩ := inSlot_cases step
      exact ⟨rfl, rfl⟩
    rw [same.1] at locks ⊢
    rw [same.2]
    obtain ⟨member, current, alone⟩ := inv.mutex w locks
    refine ⟨member, ?_, alone⟩
    cases takes : action.locks with
    | true =>
      have other : w.1 ≠ k := fun own => free takes (own ▸ member)
      rw [superseded_inSlot_of_ne other step, current]
    | false =>
      have apart : ∀ t result, action ≠ .attempt t result := by
        rintro t result rfl
        cases outside
      rw [superseded_inSlot_of_free takes apart step, current]
  have moves : ∀ w, (s.turns w).Placed (s'.phase w) ∧
      (s.phase w = some .trying → s'.phase w = some .trying) := by
    intro w
    by_cases own : SlotRun.mover action = some w.2 ∧ w.1 = k
    · obtain ⟨mover, rfl⟩ := own
      obtain ⟨next, taken, rfl⟩ := inSlot_cases step
      obtain ⟨not_trying, not_parked, after⟩ :=
        (SlotRun.Moved.of_step taken).phase_own mover outside
      have placed := inv.placed w
      refine ⟨?_, fun trying => (not_trying trying).elim⟩
      have away : (s.turns w).place = .outside := by
        unfold Turn.Placed at placed
        cases place : (s.turns w).place with
        | outside => rfl
        | parked =>
          rw [place] at placed
          exact (not_parked placed).elim
        | enabled | preparing | registering | withdrawing =>
          rw [place] at placed
          exact (not_trying placed).elim
      unfold Turn.Placed
      rw [away]
      simpa [phase] using after
    · refine inv.placed_inSlot step ?_
      by_cases mover : SlotRun.mover action = some w.2
      · exact .inr fun same => own ⟨mover, same⟩
      · exact .inl mover
  have slots := inv.slots_inSlot step
  have sleepers : s'.Sleeper → s.Sleeper := by
    intro ⟨v, member, sleeps⟩
    obtain ⟨next, taken, rfl⟩ := inSlot_cases step
    exact ⟨v, member, inv.asleep_inSlot step sleeps⟩
  obtain ⟨next, taken, rfl⟩ := inSlot_cases step
  exact {
    lane := inv.lane
    slots := slots
    placed := fun w => (moves w).1
    once := inv.once
    registered := inv.registered
    held := fun w member => (moves w).2 (inv.held w member)
    spent := inv.spent
    mutex := mutex
    covered := inv.covered.of_credits rfl rfl rfl (le_refl _) sleepers }

/-! ### Steps of the loop -/

/-- A supervisor takes a step of the loop in its slot, and its turn, the cell and the
ghosts follow. -/
theorem Inv.of_turn (inv : s.Inv config) {action : SlotAction} (turn : Turn)
    (capacityChanged : Notify Waiter) (held : Finset Waiter) (locked : Finset Nat)
    (step : s.inSlot w.1 action = some s') (mover : SlotRun.mover action = some w.2)
    (placed : turn.Placed (s'.phase w))
    (once : capacityChanged.keys.Nodup)
    (others : ∀ v, v ≠ w → (v ∈ capacityChanged.keys ↔ v ∈ s.capacityChanged.keys))
    (own : w ∈ capacityChanged.keys ↔ turn.place ≠ .outside ∧ turn.ready = false)
    (users : ∀ v ∈ held, (v ∈ s.held ∧ v ≠ w) ∨ (v = w ∧ s'.phase w = some .trying))
    (released : turn.place.locks = false)
    (holders : ∀ v, v ≠ w → (s.turns v).place.locks = true →
      v.1 ∈ locked ∧ s'.superseded v = false)
    (covered : { s'.turn w turn with capacityChanged, held, locked : SharedLane }.Covered config) :
    { s'.turn w turn with capacityChanged, held, locked : SharedLane }.Inv config := by
  have slots := inv.slots_inSlot step
  have moves : ∀ v, v ≠ w → (s.turns v).Placed (s'.phase v) ∧
      (s.phase v = some .trying → s'.phase v = some .trying) := by
    intro v other
    refine inv.placed_inSlot step ?_
    by_cases same : v.1 = w.1
    · left
      rw [mover]
      intro eq
      exact other (Prod.ext same (Option.some.inj eq).symm)
    · exact .inr same
  obtain ⟨next, taken, rfl⟩ := inSlot_cases step
  constructor
  · exact inv.lane
  · exact slots
  · intro v
    by_cases same : v = w
    · subst same
      simpa [SharedLane.turn, phase] using placed
    · simpa [SharedLane.turn, same, phase] using (moves v same).1
  · exact once
  · intro v
    by_cases same : v = w
    · subst same
      simpa [SharedLane.turn] using own
    · simpa [SharedLane.turn, same, others v same] using inv.registered v
  · intro v member
    rcases users v member with ⟨before, other⟩ | ⟨rfl, trying⟩
    · exact (moves v other).2 (inv.held v before)
    · exact trying
  · intro v inserted member
    by_cases same : v = w
    · subst same
      simp only [SharedLane.turn, Function.update_self] at inserted
      revert inserted released
      cases turn.place <;> simp [Place.inserted, Place.locks]
    · simp only [SharedLane.turn, Function.update_of_ne same] at inserted
      rcases users v member with ⟨before, _⟩ | ⟨own, _⟩
      · exact inv.spent v inserted before
      · exact same own
  · have holder : ∀ {v : Waiter}, (Function.update s.turns w turn v).place.locks = true →
        v ≠ w ∧ (s.turns v).place.locks = true := by
      intro v locks
      by_cases same : v = w
      · subst same
        rw [Function.update_self, released] at locks
        cases locks
      · rw [Function.update_of_ne same] at locks
        exact ⟨same, locks⟩
    intro v locks
    obtain ⟨other, locks⟩ := holder locks
    obtain ⟨member, current⟩ := holders v other locks
    exact ⟨member, current, fun u locks' => (inv.mutex v locks).2.2 u (holder locks').2⟩
  · exact covered

/-- Who sleeps after the turn of `w` changed to another place than parked slept before. -/
theorem Inv.asleep_of_turn (inv : s.Inv config) {action : SlotAction} {turn : Turn}
    (step : s.inSlot w.1 action = some s') (awake : turn.place ≠ .parked)
    (sleeps : (s'.turn w turn).asleep v = true) : v ≠ w ∧ s.asleep v = true := by
  by_cases same : v = w
  · subst same
    simp [asleep, SharedLane.turn, awake] at sleeps
  · refine ⟨same, inv.asleep_inSlot step ?_⟩
    simpa [asleep, SharedLane.turn, same, SharedLane.newest, SharedLane.supervisor] using sleeps

/-- What an attempt leaves of its supervisor: parked only when the lane is full. -/
theorem phase_attempt {result : Except SpawnError ExecutionId}
    (step : s.inSlot w.1 (.attempt w.2 result) = some s') :
    (s'.phase w = some .parked → result = .error .queueFull) ∧
      (s.superseded w = false → result = .error .queueFull → s'.phase w = some .parked) := by
  obtain ⟨next, taken, rfl⟩ := inSlot_cases step
  have own : SharedLane.phase { s with slots := Function.update s.slots w.1 next } w =
      next.phase w.2 := by simp [phase]
  rw [own]
  cases SlotRun.Moved.of_step taken with
  | overtaken found phase superseded =>
    rw [SlotRun.phase_move, if_pos rfl]
    constructor
    · intro absurd
      cases absurd
    · intro current
      simp [SharedLane.superseded, supervisor, found, superseded] at current
  | admitted found phase _ _ =>
    rw [SlotRun.phase_move, if_pos rfl]
    constructor
    · intro absurd
      cases absurd
    · intro _ absurd
      cases absurd
  | full found phase _ =>
    rw [SlotRun.phase_move, if_pos rfl]
    exact ⟨fun _ => rfl, fun _ _ => rfl⟩
  | failed found phase _ other =>
    rw [SlotRun.phase_move, if_pos rfl]
    constructor
    · intro absurd
      cases absurd
    · intro _ same
      exact (other (Except.error.inj same)).elim

/-- When a waiter of a slot nobody else holds takes the mutex, the other holders stay. -/
theorem Inv.holders (inv : s.Inv config) (alone : s.Alone w) {action : SlotAction}
    (step : s.inSlot w.1 action = some s') (other : v ≠ w)
    (locks : (s.turns v).place.locks = true) :
    v.1 ∈ s.locked.erase w.1 ∧ s'.superseded v = false := by
  obtain ⟨member, current, _⟩ := inv.mutex v locks
  have apart := alone v other locks
  exact ⟨Finset.mem_erase.2 ⟨apart, member⟩, (superseded_inSlot_of_ne apart step).trans current⟩

/-- A step that does not take the mutex leaves its holders. -/
theorem Inv.holders_free (inv : s.Inv config) {k : Nat} {action : SlotAction}
    (free : action.locks = false) (apart : ∀ t result, action ≠ .attempt t result)
    (step : s.inSlot k action = some s') (locks : (s.turns v).place.locks = true) :
    v.1 ∈ s.locked ∧ s'.superseded v = false := by
  obtain ⟨member, current, _⟩ := inv.mutex v locks
  exact ⟨member, (superseded_inSlot_of_free free apart step).trans current⟩

theorem Inv.alone_of_unlocked (inv : s.Inv config) (unlocked : w.1 ∉ s.locked) : s.Alone w := by
  intro v _ locks same
  exact unlocked (same ▸ (inv.mutex v locks).1)

theorem Inv.alone_of_locks (inv : s.Inv config) (locks : (s.turns w).place.locks = true) :
    s.Alone w := by
  intro v other locks' same
  exact other ((inv.mutex w locks).2.2 v locks' same)

/-- No credit is lost when a waiter leaves, but the one it held itself. -/
theorem credits_leave (s : SharedLane) (w : Waiter) :
    (s.leave w).capacityChanged.waiting = [] ∨
      s.credits ≤ (s.leave w).credits + (if w ∈ s.held then 1 else 0) := by
  rcases s.capacityChanged.drop_ones w with awake | ones
  · exact .inl awake
  · right
    by_cases user : w ∈ s.held
    · have card := Finset.card_erase_add_one user
      simp only [credits, leave, user, if_true, SharedLane.turn, ones]
      omega
    · simp [credits, leave, user, SharedLane.turn, ones, Finset.erase_eq_of_notMem]

/-- The loop ends for a supervisor that spares the others. -/
theorem Inv.of_answer (inv : s.Inv config) {result : Except SpawnError ExecutionId}
    (alone : s.Alone w) (failed : result ≠ .error .queueFull)
    (spares : w ∈ s.held → s.Spares config w)
    (step : s.answer w result = some s') : s'.Inv config := by
  obtain ⟨mid, slotStep, rfl⟩ := Option.map_eq_some_iff.1 step
  have awake : ∀ {v}, (mid.leave w).asleep v = true → v ≠ w ∧ s.asleep v = true := by
    intro v sleeps
    exact inv.asleep_of_turn slotStep (by simp [Turn.away]) sleeps
  have placed : Turn.away.Placed (mid.phase w) :=
    fun parked => failed ((phase_attempt slotStep).1 parked)
  have holders := fun v => inv.holders (v := v) alone slotStep
  obtain ⟨next, taken, rfl⟩ := inSlot_cases slotStep
  refine inv.of_turn _ _ _ _ slotStep rfl placed ?_ ?_ ?_ ?_ rfl holders ?_
  · exact Notify.nodup_keys_drop inv.once w
  · intro v other
    exact (Notify.mem_keys_drop inv.once).trans (and_iff_right other)
  · simp [Notify.mem_keys_drop inv.once, Turn.away]
  · intro v member
    exact .inl ⟨Finset.mem_of_mem_erase member, Finset.ne_of_mem_erase member⟩
  · intro opened lane nobody sleeps
    obtain ⟨v, member, asleep⟩ := sleeps
    obtain ⟨other, slept⟩ := awake asleep
    have waited : v ∈ s.capacityChanged.waiting := Notify.mem_drop_waiting member
    rcases s.credits_leave w with empty | credits
    · exact absurd (empty ▸ member : v ∈ []) (List.not_mem_nil)
    by_cases user : w ∈ s.held
    · rw [if_pos user] at credits
      rcases spares user with shut | closing | waiter | announced | all | quiet
      · exact absurd (opened.symm.trans shut) (by simp)
      · exact absurd (lane.symm.trans closing) (by simp)
      · exact absurd nobody waiter
      · have enough : s.run.lane.entries.size + s.credits ≤
            s.run.lane.entries.size + ((s.leave w).credits + 1) :=
          Nat.add_le_add_left credits _
        exact .inr (Nat.le_of_lt_succ (announced.trans_le enough))
      · exact .inl all
      · exact absurd ((quiet v waited other).symm.trans slept) (by simp)
    · rw [if_neg user] at credits
      rcases inv.covered opened lane nobody ⟨v, waited, slept⟩ with all | enough
      · exact .inl all
      · right
        exact enough.trans (Nat.add_le_add_left credits _)

/-- The loop ends up waiting, on a full lane or behind a producer. -/
theorem Inv.of_park (inv : s.Inv config) (alone : s.Alone w)
    (inside : (s.turns w).place ≠ .outside) (current : s.superseded w = false)
    (full : config.capacity ≤ s.run.lane.entries.size ∨ s.run.lane.waitingQueue ≠ ∅)
    (step : s.park w = some s') : s'.Inv config := by
  obtain ⟨mid, slotStep, rfl⟩ := Option.map_eq_some_iff.1 step
  have parked : mid.phase w = some .parked := (phase_attempt slotStep).2 current rfl
  have holders := fun v => inv.holders (v := v) alone slotStep
  obtain ⟨next, taken, rfl⟩ := inSlot_cases slotStep
  refine inv.of_turn ⟨.parked, (s.turns w).ready⟩ _ _ _ slotStep rfl parked inv.once
    (fun v _ => Iff.rfl) ?_ ?_ rfl holders ?_
  · refine (inv.registered w).trans ?_
    simp [inside]
  · intro v member
    exact .inl ⟨Finset.mem_of_mem_erase member, Finset.ne_of_mem_erase member⟩
  · intro _ _ nobody _
    rcases full with full | waiter
    · exact .inr (full.trans (Nat.le_add_right _ _))
    · exact absurd nobody waiter

/-- Nobody falls asleep by a turn that is not parked. -/
theorem asleep_of_place (turn : Turn) (awake : turn.place ≠ .parked)
    (sleeps : (s.turn w turn).asleep v = true) : v ≠ w ∧ s.asleep v = true := by
  by_cases same : v = w
  · subst same
    simp [asleep, SharedLane.turn, awake] at sleeps
  · refine ⟨same, ?_⟩
    simpa [asleep, SharedLane.turn, same, SharedLane.newest, SharedLane.supervisor] using sleeps

/-- The loop goes on under the slot mutex. -/
theorem Inv.of_place (inv : s.Inv config) (place : Place) (locked : Finset Nat)
    (held : Finset Waiter) (inside : (s.turns w).place ≠ .outside)
    (trying : s.phase w = some .trying) (locks : place.locks = true) (alone : s.Alone w)
    (current : s.superseded w = false) (own : w.1 ∈ locked) (grown : s.locked ⊆ locked)
    (fewer : held ⊆ s.held) (spent : place.inserted = true → w ∉ held)
    (covered : { s.turn w ⟨place, (s.turns w).ready⟩ with
      locked, held : SharedLane }.Covered config) :
    { s.turn w ⟨place, (s.turns w).ready⟩ with locked, held : SharedLane }.Inv config := by
  have outside : place ≠ .outside := by
    rintro rfl
    cases locks
  have placed : (⟨place, (s.turns w).ready⟩ : Turn).Placed (s.phase w) := by
    unfold Turn.Placed
    cases place <;> first | exact trying | cases locks
  constructor
  · exact inv.lane
  · exact inv.slots
  · intro v
    by_cases same : v = w
    · subst same
      simpa [SharedLane.turn, phase] using placed
    · simpa [SharedLane.turn, same, phase] using inv.placed v
  · exact inv.once
  · intro v
    by_cases same : v = w
    · subst same
      simpa [SharedLane.turn, outside, inside] using inv.registered v
    · simpa [SharedLane.turn, same] using inv.registered v
  · exact fun v member => inv.held v (fewer member)
  · intro v inserted member
    by_cases same : v = w
    · subst same
      simp only [SharedLane.turn, Function.update_self] at inserted
      exact spent inserted member
    · simp only [SharedLane.turn, Function.update_of_ne same] at inserted
      exact inv.spent v inserted (fewer member)
  · intro v locks
    by_cases same : v = w
    · subst same
      refine ⟨own, current, fun u locks' same => ?_⟩
      by_contra other
      simp only [SharedLane.turn, Function.update_of_ne other] at locks'
      exact alone u other locks' same
    · simp only [SharedLane.turn, Function.update_of_ne same] at locks
      obtain ⟨member, current, single⟩ := inv.mutex v locks
      refine ⟨grown member, current, fun u locks' same' => ?_⟩
      by_cases eq : u = w
      · subst eq
        exact (alone v same locks same'.symm).elim
      · simp only [SharedLane.turn, Function.update_of_ne eq] at locks'
        exact single u locks' same'
  · exact covered

/-- A supervisor in the loop and not parked is trying. -/
theorem Inv.trying (inv : s.Inv config) (inside : (s.turns w).place ≠ .outside)
    (parked : (s.turns w).place ≠ .parked) : s.phase w = some .trying := by
  have placed := inv.placed w
  unfold Turn.Placed at placed
  cases place : (s.turns w).place <;> simp_all

/-- The entry of a supervisor is in the lane: the place it takes is the one it was woken
for. -/
theorem Inv.of_insert (inv : s.Inv config) {executionId : ExecutionId} {run : LaneRun}
    (locks : (s.turns w).place.locks = true) (trying : s.phase w = some .trying)
    (step : s.run.step config (.insertPrepared executionId {} none) = some run)
    (grown : run.lane.entries.size = s.run.lane.entries.size + 1)
    (closing : run.lane.closing = s.run.lane.closing)
    (waiting : run.lane.waitingQueue = s.run.lane.waitingQueue) :
    { s.turn w ⟨.registering executionId, (s.turns w).ready⟩ with
      run
      held := s.held.erase w : SharedLane }.Inv config := by
  obtain ⟨member, current, _⟩ := inv.mutex w locks
  have inside : (s.turns w).place ≠ .outside := by
    intro outside
    rw [outside] at locks
    cases locks
  refine (inv.of_lane step).of_place (w := w) (.registering executionId) s.locked
    (s.held.erase w) inside trying rfl (inv.alone_of_locks locks) current member
    (Finset.Subset.refl _) (Finset.erase_subset _ _) (fun _ => Finset.notMem_erase _ _) ?_
  intro opened lane nobody sleeps
  have slept : s.Sleeper := by
    obtain ⟨v, member, asleep⟩ := sleeps
    exact ⟨v, member, (asleep_of_place ⟨.registering executionId, _⟩ (by simp) asleep).2⟩
  rcases inv.covered opened (closing ▸ lane) (waiting ▸ nobody) slept with all | enough
  · exact .inl all
  · right
    have card := Finset.pred_card_le_card_erase (a := w) (s := s.held)
    simp only [credits, SharedLane.turn, grown, LaneRun.notifies] at enough ⊢
    omega

/-- A single notification is made: it is on its way, or nobody is asleep. -/
theorem Inv.notifyOne (inv : s.Inv config) (pending : 0 < s.pendingOne) :
    { s with
      capacityChanged := s.capacityChanged.notifyOne
      pendingOne := s.pendingOne - 1 : SharedLane }.Inv config where
  lane := inv.lane
  slots := inv.slots
  placed := inv.placed
  once := s.capacityChanged.keys_notifyOne.nodup_iff.2 inv.once
  registered w := s.capacityChanged.keys_notifyOne.mem_iff.trans (inv.registered w)
  held := inv.held
  spent := inv.spent
  mutex := inv.mutex
  covered := by
    rcases s.capacityChanged.notifyOne_ones with ⟨awake, _⟩ | raised
    · exact .of_awake awake
    · refine inv.covered.of_credits rfl rfl rfl ?_ ?_
      · simp only [credits, raised]
        omega
      · intro ⟨v, member, sleeps⟩
        exact ⟨v, Notify.mem_notifyOne_waiting member, sleeps⟩

theorem Inv.notifyWaiters (inv : s.Inv config) :
    { s with
      capacityChanged := s.capacityChanged.notifyWaiters
      pendingAll := s.pendingAll - 1 : SharedLane }.Inv config where
  lane := inv.lane
  slots := inv.slots
  placed := inv.placed
  once := s.capacityChanged.keys_notifyWaiters.nodup_iff.2 inv.once
  registered w := s.capacityChanged.keys_notifyWaiters.mem_iff.trans (inv.registered w)
  held := inv.held
  spent := inv.spent
  mutex := inv.mutex
  covered := .of_awake s.capacityChanged.notifyWaiters_waiting

/-- A supervisor enables a `Notified` of its own. -/
theorem Inv.enable (inv : s.Inv config) (outside : (s.turns w).place = .outside)
    (trying : s.phase w = some .trying) : (s.enable w).Inv config := by
  have absent : w ∉ s.capacityChanged.keys := by
    intro member
    exact ((inv.registered w).1 member).1 outside
  have keys := s.capacityChanged.keys_enable w
  constructor
  · exact inv.lane
  · exact inv.slots
  · intro v
    by_cases same : v = w
    · subst same
      simpa [SharedLane.enable, SharedLane.turn, Turn.Placed, phase] using trying
    · simpa [SharedLane.enable, SharedLane.turn, same, phase] using inv.placed v
  · rcases keys with ⟨_, eq⟩ | ⟨_, perm⟩
    · exact eq ▸ inv.once
    · exact perm.nodup_iff.2 (List.nodup_cons.2 ⟨absent, inv.once⟩)
  · intro v
    have before := inv.registered v
    by_cases same : v = w
    · subst same
      rcases keys with ⟨ready, eq⟩ | ⟨waits, perm⟩
      · simp [SharedLane.enable, SharedLane.turn, ready, eq, absent]
      · simp [SharedLane.enable, SharedLane.turn, waits, perm.mem_iff]
    · rcases keys with ⟨_, eq⟩ | ⟨_, perm⟩
      · simpa [SharedLane.enable, SharedLane.turn, same, eq] using before
      · simpa [SharedLane.enable, SharedLane.turn, same, perm.mem_iff] using before
  · exact inv.held
  · intro v inserted
    by_cases same : v = w
    · subst same
      simp [SharedLane.enable, SharedLane.turn, Place.inserted] at inserted
    · refine inv.spent v ?_
      simpa [SharedLane.enable, SharedLane.turn, same] using inserted
  · have holder : ∀ {v : Waiter}, ((s.enable w).turns v).place.locks = true →
        (s.turns v).place.locks = true := by
      intro v locks
      by_cases same : v = w
      · subst same
        simp [SharedLane.enable, SharedLane.turn, Place.locks] at locks
      · simpa [SharedLane.enable, SharedLane.turn, same] using locks
    intro v locks
    obtain ⟨member, current, single⟩ := inv.mutex v (holder locks)
    exact ⟨member, current, fun u locks' => single u (holder locks')⟩
  · refine inv.covered.of_credits rfl rfl rfl ?_ ?_
    · simp [credits, SharedLane.enable, SharedLane.turn]
    · intro ⟨v, member, sleeps⟩
      obtain ⟨other, slept⟩ := asleep_of_place ⟨.enabled, _⟩ (by simp) sleeps
      exact ⟨v, (Notify.mem_enable_waiting member).resolve_right other, slept⟩

/-- A supervisor that is woken or lost was not trying, and is not parked any more. -/
theorem phase_unpark {action : SlotAction}
    (step : s.inSlot w.1 action = some s')
    (unparks : action = .wake w.2 ∨ action = .lose w.2) :
    s.phase w ≠ some .trying ∧ s'.phase w ≠ some .parked ∧
      (action = .wake w.2 → s'.phase w = some .trying) := by
  obtain ⟨next, taken, rfl⟩ := inSlot_cases step
  have own : SharedLane.phase { s with slots := Function.update s.slots w.1 next } w =
      next.phase w.2 := by simp [phase]
  rw [own]
  have moved := SlotRun.Moved.of_step taken
  rcases unparks with rfl | rfl
  · cases moved with
    | woken found at_ =>
      rw [SlotRun.phase_move, if_pos rfl]
      exact ⟨by simp [phase, SlotRun.phase, found, at_], by simp [Supervisor.moveTo],
        fun _ => rfl⟩
  · cases moved with
    | lost found suspended =>
      rw [SlotRun.phase_move, if_pos rfl]
      refine ⟨?_, by simp [Supervisor.moveTo], fun absurd => by cases absurd⟩
      intro trying
      simp only [phase, SlotRun.phase, found, Option.map_some, Option.some.injEq] at trying
      rw [trying] at suspended
      cases suspended

/-- The await of a parked supervisor returns; a single notification stays accounted for
by the supervisor that took it. -/
theorem Inv.await (inv : s.Inv config) (parked : (s.turns w).place = .parked)
    (step : s.await w = some s') : s'.Inv config := by
  have unheld : w ∉ s.held := by
    intro member
    have placed := inv.placed w
    rw [Turn.Placed, parked, inv.held w member] at placed
    cases placed
  unfold SharedLane.await at step
  split at step
  · next ready =>
    obtain ⟨mid, slotStep, rfl⟩ := Option.map_eq_some_iff.1 step
    obtain ⟨_, unparked, _⟩ := phase_unpark slotStep (.inl rfl)
    have awake : ∀ {v}, (mid.turn w .away).asleep v = true → v ≠ w ∧ s.asleep v = true :=
      fun sleeps => inv.asleep_of_turn slotStep (by simp [Turn.away]) sleeps
    have holders := fun v => inv.holders_free (v := v) rfl (by simp) slotStep
    obtain ⟨next, taken, rfl⟩ := inSlot_cases slotStep
    refine inv.of_turn _ s.capacityChanged s.held s.locked slotStep rfl unparked inv.once
      (fun v _ => Iff.rfl) ?_ ?_ rfl (fun v _ => holders v) ?_
    · refine (inv.registered w).trans ?_
      simp [ready, Turn.away]
    · intro v member
      refine .inl ⟨member, ?_⟩
      rintro rfl
      exact unheld member
    · refine inv.covered.of_credits rfl rfl rfl (le_refl _) ?_
      intro ⟨v, member, sleeps⟩
      exact ⟨v, member, (awake sleeps).2⟩
  · split at step
    · cases step
    · next capacityChanged wake polled =>
      obtain ⟨mid, slotStep, rfl⟩ := Option.map_eq_some_iff.1 step
      obtain ⟨_, unparked, trying⟩ := phase_unpark slotStep (.inl rfl)
      have awake : ∀ {v}, (mid.turn w .away).asleep v = true → v ≠ w ∧ s.asleep v = true :=
        fun sleeps => inv.asleep_of_turn slotStep (by simp [Turn.away]) sleeps
      have ones := Notify.poll_ones polled
      obtain ⟨waiting, _, _⟩ := Notify.poll_cases polled
      have holders := fun v => inv.holders_free (v := v) rfl (by simp) slotStep
      obtain ⟨next, taken, rfl⟩ := inSlot_cases slotStep
      refine inv.of_turn _ _ _ s.locked slotStep rfl unparked
        (Notify.nodup_keys_poll inv.once polled) ?_ ?_ ?_ rfl (fun v _ => holders v) ?_
      · intro v other
        exact (Notify.mem_keys_poll inv.once polled).trans (and_iff_right other)
      · simp [Notify.mem_keys_poll inv.once polled, Turn.away]
      · intro v member
        have kept : v ∈ s.held → (v ∈ s.held ∧ v ≠ w) := by
          intro before
          exact ⟨before, fun same => unheld (same ▸ before)⟩
        cases wake with
        | one =>
          rcases Finset.mem_insert.1 member with rfl | before
          · exact .inr ⟨rfl, trying rfl⟩
          · exact .inl (kept before)
        | all => exact .inl (kept member)
      · refine inv.covered.of_credits rfl rfl rfl ?_ ?_
        · cases wake with
          | one =>
            have card := Finset.card_insert_of_notMem unheld
            simp only [if_true] at ones ⊢
            simp only [credits, SharedLane.turn, card]
            omega
          | all =>
            simp only [reduceCtorEq, if_false] at ones ⊢
            simp only [credits, SharedLane.turn]
            omega
        · intro ⟨v, member, sleeps⟩
          exact ⟨v, waiting ▸ member, (awake sleeps).2⟩

theorem Inv.lose (inv : s.Inv config) (step : s.lose w = some s') : s'.Inv config := by
  obtain ⟨mid, slotStep, rfl⟩ := Option.map_eq_some_iff.1 step
  obtain ⟨not_trying, unparked, _⟩ := phase_unpark slotStep (.inr rfl)
  have awake : ∀ {v}, (mid.turn w .away).asleep v = true → v ≠ w ∧ s.asleep v = true :=
    fun sleeps => inv.asleep_of_turn slotStep (by simp [Turn.away]) sleeps
  have unheld : w ∉ s.held := fun member => not_trying (inv.held w member)
  have holders := fun v => inv.holders_free (v := v) rfl (by simp) slotStep
  obtain ⟨next, taken, rfl⟩ := inSlot_cases slotStep
  refine inv.of_turn _ _ s.held s.locked slotStep rfl unparked
    (Notify.nodup_keys_drop inv.once w) ?_ ?_ ?_ rfl (fun v _ => holders v) ?_
  · intro v other
    exact (Notify.mem_keys_drop inv.once).trans (and_iff_right other)
  · simp [Notify.mem_keys_drop inv.once, Turn.away]
  · intro v member
    exact .inl ⟨member, fun same => unheld (same ▸ member)⟩
  · rcases s.capacityChanged.drop_ones w with empty | ones
    · exact .of_awake empty
    · refine inv.covered.of_credits rfl rfl rfl ?_ ?_
      · simp only [credits, SharedLane.turn, ones]
        exact le_refl _
      · intro ⟨v, member, sleeps⟩
        exact ⟨v, Notify.mem_drop_waiting member, (awake sleeps).2⟩

/-! ### Every run -/

/-- An admission error ends the loop, unless the lane is full. -/
def givesUp : Option SpawnError → Bool
  | none | some .queueFull => false
  | some _ => true

/-- The error of the locked section of `insert_prepared` for a supervisor. -/
def insertionError (config : LaneConfig) (s : SharedLane) (executionId : ExecutionId) :
    Option SpawnError :=
  match s.run.lane.insertPrepared config executionId {} none with
  | .error error => some error
  | .ok _ => none

/-- A supervisor that took a single notification and leaves the loop without an
admission, superseded or refused, spares the others. -/
def HandsOn (config : LaneConfig) (s : SharedLane) : SharedAction → Prop
  | .check w =>
    (s.superseded w || s.shuttingDown || givesUp (s.run.lane.admissionError config none)) = true →
      w ∈ s.held → s.Spares config w
  | .prepare w (.error _) => w ∈ s.held → s.Spares config w
  | .prepare w (.ok executionId) =>
    givesUp (s.insertionError config executionId) = true → w ∈ s.held → s.Spares config w
  | _ => True

instance (config : LaneConfig) (s : SharedLane) : DecidablePred (s.HandsOn config)
  | .check _ | .prepare _ (.error _) | .prepare _ (.ok _) => by unfold HandsOn; infer_instance
  | .lane _ | .shutDown | .slot .. | .enable _ | .register .. | .withdraw _ | .await _ | .lose _
  | .notifyOne | .notifyWaiters => isTrue trivial

theorem Inv.of_refuse (inv : s.Inv config) {error : SpawnError} (alone : s.Alone w)
    (inside : (s.turns w).place ≠ .outside) (current : s.superseded w = false)
    (full : error = .queueFull →
      config.capacity ≤ s.run.lane.entries.size ∨ s.run.lane.waitingQueue ≠ ∅)
    (spares : givesUp (some error) = true → w ∈ s.held → s.Spares config w)
    (step : s.refuse w error = some s') : s'.Inv config := by
  unfold refuse at step
  split at step
  · exact inv.of_park alone inside current (full rfl) step
  · next other =>
    refine inv.of_answer alone ?_ (spares ?_) step
    · intro same
      exact other (Except.error.inj same)
    · cases error <;> first | rfl | exact (other rfl).elim

theorem full_of_queueFull {lane : LaneState}
    (error : lane.admissionError config none = some .queueFull) :
    config.capacity ≤ lane.entries.size ∨ lane.waitingQueue ≠ ∅ := by
  unfold LaneState.admissionError at error
  split at error
  · cases error
  split at error
  · cases error
  split at error
  · next full => exact .inl full
  · simp only at error
    split at error
    · cases error
    · next waiter => exact .inr waiter

theorem full_of_insertion {lane : LaneState} {executionId : ExecutionId}
    (error : lane.insertPrepared config executionId {} none = .error .queueFull) :
    config.capacity ≤ lane.entries.size ∨ lane.waitingQueue ≠ ∅ := by
  unfold LaneState.insertPrepared at error
  split at error
  · next refusal refused =>
    obtain rfl := Except.error.inj error
    exact full_of_queueFull refused
  simp only [LaneState.nextKeyRefcount] at error
  split at error <;> cases error

theorem Inv.check (inv : s.Inv config) (place : (s.turns w).place = .enabled)
    (hands : s.HandsOn config (.check w)) (step : s.check config w = some s') :
    s'.Inv config := by
  have inside : (s.turns w).place ≠ .outside := by simp [place]
  have trying := inv.trying inside (by simp [place])
  unfold SharedLane.check at step
  split at step
  · cases step
  next unlocked =>
  have alone := inv.alone_of_unlocked unlocked
  split at step
  · next superseded =>
    exact inv.of_answer alone (by simp) (hands (by simp [superseded])) step
  next current =>
  rw [Bool.not_eq_true] at current
  split at step
  · next shut =>
    exact inv.of_refuse alone inside current (by simp) (fun _ => hands (by simp [shut])) step
  split at step
  · next error refused =>
    refine inv.of_refuse alone inside current ?_ (fun leaves => hands ?_) step
    · rintro rfl
      exact full_of_queueFull refused
    · simp [refused, leaves]
  · obtain rfl := Option.some.inj step
    refine inv.of_place .preparing _ s.held inside trying rfl alone current
      (Finset.mem_insert_self _ _) (Finset.subset_insert _ _) (Finset.Subset.refl _)
      (fun absurd => by cases absurd) ?_
    refine inv.covered.of_credits rfl rfl rfl (le_refl _) ?_
    intro ⟨v, member, sleeps⟩
    exact ⟨v, member, (asleep_of_place ⟨.preparing, _⟩ (by simp) sleeps).2⟩

theorem Inv.prepare (inv : s.Inv config) {result : Except String ExecutionId}
    (place : (s.turns w).place = .preparing) (hands : s.HandsOn config (.prepare w result))
    (step : s.prepare config w result = some s') : s'.Inv config := by
  have locks : (s.turns w).place.locks = true := by rw [place]; rfl
  have inside : (s.turns w).place ≠ .outside := by simp [place]
  have trying := inv.trying inside (by simp [place])
  have alone := inv.alone_of_locks locks
  obtain ⟨_, current, _⟩ := inv.mutex w locks
  cases result with
  | error resource => exact inv.of_answer alone (by simp) hands step
  | ok executionId =>
    simp only [SharedLane.prepare] at step
    split at step
    · cases step
    next fresh =>
    split at step
    · next error refused =>
      have laneStep : s.run.step config (.insertPrepared executionId {} none) =
          some { s.run with issued := insert executionId s.run.issued } := by
        simp [LaneRun.step, fresh, refused]
      refine (inv.of_lane laneStep).of_refuse alone inside current ?_ ?_ step
      · rintro rfl
        exact full_of_insertion refused
      · intro leaves
        exact hands (by simp [insertionError, refused, leaves])
    · next lane inserted =>
      obtain rfl := Option.some.inj step
      have laneStep : s.run.step config (.insertPrepared executionId {} none) =
          some { s.run with issued := insert executionId s.run.issued, lane } := by
        simp [LaneRun.step, fresh, inserted]
      have fields := LaneState.Inserted.of_ok inserted
      have accounting := LaneRun.Inv.of_reachable inv.lane
      refine inv.of_insert locks trying laneStep ?_ ?_ ?_
      · rw [fields.eq]
        exact AssocMap.size_insert _ fun queued => fresh (accounting.queued_issued queued)
      · rw [fields.eq]
      · rw [fields.eq]

theorem Inv.register (inv : s.Inv config) {executionId : ExecutionId}
    {result : Except String Unit} (place : (s.turns w).place = .registering executionId)
    (step : s.register config w executionId result = some s') : s'.Inv config := by
  have locks : (s.turns w).place.locks = true := by rw [place]; rfl
  have inside : (s.turns w).place ≠ .outside := by simp [place]
  have trying := inv.trying inside (by simp [place])
  have alone := inv.alone_of_locks locks
  have unheld : w ∉ s.held := inv.spent w (by rw [place]; rfl)
  obtain ⟨member, current, _⟩ := inv.mutex w locks
  cases result with
  | ok _ => exact inv.of_answer alone (by simp) (fun user => (unheld user).elim) step
  | error resource =>
    obtain rfl := Option.some.inj step
    have removes : s.run.step config (.removeQueued executionId) =
        some (s.run.removeQueued executionId) := rfl
    have after := inv.of_lane removes
    have none_else : (s.run.notifies config (.removeQueued executionId)).2 = 0 := by
      simp only [LaneRun.notifies]
      split <;> rfl
    rw [none_else] at after
    refine after.of_place (w := w) (.withdrawing resource) s.locked s.held inside trying rfl
      alone current member (Finset.Subset.refl _) (Finset.Subset.refl _) (fun _ => unheld) ?_
    refine after.covered.of_credits rfl rfl rfl (le_refl _) ?_
    intro ⟨v, member, sleeps⟩
    exact ⟨v, member, (asleep_of_place ⟨.withdrawing resource, _⟩ (by simp) sleeps).2⟩

/-- **Step lemma.** -/
theorem Inv.step (inv : s.Inv config) (hands : s.HandsOn config action)
    (step : s.step config action = some s') : s'.Inv config := by
  cases action with
  | lane action =>
    obtain ⟨run, taken, rfl⟩ := Option.map_eq_some_iff.1 step
    exact inv.of_lane taken
  | shutDown =>
    obtain rfl := Option.some.inj step
    exact { inv with covered := fun absurd => by cases absurd }
  | slot k action =>
    simp only [SharedLane.step] at step
    split at step
    · cases step
    · next passes =>
      rw [not_or, not_and] at passes
      exact inv.of_slot (Bool.not_eq_true _ ▸ passes.1) passes.2 step
  | enable w =>
    simp only [SharedLane.step] at step
    split at step
    · next outside trying =>
      obtain rfl := Option.some.inj step
      exact inv.enable outside trying
    · cases step
  | check w =>
    simp only [SharedLane.step] at step
    split at step
    · next place => exact inv.check place hands step
    · cases step
  | prepare w result =>
    simp only [SharedLane.step] at step
    split at step
    · next place => exact inv.prepare place hands step
    · cases step
  | register w result =>
    simp only [SharedLane.step] at step
    split at step
    · next executionId place => exact inv.register place step
    · cases step
  | withdraw w =>
    simp only [SharedLane.step] at step
    split at step
    · next resource place =>
      have locks : (s.turns w).place.locks = true := by rw [place]; rfl
      have unheld : w ∉ s.held := inv.spent w (by rw [place]; rfl)
      exact inv.of_answer (inv.alone_of_locks locks) (by simp)
        (fun user => (unheld user).elim) step
    · cases step
  | await w =>
    simp only [SharedLane.step] at step
    split at step
    · next place => exact inv.await place step
    · cases step
  | lose w => exact inv.lose step
  | notifyOne =>
    simp only [SharedLane.step] at step
    split at step
    · next pending =>
      obtain rfl := Option.some.inj step
      exact inv.notifyOne pending
    · cases step
  | notifyWaiters =>
    simp only [SharedLane.step] at step
    split at step
    · obtain rfl := Option.some.inj step
      exact inv.notifyWaiters
    · cases step

/-- **Run lemma.** -/
theorem Inv.of_reaches
    (reached : (sharedLane config).Reaches (fun s action => s.HandsOn config action)
      (sharedLane config).init s) : s.Inv config :=
  reached.invariant (.new config) fun inv hands step => inv.step hands step

/-- No operation is in progress: an executor shutdown has closed the lane, no
notification is still to be made or taken, and every supervisor awaits or is done. -/
structure Quiet (s : SharedLane) : Prop where
  shut : s.shuttingDown = true → s.run.lane.closing = true
  one : s.pendingOne = 0
  all : s.pendingAll = 0
  taken : s.capacityChanged.notified = []
  resting : ∀ w phase, s.phase w = some phase →
    phase.suspended = true ∧ phase ≠ .spawned ∨ phase = .ended
  unready : ∀ w, (s.turns w).place = .parked → (s.turns w).ready = false

end SharedLane

/-- **No current supervisor sleeps while there is room**, in every run in which a
supervisor that took a single notification and leaves spares the others. -/
theorem no_sleeper {config : LaneConfig} {s : SharedLane}
    (reached : (sharedLane config).Reaches (fun s action => s.HandsOn config action)
      (sharedLane config).init s)
    (quiet : s.Quiet) (opened : s.run.lane.closing = false)
    (nobody : s.run.lane.waitingQueue = ∅)
    (room : s.run.lane.entries.size < config.capacity) (w : Waiter)
    (current : s.newest w = true) : s.phase w ≠ some .parked := by
  have inv := SharedLane.Inv.of_reaches reached
  intro parked
  have place : (s.turns w).place = .parked := by
    have placed := inv.placed w
    unfold Turn.Placed at placed
    rw [parked] at placed
    cases place : (s.turns w).place <;> simp [place] at placed ⊢
  have registered := (inv.registered w).2 ⟨by simp [place], quiet.unready w place⟩
  have waiting : w ∈ s.capacityChanged.waiting := by
    simpa [Notify.keys, quiet.taken] using registered
  have idle : s.held = ∅ := by
    refine Finset.eq_empty_of_forall_notMem fun v member => ?_
    rcases quiet.resting v .trying (inv.held v member) with ⟨absurd, _⟩ | absurd <;> cases absurd
  have open_ : s.shuttingDown = false := by
    by_contra shut
    rw [Bool.not_eq_false] at shut
    rw [quiet.shut shut] at opened
    cases opened
  have asleep : s.asleep w = true := by simp [SharedLane.asleep, place, current]
  rcases inv.covered open_ opened nobody ⟨w, waiting, asleep⟩ with all | full
  · rw [quiet.all] at all
    exact absurd all (lt_irrefl 0)
  · simp only [SharedLane.credits, quiet.one, idle, Notify.ones, quiet.taken, Finset.card_empty,
      List.countP_nil] at full
    omega

/-- One place in the queue, one running execution. -/
def tightLane : LaneConfig where
  capacity := 1
  concurrency := 1
  maxWaitingProducers := 1
  maxOrderingKeys := 1
  capacity_pos := Nat.one_pos
  concurrency_pos := Nat.one_pos
  concurrency_le := Checked.one_le_usizeMax
  maxWaitingProducers_le := Checked.one_le_usizeMax

/-- Execution 100 runs, execution 101 fills the queue. -/
def fillLane : List SharedAction :=
  [.lane (.insertPrepared 100 {} none), .lane .takeStartable, .notifyWaiters,
    .lane (.insertPrepared 101 {} none)]

/-- Revision 1 of slot 0 parks on the full lane, is woken by the removal of execution 101
and admitted as execution 102, which is then removed as well. -/
def servedRun : List SharedAction :=
  fillLane ++
  [.slot 0 (.replace [] 1 7 .availabilityFirst), .slot 0 (.start 1), .enable (0, 1),
    .check (0, 1), .lane (.removeQueued 101), .notifyOne, .await (0, 1), .enable (0, 1),
    .check (0, 1), .prepare (0, 1) (.ok 102), .register (0, 1) (.ok ()), .slot 0 (.publish 1),
    .slot 0 (.deliver 1), .lane (.removeQueued 102), .notifyOne]

/-- Revisions 1 and 2 of slot 0 park on the full lane; the removal of execution 101 wakes
the supervisor of revision 1, which finds itself superseded and leaves. -/
def missedRun : List SharedAction :=
  fillLane ++
  [.slot 0 (.replace [] 1 7 .availabilityFirst), .slot 0 (.start 1), .enable (0, 1),
    .check (0, 1), .slot 0 (.replace [] 2 8 .availabilityFirst), .slot 0 (.start 2),
    .enable (0, 2), .check (0, 2), .lane (.removeQueued 101), .notifyOne, .await (0, 1),
    .enable (0, 1), .check (0, 1)]

/-- What `Quiet` and the lane's room are read from. -/
def SharedLane.summary (s : SharedLane) :
    (Bool × Nat × Nat × List (Waiter × Wake)) × Bool × Finset Nat × Nat :=
  ((s.shuttingDown, s.pendingOne, s.pendingAll, s.capacityChanged.notified),
    s.run.lane.closing, s.run.lane.waitingQueue, s.run.lane.entries.size)

/-- The supervisors at the end of `missedRun`. -/
def missedAt : Waiter → Option SupervisorPhase × Turn
  | (0, 1) => (some .ended, .away)
  | (0, 2) => (some .parked, ⟨.parked, false⟩)
  | _ => (none, .away)

theorem missed_at (w : Waiter) :
    ((sharedLane tightLane).exec (sharedLane tightLane).init missedRun).map
      (fun s => (s.phase w, s.turns w)) = some (missedAt w) := by
  obtain ⟨k, t⟩ := w
  rcases k with _ | k
  · rcases t with _ | _ | _ | t <;> rfl
  · rfl

/-- The supervisors at the end of `servedRun`. -/
def servedAt : Waiter → Option SupervisorPhase × Turn
  | (0, 1) => (some (.monitoring 102), .away)
  | _ => (none, .away)

theorem served_at (w : Waiter) :
    ((sharedLane tightLane).exec (sharedLane tightLane).init servedRun).map
      (fun s => (s.phase w, s.turns w)) = some (servedAt w) := by
  obtain ⟨k, t⟩ := w
  rcases k with _ | k
  · rcases t with _ | _ | t <;> rfl
  · rfl

/-- A run that ends with its supervisors at rest and nothing pending ends quiet. -/
theorem quiet_of_summary {s : SharedLane} {at_ : Waiter → Option SupervisorPhase × Turn}
    (summary : s.summary = ((false, 0, 0, []), false, ∅, 0))
    (ends : ∀ w, (s.phase w, s.turns w) = at_ w)
    (rests : ∀ w phase, (at_ w).1 = some phase →
      phase.suspended = true ∧ phase ≠ .spawned ∨ phase = .ended)
    (unready : ∀ w, (at_ w).2.ready = false) : s.Quiet := by
  simp only [SharedLane.summary, Prod.mk.injEq] at summary
  obtain ⟨⟨shut, one, all, taken⟩, _, _, _⟩ := summary
  refine ⟨?_, one, all, taken, ?_, ?_⟩
  · intro shutting
    rw [shut] at shutting
    cases shutting
  · intro w phase found
    refine rests w phase ?_
    rw [← ends w, ← found]
  · intro w _
    have same := unready w
    rw [← ends w] at same
    exact same

/-- The one current supervisor of `servedRun` is not asleep at its end, with the queue
empty. -/
theorem no_sleeper_served :
    ∃ s, (sharedLane tightLane).exec (sharedLane tightLane).init servedRun = some s ∧
      s.Quiet ∧ s.newest (0, 1) = true ∧ s.phase (0, 1) ≠ some .parked := by
  have ends : ((sharedLane tightLane).exec (sharedLane tightLane).init servedRun).map
      (fun s => (s.summary, s.newest (0, 1))) =
      some (((false, 0, 0, []), false, ∅, 0), true) := rfl
  obtain ⟨s, run, known⟩ := Option.map_eq_some_iff.1 ends
  obtain ⟨summary, newest⟩ := Prod.mk.inj known
  have at_ : ∀ w, (s.phase w, s.turns w) = servedAt w := by
    intro w
    have placed := served_at w
    rw [run, Option.map_some] at placed
    exact Option.some.inj placed
  have quiet : s.Quiet := by
    refine quiet_of_summary summary at_ ?_ ?_
    · intro w phase found
      unfold servedAt at found
      split at found <;> cases found
      exact .inl ⟨rfl, by simp⟩
    · intro w
      unfold servedAt
      split <;> rfl
  simp only [SharedLane.summary, Prod.mk.injEq] at summary
  obtain ⟨_, opened, nobody, size⟩ := summary
  refine ⟨s, run, quiet, newest, ?_⟩
  exact no_sleeper (System.Reaches.of_exec run (by decide)) quiet opened nobody
    (by rw [size]; decide) (0, 1) newest

/-- The supervisor of the current revision sleeps on an open, empty queue, and nothing is
on its way to wake it. -/
theorem sleeper_missed :
    ∃ s, (sharedLane tightLane).Reachable s ∧ s.Quiet ∧ s.run.lane.closing = false ∧
      s.run.lane.waitingQueue = ∅ ∧ s.run.lane.entries.size < tightLane.capacity ∧
      s.newest (0, 2) = true ∧ s.phase (0, 2) = some .parked := by
  have ends : ((sharedLane tightLane).exec (sharedLane tightLane).init missedRun).map
      (fun s => (s.summary, s.newest (0, 2))) =
      some (((false, 0, 0, []), false, ∅, 0), true) := rfl
  obtain ⟨s, run, known⟩ := Option.map_eq_some_iff.1 ends
  obtain ⟨summary, newest⟩ := Prod.mk.inj known
  have at_ : ∀ w, (s.phase w, s.turns w) = missedAt w := by
    intro w
    have placed := missed_at w
    rw [run, Option.map_some] at placed
    exact Option.some.inj placed
  have quiet : s.Quiet := by
    refine quiet_of_summary summary at_ ?_ ?_
    · intro w phase found
      unfold missedAt at found
      split at found <;> cases found
      · exact .inr rfl
      · exact .inl ⟨rfl, by simp⟩
    · intro w
      unfold missedAt
      split <;> rfl
  simp only [SharedLane.summary, Prod.mk.injEq] at summary
  obtain ⟨_, opened, nobody, size⟩ := summary
  have parked : s.phase (0, 2) = some .parked := (Prod.mk.inj (at_ (0, 2))).1
  exact ⟨s, System.Reaches.of_schedule missedRun run, quiet, opened, nobody,
    by rw [size]; decide, newest, parked⟩

end BusyBeaver
