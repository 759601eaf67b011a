import BusyBeaver.Traffic.Fifo

/-!
# No waiting producer loses its wake-up

Only the front of the waiter queue is notified, and always after the lane mutex was
released.  `Baton` is what survives: while there is room, the producer at the front is
awake, or a notification is on its way that will find it, whoever is at the front by then.
A lane that closes, or loses its runtime, owes that to every producer.
-/

namespace BusyBeaver

open Transition Wakeup

/-- The front of the queue is the old one, if it was not the one that left. -/
theorem firstWaiter_erase {waitingQueue : Finset Nat} {ticket t : Nat}
    (apart : firstWaiter waitingQueue ≠ some ticket)
    (front : firstWaiter (waitingQueue.erase ticket) = some t) :
    firstWaiter waitingQueue = some t := by
  obtain ⟨member, least⟩ := firstWaiter_eq_some.1 front
  have inside := Finset.mem_of_mem_erase member
  cases first : firstWaiter waitingQueue with
  | none =>
    rw [firstWaiter_eq_none.1 first] at inside
    cases inside
  | some m =>
    obtain ⟨member', least'⟩ := firstWaiter_eq_some.1 first
    have other : m ≠ ticket := by
      rintro rfl
      exact apart first
    have below := least m (Finset.mem_erase.2 ⟨other, member'⟩)
    have above := least' t inside
    exact congrArg some (le_antisymm above below)

/-- A ticket that joins is at the front, or does not change it. -/
theorem firstWaiter_insert {waitingQueue : Finset Nat} {ticket t : Nat}
    (front : firstWaiter (insert ticket waitingQueue) = some t) :
    t = ticket ∨ firstWaiter waitingQueue = some t := by
  obtain ⟨member, least⟩ := firstWaiter_eq_some.1 front
  rcases Finset.mem_insert.1 member with same | earlier
  · exact .inl same
  · refine .inr (firstWaiter_eq_some.2 ⟨earlier, fun other inside => ?_⟩)
    exact least other (Finset.mem_insert_of_mem inside)

namespace Traffic

/-- The producer of the ticket is running, or its await is about to return. -/
def Awake (s : Traffic) (t : Nat) : Prop :=
  ∃ i caller, s.callers i = some caller ∧ caller.ticket = some t ∧ ¬ caller.phase.Ended ∧
    (caller.phase = .parked → (s.signals t).ready = true)

/-- The producer of the ticket is awake, or a notification is meant for it. -/
def Coming (s : Traffic) (t : Nat) : Prop :=
  s.Awake t ∨ .signal t ∈ s.unsent ∨ .readAll ∈ s.unsent

structure Baton (config : LaneConfig) (s : Traffic) : Prop where
  head : ∀ t, firstWaiter s.run.lane.waitingQueue = some t →
    s.run.lane.entries.size < config.capacity → s.Coming t ∨ .readHead ∈ s.unsent
  closed : s.run.lane.closing = true ∨ s.run.lane.runtimeUnavailable = true →
    ∀ t ∈ s.run.lane.waitingQueue, s.Coming t

variable {config : LaneConfig} {s s' : Traffic} {action : TrafficAction} {i t : Nat}
variable {caller caller' : SpawnCall}

/-! ## What keeps a producer awake -/

theorem Awake.mono (awake : s.Awake t) (callers : s'.callers = s.callers)
    (signals : (s.signals t).ready = true → (s'.signals t).ready = true) : s'.Awake t := by
  obtain ⟨i, caller, found, own, going, parked⟩ := awake
  exact ⟨i, caller, by rw [callers]; exact found, own, going, fun phase => signals (parked phase)⟩

theorem Coming.mono (coming : s.Coming t) (callers : s'.callers = s.callers)
    (signals : (s.signals t).ready = true → (s'.signals t).ready = true)
    (unsent : ∀ notice ∈ s.unsent, notice ∈ s'.unsent) : s'.Coming t := by
  rcases coming with awake | signal | all
  · exact .inl (awake.mono callers signals)
  · exact .inr (.inl (unsent _ signal))
  · exact .inr (.inr (unsent _ all))

/-- Another caller moves, or this one to a place where it is not asleep. -/
theorem Awake.call (awake : s.Awake t)
    (stays : ∀ caller, s.callers i = some caller → caller.ticket = some t →
      caller'.ticket = some t ∧ ¬ caller'.phase.Ended ∧ caller'.phase ≠ .parked) :
    (s.call i caller').Awake t := by
  obtain ⟨j, caller, found, own, going, parked⟩ := awake
  by_cases here : j = i
  · subst here
    obtain ⟨own', going', awake'⟩ := stays caller found own
    exact ⟨j, caller', Pool.set_self, own', going', fun phase => (awake' phase).elim⟩
  · exact ⟨j, caller, (Pool.set_of_ne here).trans found, own, going, parked⟩

theorem Coming.call (coming : s.Coming t)
    (stays : ∀ caller, s.callers i = some caller → caller.ticket = some t →
      caller'.ticket = some t ∧ ¬ caller'.phase.Ended ∧ caller'.phase ≠ .parked) :
    (s.call i caller').Coming t :=
  coming.imp_left fun awake => awake.call stays

/-- Who holds a ticket and is not asleep is awake. -/
theorem Awake.of_running (found : s.callers i = some caller) (own : caller.ticket = some t)
    (going : ¬ caller.phase.Ended) (running : caller.phase ≠ .parked) : s.Awake t :=
  ⟨i, caller, found, own, going, fun phase => (running phase).elim⟩

/-! ## The baton is passed on -/

namespace Baton

theorem new (config : LaneConfig) : Traffic.new.Baton config where
  head := by
    intro t front
    cases front
  closed := by
    intro _ t absurd
    cases absurd

/-- A section of the lane that leaves the waiter queue alone. -/
theorem frame (baton : s.Baton config) (callers : s'.callers = s.callers)
    (signals : ∀ t, (s.signals t).ready = true → (s'.signals t).ready = true)
    (unsent : ∀ notice ∈ s.unsent, notice ∈ s'.unsent)
    (waiting : s'.run.lane.waitingQueue = s.run.lane.waitingQueue)
    (room : s'.run.lane.entries.size < config.capacity →
      s.run.lane.entries.size < config.capacity ∨ .readHead ∈ s'.unsent ∨
        .readAll ∈ s'.unsent)
    (flags : s'.run.lane.closing = true ∨ s'.run.lane.runtimeUnavailable = true →
      (s.run.lane.closing = true ∨ s.run.lane.runtimeUnavailable = true) ∨
        .readAll ∈ s'.unsent) : s'.Baton config := by
  constructor
  · intro t front free
    rw [waiting] at front
    rcases room free with free | head | all
    · rcases baton.head t front free with coming | head
      · exact .inl (coming.mono callers (signals t) unsent)
      · exact .inr (unsent _ head)
    · exact .inr head
    · exact .inl (.inr (.inr all))
  · intro shut t member
    rw [waiting] at member
    rcases flags shut with shut | all
    · exact (baton.closed shut t member).mono callers (signals t) unsent
    · exact .inr (.inr all)

/-- A caller moves: if it goes to sleep, nothing was owed to it. -/
theorem call (baton : s.Baton config) (found : s.callers i = some caller)
    (same : caller'.ticket = caller.ticket) (going : ¬ caller'.phase.Ended)
    (parks : caller'.phase = .parked → LaneState.Crowded config s.run.lane caller'.ticket) :
    (s.call i caller').Baton config := by
  have moves : ∀ {t : Nat}, (caller.ticket = some t → caller'.phase ≠ .parked) → s.Coming t →
      (s.call i caller').Coming t := by
    intro t awake coming
    refine coming.call fun old at_i own => ?_
    obtain rfl : caller = old := Option.some.inj (found.symm.trans at_i)
    exact ⟨same.trans own, going, awake own⟩
  constructor
  · intro t front free
    refine (baton.head t front free).imp_left (moves fun own phase => ?_)
    have full := (parks phase).full t (same.trans own) front
    exact absurd free (by simpa [Traffic.call] using full)
  · intro shut t member
    refine moves (fun own phase => ?_) (baton.closed shut t member)
    have crowded := parks phase
    rcases shut with closing | gone
    · exact absurd (crowded.opened.symm.trans closing) (by simp)
    · exact absurd (crowded.available.symm.trans gone) (by simp)

/-- A caller moves and stays awake. -/
theorem call_awake (baton : s.Baton config) (found : s.callers i = some caller)
    {phase : SpawnPhase} (going : ¬ phase.Ended) (awake : phase ≠ .parked) :
    (s.call i (caller.moveTo phase)).Baton config :=
  baton.call found rfl going fun parked => (awake parked).elim

theorem refused (baton : s.Baton config) (found : s.callers i = some caller)
    {error : SpawnError}
    (crowded : error = .queueFull → LaneState.Crowded config s.run.lane caller.ticket) :
    (s.call i (caller.refused error)).Baton config := by
  rcases caller.refused_cases error with ⟨reply, eq⟩ | ⟨-, eq⟩ | ⟨full, -, eq⟩
  · rw [eq]
    exact baton.call_awake found id nofun
  · rw [eq]
    exact baton.call_awake found id nofun
  · rw [eq]
    exact baton.call found rfl id fun _ => crowded full

/-- A caller without a ticket moves as it likes. -/
theorem call_without (baton : s.Baton config)
    (without : ∀ caller, s.callers i = some caller → caller.ticket = none) :
    (s.call i caller').Baton config := by
  have moves : ∀ {t : Nat}, s.Coming t → (s.call i caller').Coming t := by
    intro t coming
    refine coming.call fun old at_i own => ?_
    exact absurd ((without old at_i).symm.trans own) (by simp)
  constructor
  · intro t front free
    exact (baton.head t front free).imp_left moves
  · intro shut t member
    exact moves (baton.closed shut t member)

theorem look (baton : s.Baton config) (found : s.callers i = some caller) :
    (s.look i caller).Baton config := by
  unfold Traffic.look
  split
  · rename_i without
    refine baton.call_without fun old at_i => ?_
    obtain rfl : caller = old := Option.some.inj (found.symm.trans at_i)
    exact without
  · rename_i ticket own
    have moves : ∀ {t : Nat}, s.Coming t →
        ({ s.call i (caller.moveTo .calling) with
          signals := Function.update s.signals ticket (s.signals ticket).create.enable
          : Traffic }).Coming t := by
      intro t coming
      by_cases here : t = ticket
      · subst here
        exact .inl (.of_running Pool.set_self own id nofun)
      · have moved : (s.call i (caller.moveTo .calling)).Coming t := by
          refine coming.call fun old at_i own' => ?_
          obtain rfl : caller = old := Option.some.inj (found.symm.trans at_i)
          exact ⟨own', id, nofun⟩
        refine moved.mono rfl ?_ fun _ member => member
        simp [Traffic.call, here]
    constructor
    · intro t front free
      exact (baton.head t front free).imp_left moves
    · intro shut t member
      exact moves (baton.closed shut t member)

/-- A producer that takes a ticket is awake. -/
theorem queue (baton : s.Baton config) (tickets : s.Tickets) (inv : LaneRun.Inv config s.run)
    (found : s.callers i = some caller) (phase : caller.phase = .full) {lane : LaneState}
    {ticket : Nat} (ok : s.run.lane.newWaitingProducer config = (lane, .ok ticket)) :
    ({ s with
      run := { s.run with lane, producers := insert ticket s.run.producers }
      signals := Function.update s.signals ticket .new }.call i
        { caller with ticket := some ticket, phase := .entering }).Baton config := by
  obtain ⟨waiting, newest, -⟩ := tickets.queue inv found phase ok
  have only := LaneState.WaitingOnly.of_eq ok
  have without := tickets.full i caller found phase
  let next : Traffic := { s with
    run := { s.run with lane, producers := insert ticket s.run.producers }
    signals := Function.update s.signals ticket .new }
  let queued : SpawnCall := { caller with ticket := some ticket, phase := .entering }
  have own : (next.call i queued).Coming ticket :=
    .inl (.of_running Pool.set_self rfl id nofun)
  have moves : ∀ {t : Nat}, t ∈ s.run.lane.waitingQueue → s.Coming t →
      (next.call i queued).Coming t := by
    intro t member coming
    have apart : t ≠ ticket := (newest t member).ne
    have kept : next.Coming t := by
      refine coming.mono rfl ?_ fun _ member => member
      simp [next, apart]
    refine kept.call fun old at_i own' => ?_
    obtain rfl : caller = old := Option.some.inj (found.symm.trans at_i)
    exact absurd (without.symm.trans own') (by simp)
  constructor
  · intro t front free
    change firstWaiter lane.waitingQueue = some t at front
    change lane.entries.size < config.capacity at free
    rw [waiting] at front
    rw [only.entries] at free
    rcases firstWaiter_insert front with rfl | front
    · exact .inl own
    · have member := (firstWaiter_eq_some.1 front).1
      exact (baton.head t front free).imp_left (moves member)
  · intro shut t member
    change t ∈ lane.waitingQueue at member
    change lane.closing = true ∨ lane.runtimeUnavailable = true at shut
    rw [waiting] at member
    rw [only.closing, only.runtimeUnavailable] at shut
    rcases Finset.mem_insert.1 member with rfl | earlier
    · exact own
    · exact moves earlier (baton.closed shut t earlier)

/-- A producer leaves: if it was at the front, it hands the baton to the next. -/
theorem finish (baton : s.Baton config) (tickets : s.Tickets) (inv : LaneRun.Inv config s.run)
    (found : s.callers i = some caller) (going : ¬ caller.phase.Ended) {ticket : Nat}
    (own : caller.ticket = some ticket) {run : LaneRun} (reply : SpawnReply)
    (ran : s.run.step config (.finishWaitingProducer ticket) = some run) :
    (({ s with run }.call i (caller.moveTo (.ended reply))).post
      ((s.run.lane.finishWaitingProducer config ticket).2.nextSignal.toList.map
        Notice.signal)).Baton config := by
  have live := tickets.live i caller ticket found own going
  have waiting := (inv.lane.finishWaitingProducer live).2.2
  have lane : run.lane = (s.run.lane.finishWaitingProducer config ticket).1 := by
    simp only [LaneRun.step] at ran
    split at ran
    · obtain rfl := Option.some.inj ran
      rfl
    · cases ran
  let ended := ({ s with run }.call i (caller.moveTo (.ended reply))).post
    ((s.run.lane.finishWaitingProducer config ticket).2.nextSignal.toList.map Notice.signal)
  have moves : ∀ {t : Nat}, t ≠ ticket → s.Coming t → ended.Coming t := by
    intro t apart coming
    have moved : ({ s with run }.call i (caller.moveTo (.ended reply))).Coming t := by
      have same : { s with run : Traffic }.Coming t :=
        coming.mono rfl id fun _ member => member
      refine same.call fun old at_i own' => ?_
      obtain rfl : caller = old := Option.some.inj (found.symm.trans at_i)
      exact absurd (Option.some.inj (own'.symm.trans own)) apart
    exact moved.mono rfl id fun _ member => List.mem_append_left _ member
  constructor
  · intro t front free
    change firstWaiter run.lane.waitingQueue = some t at front
    change run.lane.entries.size < config.capacity at free
    rw [lane, waiting] at front
    rw [lane] at free
    have apart : t ≠ ticket :=
      Finset.ne_of_mem_erase (firstWaiter_eq_some.1 front).1
    by_cases first : firstWaiter s.run.lane.waitingQueue = some ticket
    · refine .inl (.inr (.inl (List.mem_append_right _ ?_)))
      simp [LaneState.finishWaitingProducer, first, front]
    · have before := firstWaiter_erase first front
      rcases baton.head t before free with coming | head
      · exact .inl (moves apart coming)
      · exact .inr (List.mem_append_left _ head)
  · intro shut t member
    change t ∈ run.lane.waitingQueue at member
    change run.lane.closing = true ∨ run.lane.runtimeUnavailable = true at shut
    rw [lane, waiting] at member
    rw [lane] at shut
    exact moves (Finset.ne_of_mem_erase member)
      (baton.closed shut t (Finset.mem_of_mem_erase member))

/-- A notification is made: what it was meant for is awake, or is meant by the next one. -/
theorem send (baton : s.Baton config) (tickets : s.Tickets) (notice : Notice) :
    ({ s with unsent := s.unsent.erase notice }.send notice).Baton config := by
  -- a notice of another kind is still there
  have kept : ∀ {other : Notice}, other ≠ notice → other ∈ s.unsent →
      other ∈ s.unsent.erase notice := by
    intro other apart member
    exact (List.mem_erase_of_ne apart).2 member
  cases notice with
  | readHead =>
    have moves : ∀ {t : Nat}, s.Coming t →
        ({ s with unsent := s.unsent.erase .readHead }.send .readHead).Coming t := by
      intro t coming
      rcases coming with awake | signal | all
      · exact .inl (awake.mono rfl id)
      · exact .inr (.inl (List.mem_append_left _ (kept (by simp) signal)))
      · exact .inr (.inr (List.mem_append_left _ (kept (by simp) all)))
    constructor
    · intro t front _
      refine .inl (.inr (.inl (List.mem_append_right _ ?_)))
      have head : { s with unsent := s.unsent.erase .readHead : Traffic }.head = some t := front
      simp [head]
    · intro shut t member
      exact moves (baton.closed shut t member)
  | readAll =>
    have called : ∀ {t : Nat}, t ∈ s.run.lane.waitingQueue →
        ({ s with unsent := s.unsent.erase .readAll }.send .readAll).Coming t := by
      intro t member
      refine .inr (.inl (List.mem_append_right _ ?_))
      simpa using member
    constructor
    · intro t front _
      exact .inl (called (firstWaiter_eq_some.1 front).1)
    · intro _ t member
      exact called member
  | signal ticket =>
    have moves : ∀ {t : Nat}, t ∈ s.run.lane.waitingQueue → s.Coming t →
        ({ s with unsent := s.unsent.erase (.signal ticket) }.send (.signal ticket)).Coming t := by
      intro t member coming
      by_cases here : t = ticket
      · subst here
        -- the notification finds its producer running, or asleep on the signal
        obtain ⟨i, caller, found, own, going⟩ := tickets.owned t member
        refine .inl ⟨i, caller, found, own, going, fun phase => ?_⟩
        have listens := tickets.enabled i caller t found own (by rw [phase]; trivial)
        simpa [Traffic.send] using listens.notifyOne.2
      · rcases coming with awake | signal | all
        · refine .inl (awake.mono rfl ?_)
          simp [Traffic.send, here]
        · refine .inr (.inl (kept ?_ signal))
          simpa using here
        · exact .inr (.inr (kept (by simp) all))
    constructor
    · intro t front free
      have member := (firstWaiter_eq_some.1 front).1
      exact (baton.head t front free).imp (moves member) (kept (by simp))
    · intro shut t member
      exact moves member (baton.closed shut t member)
  | workOne | workAll =>
    have moves : ∀ {t : Nat}, s.Coming t →
        ∀ {s' : Traffic}, s'.callers = s.callers → s'.signals = s.signals →
          (∀ t, Notice.signal t ∈ s.unsent → Notice.signal t ∈ s'.unsent) →
          (Notice.readAll ∈ s.unsent → Notice.readAll ∈ s'.unsent) → s'.Coming t := by
      intro t coming s' callers signals one all
      rcases coming with awake | signal | every
      · exact .inl (awake.mono callers fun ready => by rw [signals]; exact ready)
      · exact .inr (.inl (one t signal))
      · exact .inr (.inr (all every))
    constructor
    · intro t front free
      refine (baton.head t front free).imp (fun coming => ?_) (kept (by simp))
      exact moves coming rfl rfl (fun _ => kept (by simp)) (kept (by simp))
    · intro shut t member
      exact moves (baton.closed shut t member) rfl rfl (fun _ => kept (by simp)) (kept (by simp))

/-- `remove_queued` makes room, and announces it to the front. -/
theorem removeQueued (baton : s.Baton config) (id : ExecutionId) :
    (s.removeQueued id).Baton config := by
  have waiting := (LaneRun.removeQueued_fields s.run.lane id).2.2
  have flags : (s.run.lane.removeQueued id).1.closing = s.run.lane.closing ∧
      (s.run.lane.removeQueued id).1.runtimeUnavailable = s.run.lane.runtimeUnavailable := by
    unfold LaneState.removeQueued
    split <;> exact ⟨rfl, rfl⟩
  refine baton.frame rfl (fun _ => fun h => h) (fun _ member => List.mem_append_left _ member)
    waiting ?_ ?_
  · intro free
    by_cases queued : id ∈ s.run.lane.entries
    · refine .inr (.inl (List.mem_append_right _ ?_))
      simp [queued]
    · refine .inl ?_
      have same := LaneState.removeQueued_of_notMem queued
      simpa [Traffic.removeQueued, LaneRun.removeQueued, Traffic.post, same] using free
  · intro shut
    refine .inl ?_
    rw [← flags.1, ← flags.2]
    exact shut

theorem take (baton : s.Baton config) (inv : LaneRun.Inv config s.run) :
    (s.takeStartable config).Baton config := by
  have loop := inv.lane.takeStartable
  have before := inv.lane.queue.length
  have after := loop.inv.queue.length
  have total := loop.length
  refine baton.frame rfl (fun _ => fun h => h) (fun _ member => List.mem_append_left _ member)
    loop.waitingQueue ?_ ?_
  · intro free
    change (s.run.lane.takeStartable config).state.entries.size < config.capacity at free
    by_cases none_ : (s.run.lane.takeStartable config).starts = []
    · rw [none_] at total
      simp only [List.length_nil] at total
      exact .inl (by omega)
    · refine .inr (.inl (List.mem_append_right _ ?_))
      simp [none_]
  · intro shut
    refine .inl ?_
    rw [← loop.closing, ← loop.runtimeUnavailable]
    exact shut

/-- **Step lemma.** -/
theorem step (baton : s.Baton config) (tickets : s.Tickets) (inv : LaneRun.Inv config s.run)
    (moved : Moved config s action s') : s'.Baton config := by
  cases moved with
  | submitted fresh =>
    refine baton.call_without fun old at_i => ?_
    exact absurd (fresh.symm.trans at_i) (by simp)
  | looked found _ => exact baton.look found
  | @refused i caller error found phase refused =>
    refine baton.refused found fun full => .of_admissionError ?_
    rw [full] at refused
    unfold Traffic.admissionError at refused
    split at refused
    · exact refused
    · cases refused
  | passed found _ _ => exact baton.call_awake found id nofun
  | unprepared found _ => exact baton.call_awake found id nofun
  | @unplaced i caller id error found phase fresh refused =>
    have issued : { s with
        run := { s.run with issued := insert id s.run.issued } : Traffic }.Baton config :=
      baton.frame rfl (fun _ => fun h => h) (fun _ member => member) rfl .inl .inl
    refine issued.refused found fun full => ?_
    rw [full] at refused
    exact LaneState.Crowded.of_insertPrepared refused
  | @placed i caller id lane found phase fresh ok =>
    have inserted := LaneState.Inserted.of_ok ok
    have fields := inserted.eq
    obtain ⟨-, -, room⟩ := LaneState.not_closing_of_admissionError inserted.admitted
    have placed : { s with
        run := { s.run with issued := insert id s.run.issued, lane } : Traffic }.Baton config := by
      refine baton.frame rfl (fun _ => fun h => h) (fun _ member => member) (by rw [fields])
        (fun _ => .inl room) fun shut => .inl ?_
      change lane.closing = true ∨ lane.runtimeUnavailable = true at shut
      rw [fields] at shut
      exact shut
    exact placed.call_awake found (fun h => h) nofun
  | @registered i caller id found phase =>
    have left : (s.call i (caller.moveTo (.leaving (some (.ok id))))).Baton config :=
      baton.call_awake found (fun h => h) nofun
    exact left.frame rfl (fun _ => fun h => h) (fun _ member => List.mem_append_left _ member)
      rfl .inl .inl
  | unregistered found phase =>
    exact (baton.removeQueued _).call_awake found id nofun
  | @unqueued i caller lane error found phase refused =>
    have only := LaneState.WaitingOnly.of_eq refused
    have waiting : lane.waitingQueue = s.run.lane.waitingQueue := by
      rcases LaneState.newWaitingProducer_cases config s.run.lane with ⟨_, _, eq, -⟩ | ⟨-, eq⟩
      · rw [eq] at refused
        cases refused
        rfl
      · rw [eq] at refused
        cases refused
    have same : { s with run := { s.run with lane } : Traffic }.Baton config := by
      refine baton.frame rfl (fun _ => fun h => h) (fun _ member => member) waiting
        (fun free => .inl ?_) fun shut => .inl ?_
      · rw [← only.entries]
        exact free
      · rw [← only.closing, ← only.runtimeUnavailable]
        exact shut
    exact same.call_awake found id nofun
  | queued found phase ok => exact baton.queue tickets inv found phase ok
  | woken found _ _ _ => exact baton.call_awake found id nofun
  | gaveUp found _ => exact baton.call_awake found id nofun
  | dropped found _ => exact baton.call_awake found id nofun
  | @ended i caller reply found phase without =>
    refine baton.call_without fun old at_i => ?_
    obtain rfl : caller = old := Option.some.inj (found.symm.trans at_i)
    exact without
  | finished found phase own ran =>
    exact baton.finish tickets inv found (by rw [phase]; exact id) own _ ran
  | sent _ => exact baton.send tickets _
  | removed => exact baton.removeQueued _
  | @completed id run ran =>
    simp only [LaneRun.step] at ran
    split at ran
    · obtain rfl := Option.some.inj ran
      obtain ⟨-, entries, waiting, closing⟩ := LaneRun.executionFinished_fields s.run.lane id
      have gone := @LaneState.executionFinished_runtimeUnavailable s.run.lane id
      refine baton.frame rfl (fun _ => fun h => h) (fun _ member => List.mem_append_left _ member)
        waiting (fun free => .inl ?_) fun shut => .inl ?_
      · rw [← entries]
        exact free
      · rw [← closing, ← gone]
        exact shut
    · cases ran
  | closed | stopped | lost =>
    have all : ∀ {notices : List Notice}, Notice.readAll ∈ notices →
        Notice.readAll ∈ s.unsent ++ notices :=
      fun member => List.mem_append_right _ member
    exact baton.frame rfl (fun _ => fun h => h) (fun _ member => List.mem_append_left _ member)
      rfl (fun _ => .inr (.inr (all (by simp)))) fun _ => .inr (all (by simp))
  | took _ => exact baton.take inv
  | discarded _ | committed _ | shutDown | watching | parked | resumed | launched =>
    exact baton.frame rfl (fun _ => fun h => h) (fun _ member => member) rfl .inl .inl

theorem of_reaches {ok : Traffic → TrafficAction → Prop}
    (reached : (traffic config).Reaches ok (traffic config).init s) : s.Baton config := by
  induction reached with
  | refl => exact new config
  | tail before _ step ih =>
    exact ih.step (.of_reaches before) (lane_inv before) (Moved.of_step step)

end Baton

/-- No operation on the lane is in progress: every call has ended or sleeps on its signal,
and every notification was made. -/
structure Quiet (s : Traffic) : Prop where
  callers : ∀ i caller, s.callers i = some caller → caller.phase.Ended ∨
    (caller.phase = .parked ∧ ∀ t, caller.ticket = some t → (s.signals t).ready = false)
  unsent : s.unsent = []

/-- In a quiet state nobody is awake, and nothing is on its way. -/
theorem Quiet.not_coming (quiet : s.Quiet) : ¬ s.Coming t := by
  intro coming
  unfold Coming at coming
  rw [quiet.unsent] at coming
  rcases coming with ⟨i, caller, found, own, going, parked⟩ | absurd | absurd
  · rcases quiet.callers i caller found with ended | ⟨phase, asleep⟩
    · exact going ended
    · exact absurd ((asleep t own).symm.trans (parked phase)) (by simp)
  · cases absurd
  · cases absurd

end Traffic

/-- **No lost wake-up.**  When nothing is in progress, producers wait only for a full lane,
and none waits for a lane that is closing or has lost its runtime. -/
theorem no_lost_wakeup {config : LaneConfig} {s : Traffic}
    (reached : (traffic config).Reachable s) (quiet : s.Quiet) :
    (s.run.lane.closing = false → s.run.lane.runtimeUnavailable = false →
      s.run.lane.waitingQueue = ∅ ∨ s.run.lane.entries.size = config.capacity) ∧
      (s.run.lane.closing = true ∨ s.run.lane.runtimeUnavailable = true →
        s.run.lane.waitingQueue = ∅) := by
  have baton := Traffic.Baton.of_reaches reached
  have inv := Traffic.lane_inv reached
  constructor
  · intro _ _
    cases front : firstWaiter s.run.lane.waitingQueue with
    | none => exact .inl (firstWaiter_eq_none.1 front)
    | some t =>
      refine .inr ?_
      by_contra other
      have most := inv.lane.entries_le
      rcases baton.head t front (by omega) with coming | head
      · exact quiet.not_coming coming
      · rw [quiet.unsent] at head
        cases head
  · intro shut
    refine Finset.eq_empty_of_forall_notMem fun t member => ?_
    exact quiet.not_coming (baton.closed shut t member)

theorem no_lost_wakeup_lineUp :
    ∃ s, (traffic singleFile).exec (traffic singleFile).init lineUp = some s ∧
      s.run.lane.waitingQueue = {1, 0} ∧ s.run.lane.entries.size = singleFile.capacity := by
  have ends : ∃ s, (traffic singleFile).exec (traffic singleFile).init lineUp = some s ∧
      s.run.lane.waitingQueue = {1, 0} ∧ s.run.lane.closing = false ∧
      s.run.lane.runtimeUnavailable = false ∧ s.Quiet := by
    refine ⟨_, rfl, rfl, rfl, rfl, ?_, rfl⟩
    intro i caller found
    rcases i with _ | _ | _ | i
    · cases found
      exact .inl trivial
    · cases found
      exact .inr ⟨rfl, fun t own => by cases own; rfl⟩
    · cases found
      exact .inr ⟨rfl, fun t own => by cases own; rfl⟩
    · cases found
  obtain ⟨s, run, waiting, opened, available, quiet⟩ := ends
  rcases (no_lost_wakeup (System.Reaches.of_schedule _ run) quiet).1 opened available with
    empty | full
  · rw [waiting] at empty
    exact absurd empty (by decide)
  · exact ⟨s, run, waiting, full⟩

end BusyBeaver
