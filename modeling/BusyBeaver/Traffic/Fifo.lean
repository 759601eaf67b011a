import BusyBeaver.Traffic.Moves

/-!
# Waiting producers are served in order

`Tickets` ties the waiter queue to the callers: every ticket in it belongs to one call that
has not ended, and a call keeps its ticket in the queue until it ends.  An execution enters
the lane in one place, the locked section of `insert_prepared`, and there the ticket of the
caller is compared with the front of the queue.
-/

namespace BusyBeaver

open Transition Wakeup

namespace Traffic

/-! ## Tickets and callers -/

structure Tickets (s : Traffic) : Prop where
  live : ∀ i caller t, s.callers i = some caller → caller.ticket = some t →
    ¬ caller.phase.Ended → t ∈ s.run.lane.waitingQueue
  owned : ∀ t ∈ s.run.lane.waitingQueue, ∃ i caller, s.callers i = some caller ∧
    caller.ticket = some t ∧ ¬ caller.phase.Ended
  apart : ∀ i j caller other t, s.callers i = some caller → s.callers j = some other →
    caller.ticket = some t → other.ticket = some t → ¬ caller.phase.Ended →
    ¬ other.phase.Ended → i = j
  enabled : ∀ i caller t, s.callers i = some caller → caller.ticket = some t →
    caller.phase.Enabled → (s.signals t).Listens
  full : ∀ i caller, s.callers i = some caller → caller.phase = .full → caller.ticket = none

namespace Tickets

variable {config : LaneConfig} {s s' : Traffic} {action : TrafficAction} {i : Nat}
variable {caller caller' : SpawnCall}

theorem new : Traffic.new.Tickets where
  live := by intro i caller t absurd; cases absurd
  owned := by intro t absurd; cases absurd
  apart := by intro i j caller other t absurd; cases absurd
  enabled := by intro i caller t absurd; cases absurd
  full := by intro i caller absurd; cases absurd

/-- Nothing that concerns the tickets moves. -/
theorem frame (tickets : s.Tickets) (callers : s'.callers = s.callers)
    (waiting : s'.run.lane.waitingQueue = s.run.lane.waitingQueue)
    (signals : ∀ t, (s.signals t).Listens → (s'.signals t).Listens) : s'.Tickets := by
  constructor
  · intro i caller t found own going
    rw [callers] at found
    rw [waiting]
    exact tickets.live i caller t found own going
  · intro t member
    rw [waiting] at member
    rw [callers]
    exact tickets.owned t member
  · intro i j caller other t found found'
    rw [callers] at found found'
    exact tickets.apart i j caller other t found found'
  · intro i caller t found own enabled
    rw [callers] at found
    exact signals t (tickets.enabled i caller t found own enabled)
  · intro i caller found
    rw [callers] at found
    exact tickets.full i caller found

/-- A call goes on with the ticket it has. -/
theorem call (tickets : s.Tickets) (found : s.callers i = some caller)
    (same : caller'.ticket = caller.ticket) (going : ¬ caller.phase.Ended)
    (going' : ¬ caller'.phase.Ended)
    (enabled : ∀ t, caller'.ticket = some t → caller'.phase.Enabled → (s.signals t).Listens)
    (full : caller'.phase = .full → caller'.ticket = none) : (s.call i caller').Tickets := by
  have back : ∀ {j : Nat} {other : SpawnCall}, (s.call i caller').callers j = some other →
      ∃ old, s.callers j = some old ∧ other.ticket = old.ticket ∧
        (¬ other.phase.Ended → ¬ old.phase.Ended) := by
    intro j other at_j
    rcases Pool.of_set_eq_some at_j with ⟨rfl, rfl⟩ | ⟨-, old⟩
    · exact ⟨caller, found, same, fun _ => going⟩
    · exact ⟨other, old, rfl, fun still => still⟩
  constructor
  · intro j other t at_j own still
    obtain ⟨old, at_j, ticket, ended⟩ := back at_j
    exact tickets.live j old t at_j (ticket ▸ own) (ended still)
  · intro t member
    obtain ⟨j, other, at_j, own, still⟩ := tickets.owned t member
    by_cases here : j = i
    · subst here
      obtain rfl : caller = other := Option.some.inj (found.symm.trans at_j)
      exact ⟨j, caller', Pool.set_self, same.trans own, going'⟩
    · exact ⟨j, other, (Pool.set_of_ne here).trans at_j, own, still⟩
  · intro j k other other' t at_j at_k own own' still still'
    obtain ⟨old, at_j, ticket, ended⟩ := back at_j
    obtain ⟨old', at_k, ticket', ended'⟩ := back at_k
    exact tickets.apart j k old old' t at_j at_k (ticket ▸ own) (ticket' ▸ own') (ended still)
      (ended' still')
  · intro j other t at_j own listening
    rcases Pool.of_set_eq_some at_j with ⟨-, rfl⟩ | ⟨-, old⟩
    · exact enabled t own listening
    · exact tickets.enabled j other t old own listening
  · intro j other at_j phase
    rcases Pool.of_set_eq_some at_j with ⟨-, rfl⟩ | ⟨-, old⟩
    · exact full phase
    · exact tickets.full j other old phase

/-- A call goes on inside the part of the loop where its notification is enabled. -/
theorem call_enabled (tickets : s.Tickets) (found : s.callers i = some caller)
    (enabled : caller.phase.Enabled) {phase : SpawnPhase} (enabled' : phase.Enabled) :
    (s.call i (caller.moveTo phase)).Tickets := by
  have going : ∀ {phase : SpawnPhase}, phase.Enabled → ¬ phase.Ended := by
    intro phase enabled
    cases phase <;> first | exact enabled.elim | exact id
  refine tickets.call found rfl (going enabled) (going enabled') ?_ ?_
  · intro t own _
    exact tickets.enabled i caller t found own enabled
  · rintro rfl
    exact enabled'.elim

/-- A call goes on to a place where it listens to nothing. -/
theorem call_deaf (tickets : s.Tickets) (found : s.callers i = some caller)
    (going : ¬ caller.phase.Ended) {phase : SpawnPhase}
    (deaf : phase = .entering ∨ ∃ reply, phase = .leaving reply) :
    (s.call i (caller.moveTo phase)).Tickets := by
  refine tickets.call found rfl going ?_ ?_ ?_
  · rcases deaf with rfl | ⟨reply, rfl⟩ <;> exact id
  · intro t _ listening
    rcases deaf with rfl | ⟨reply, rfl⟩ <;> exact listening.elim
  · rintro rfl
    rcases deaf with absurd | ⟨reply, absurd⟩ <;> cases absurd

/-- A refused call keeps its ticket, and waits on a signal it had enabled. -/
theorem refused (tickets : s.Tickets) (found : s.callers i = some caller)
    (going : ¬ caller.phase.Ended) (enabled : caller.phase.Enabled) (error : SpawnError) :
    (s.call i (caller.refused error)).Tickets := by
  rcases caller.refused_cases error with ⟨reply, eq⟩ | ⟨without, eq⟩ | ⟨-, -, eq⟩
  · rw [eq]
    exact tickets.call_deaf found going (.inr ⟨reply, rfl⟩)
  · rw [eq]
    exact tickets.call found rfl going id (fun _ _ listening => listening.elim) fun _ => without
  · rw [eq]
    exact tickets.call_enabled found enabled trivial

/-- The notification of a waiting producer is created anew and enabled. -/
theorem look (tickets : s.Tickets) (found : s.callers i = some caller)
    (phase : caller.phase = .entering) : (s.look i caller).Tickets := by
  have going : ¬ caller.phase.Ended := by
    rw [phase]
    exact id
  unfold Traffic.look
  split
  · rename_i without
    refine tickets.call found rfl going id (fun t own _ => ?_) nofun
    exact absurd (without.symm.trans own) (by simp)
  · rename_i ticket own
    let signals := Function.update s.signals ticket (s.signals ticket).create.enable
    have listens : (signals ticket).Listens := by
      simp only [signals, Function.update_self]
      exact Lone.Listens.of_enable (Lone.Watches.create _)
    have looked : { s with signals : Traffic }.Tickets := by
      refine tickets.frame rfl rfl fun t before => ?_
      by_cases here : t = ticket
      · rw [here]
        exact listens
      · simpa [signals, here] using before
    refine looked.call found rfl going id (fun t own' _ => ?_) nofun
    obtain rfl : ticket = t := Option.some.inj (own.symm.trans own')
    exact listens

/-- A new ticket joins behind every other. -/
theorem queue (tickets : s.Tickets) (inv : LaneRun.Inv config s.run)
    (found : s.callers i = some caller) (phase : caller.phase = .full) {lane : LaneState}
    {ticket : Nat} (ok : s.run.lane.newWaitingProducer config = (lane, .ok ticket)) :
    lane.waitingQueue = insert ticket s.run.lane.waitingQueue ∧
      (∀ t ∈ s.run.lane.waitingQueue, t < ticket) ∧
      ({ s with
        run := { s.run with lane, producers := insert ticket s.run.producers }
        signals := Function.update s.signals ticket .new }.call i
          { caller with ticket := some ticket, phase := .entering }).Tickets := by
  rcases LaneState.newWaitingProducer_cases config s.run.lane with ⟨_, _, eq, -⟩ | ⟨-, eq⟩
  · rw [eq] at ok
    cases ok
  rw [eq] at ok
  cases ok
  have newest := inv.lane.waiting_lt
  have without := tickets.full i caller found phase
  have other : ∀ {j : Nat} {old : SpawnCall} {t : Nat}, s.callers j = some old →
      old.ticket = some t → ¬ old.phase.Ended → t < s.run.lane.nextWaiterSequence := by
    intro j old t at_j own still
    exact newest t (tickets.live j old t at_j own still)
  refine ⟨rfl, newest, ?_⟩
  constructor
  · intro j next t at_j own still
    rcases Pool.of_set_eq_some at_j with ⟨-, rfl⟩ | ⟨-, old⟩
    · obtain rfl := Option.some.inj own
      exact Finset.mem_insert_self _ _
    · exact Finset.mem_insert_of_mem (tickets.live j next t old own still)
  · intro t member
    rcases Finset.mem_insert.1 member with rfl | earlier
    · exact ⟨i, _, Pool.set_self, rfl, id⟩
    · obtain ⟨j, old, at_j, own, still⟩ := tickets.owned t earlier
      refine ⟨j, old, (Pool.set_of_ne ?_).trans at_j, own, still⟩
      rintro rfl
      obtain rfl : caller = old := Option.some.inj (found.symm.trans at_j)
      exact absurd (without.symm.trans own) (by simp)
  · intro j k next next' t at_j at_k own own' still still'
    rcases Pool.of_set_eq_some at_j with ⟨rfl, rfl⟩ | ⟨-, old⟩ <;>
      rcases Pool.of_set_eq_some at_k with ⟨rfl, rfl⟩ | ⟨-, old'⟩
    · rfl
    · obtain rfl := Option.some.inj own
      exact absurd (other old' own' still') (lt_irrefl _)
    · obtain rfl := Option.some.inj own'
      exact absurd (other old own still) (lt_irrefl _)
    · exact tickets.apart j k next next' t old old' own own' still still'
  · intro j next t at_j own listening
    rcases Pool.of_set_eq_some at_j with ⟨-, rfl⟩ | ⟨-, old⟩
    · exact listening.elim
    · have still : ¬ next.phase.Ended := by
        cases at_ : next.phase <;> rw [at_] at listening <;>
          first | exact listening.elim | exact id
      have apart : t ≠ s.run.lane.nextWaiterSequence := (other old own still).ne
      have before := tickets.enabled j next t old own listening
      simpa [Traffic.call, apart] using before
  · intro j next at_j full
    rcases Pool.of_set_eq_some at_j with ⟨-, rfl⟩ | ⟨-, old⟩
    · cases full
    · exact tickets.full j next old full

/-- A call ends, and its ticket, if it has one, leaves the queue. -/
theorem finish (tickets : s.Tickets) (found : s.callers i = some caller)
    (going : ¬ caller.phase.Ended) {run : LaneRun} (reply : SpawnReply)
    (waiting : ∀ t, t ∈ run.lane.waitingQueue ↔
      t ∈ s.run.lane.waitingQueue ∧ caller.ticket ≠ some t) :
    ({ s with run }.call i (caller.moveTo (.ended reply))).Tickets := by
  constructor
  · intro j other t at_j own still
    rcases Pool.of_set_eq_some at_j with ⟨-, rfl⟩ | ⟨here, old⟩
    · exact (still trivial).elim
    · refine (waiting t).2 ⟨tickets.live j other t old own still, fun same => ?_⟩
      exact here (tickets.apart j i other caller t old found own same still going)
  · intro t member
    obtain ⟨earlier, apart⟩ := (waiting t).1 member
    obtain ⟨j, other, at_j, own, still⟩ := tickets.owned t earlier
    refine ⟨j, other, (Pool.set_of_ne ?_).trans at_j, own, still⟩
    rintro rfl
    obtain rfl : caller = other := Option.some.inj (found.symm.trans at_j)
    exact apart own
  · intro j k other other' t at_j at_k own own' still still'
    rcases Pool.of_set_eq_some at_j with ⟨-, rfl⟩ | ⟨-, old⟩
    · exact (still trivial).elim
    rcases Pool.of_set_eq_some at_k with ⟨-, rfl⟩ | ⟨-, old'⟩
    · exact (still' trivial).elim
    · exact tickets.apart j k other other' t old old' own own' still still'
  · intro j other t at_j own listening
    rcases Pool.of_set_eq_some at_j with ⟨-, rfl⟩ | ⟨-, old⟩
    · exact listening.elim
    · exact tickets.enabled j other t old own listening
  · intro j other at_j full
    rcases Pool.of_set_eq_some at_j with ⟨-, rfl⟩ | ⟨-, old⟩
    · cases full
    · exact tickets.full j other old full

theorem send (tickets : s.Tickets) (notice : Notice) : (s.send notice).Tickets := by
  cases notice with
  | signal ticket =>
    refine tickets.frame rfl rfl fun t before => ?_
    by_cases here : t = ticket
    · subst here
      simpa [Traffic.send] using before.notifyOne.1
    · simpa [Traffic.send, here] using before
  | readHead | readAll | workOne | workAll => exact tickets.frame rfl rfl fun _ before => before

/-- `remove_queued` leaves the producers alone. -/
theorem removeQueued (tickets : s.Tickets) (id : ExecutionId) : (s.removeQueued id).Tickets := by
  refine tickets.frame rfl ?_ fun _ before => before
  exact (LaneRun.removeQueued_fields s.run.lane id).2.2

/-- **Step lemma.** -/
theorem step (tickets : s.Tickets) (inv : LaneRun.Inv config s.run)
    (moved : Moved config s action s') : s'.Tickets := by
  have going : ∀ {caller : SpawnCall} {phase : SpawnPhase}, caller.phase = phase →
      ¬ phase.Ended → ¬ caller.phase.Ended := by
    rintro caller phase rfl still
    exact still
  cases moved with
  | @submitted i options waits fresh =>
    have other : ∀ {j : Nat} {old : SpawnCall}, s.callers j = some old → j ≠ i := by
      rintro j old at_j rfl
      exact absurd (fresh.symm.trans at_j) (by simp)
    constructor
    · intro j next t at_j own still
      rcases Pool.of_set_eq_some at_j with ⟨-, rfl⟩ | ⟨-, old⟩
      · cases own
      · exact tickets.live j next t old own still
    · intro t member
      obtain ⟨j, old, at_j, own, still⟩ := tickets.owned t member
      exact ⟨j, old, (Pool.set_of_ne (other at_j)).trans at_j, own, still⟩
    · intro j k next next' t at_j at_k own own' still still'
      rcases Pool.of_set_eq_some at_j with ⟨-, rfl⟩ | ⟨-, old⟩
      · cases own
      rcases Pool.of_set_eq_some at_k with ⟨-, rfl⟩ | ⟨-, old'⟩
      · cases own'
      · exact tickets.apart j k next next' t old old' own own' still still'
    · intro j next t at_j own listening
      rcases Pool.of_set_eq_some at_j with ⟨-, rfl⟩ | ⟨-, old⟩
      · cases own
      · exact tickets.enabled j next t old own listening
    · intro j next at_j full
      rcases Pool.of_set_eq_some at_j with ⟨-, rfl⟩ | ⟨-, old⟩
      · cases full
      · exact tickets.full j next old full
  | looked found phase => exact tickets.look found phase
  | refused found phase _ =>
    exact tickets.refused found (going phase id) (by rw [phase]; trivial) _
  | passed found phase _ => exact tickets.call_enabled found (by rw [phase]; trivial) trivial
  | unprepared found phase =>
    exact tickets.call_deaf found (going phase id) (.inr ⟨_, rfl⟩)
  | @unplaced i caller id error found phase fresh refused =>
    have issued :
        { s with run := { s.run with issued := insert id s.run.issued } : Traffic }.Tickets :=
      tickets.frame rfl rfl fun _ before => before
    exact issued.refused found (going phase fun h => h) (by rw [phase]; trivial) error
  | @placed i caller id lane found phase fresh ok =>
    have fields := (LaneState.Inserted.of_ok ok).eq
    have inserted : { s with
        run := { s.run with issued := insert id s.run.issued, lane } : Traffic }.Tickets :=
      tickets.frame rfl (by rw [fields]) fun _ before => before
    exact inserted.call_enabled found (by rw [phase]; trivial) trivial
  | @registered i caller id found phase =>
    have left : (s.call i (caller.moveTo (.leaving (some (.ok id))))).Tickets :=
      tickets.call_deaf found (going phase fun h => h) (.inr ⟨_, rfl⟩)
    exact left.frame rfl rfl fun _ before => before
  | unregistered found phase =>
    exact (tickets.removeQueued _).call_deaf found (going phase id) (.inr ⟨_, rfl⟩)
  | @unqueued i caller lane error found phase refused =>
    have same : { s with run := { s.run with lane } : Traffic }.Tickets := by
      refine tickets.frame rfl ?_ fun _ before => before
      rcases LaneState.newWaitingProducer_cases config s.run.lane with ⟨_, _, eq, -⟩ | ⟨-, eq⟩
      · rw [eq] at refused
        cases refused
        rfl
      · rw [eq] at refused
        cases refused
    exact same.call_deaf found (going phase id) (.inr ⟨_, rfl⟩)
  | queued found phase ok => exact (tickets.queue inv found phase ok).2.2
  | woken found phase _ _ => exact tickets.call_deaf found (going phase id) (.inl rfl)
  | gaveUp found phase =>
    refine tickets.call_deaf found ?_ (.inr ⟨_, rfl⟩)
    rcases phase with phase | phase | phase | phase <;> exact going phase id
  | dropped found phase => exact tickets.call_deaf found (going phase id) (.inr ⟨_, rfl⟩)
  | ended found phase without =>
    refine tickets.finish found (going phase id) _ fun t => ?_
    simp [without]
  | @finished i caller reply ticket run found phase own ran =>
    have live := tickets.live i caller ticket found own (going phase id)
    have erased := (inv.lane.finishWaitingProducer live).2.2
    have ended : ({ s with run }.call i (caller.moveTo (.ended reply))).Tickets := by
      refine tickets.finish found (going phase id) reply fun t => ?_
      simp only [LaneRun.step] at ran
      split at ran
      · obtain rfl := Option.some.inj ran
        simp only [erased, Finset.mem_erase, own, ne_eq, Option.some.injEq, eq_comm, and_comm]
      · cases ran
    exact ended.frame rfl rfl fun _ before => before
  | @sent notice member =>
    have rest : { s with unsent := s.unsent.erase notice : Traffic }.Tickets :=
      tickets.frame rfl rfl fun _ before => before
    exact rest.send notice
  | removed => exact tickets.removeQueued _
  | @completed id run ran =>
    refine tickets.frame rfl ?_ fun _ before => before
    simp only [LaneRun.step] at ran
    split at ran
    · obtain rfl := Option.some.inj ran
      exact (LaneRun.executionFinished_fields s.run.lane id).2.2.1
    · cases ran
  | took _ => exact tickets.frame rfl inv.lane.takeStartable.waitingQueue fun _ before => before
  | discarded _ | committed _ | closed | shutDown | watching | parked | resumed | launched
  | stopped | lost =>
    exact tickets.frame rfl rfl fun _ before => before

theorem of_reaches {ok : Traffic → TrafficAction → Prop}
    (reached : (traffic config).Reaches ok (traffic config).init s) : s.Tickets := by
  have both : s.Tickets ∧ LaneRun.Inv config s.run := by
    apply reached.invariant (I := fun s => s.Tickets ∧ LaneRun.Inv config s.run) ⟨new, .init⟩
    intro before after act both _ step
    have moved := Moved.of_step step
    refine ⟨both.1.step both.2 moved, ?_⟩
    rcases moved.run with same | ⟨_, ran⟩
    · rw [same]
      exact both.2
    · exact both.2.step ran
  exact both.1

end Tickets

/-! ## Where executions enter the lane -/

variable {config : LaneConfig} {s s' : Traffic} {action : TrafficAction} {id : ExecutionId}

/-- The caller is at the front of the line: every producer with a smaller ticket has ended,
and without a ticket every producer has. -/
structure InTurn (s : Traffic) (caller : SpawnCall) : Prop where
  front : ∀ t, caller.ticket = some t → firstWaiter s.run.lane.waitingQueue = some t
  empty : caller.ticket = none → s.run.lane.waitingQueue = ∅
  earlier : ∀ t, caller.ticket = some t → ∀ j other t', s.callers j = some other →
    other.ticket = some t' → t' < t → other.phase.Ended
  alone : caller.ticket = none → ∀ j other t', s.callers j = some other →
    other.ticket = some t' → other.phase.Ended

theorem InTurn.of_admissionError (tickets : s.Tickets) {caller : SpawnCall}
    (admitted : s.run.lane.admissionError config caller.ticket = none) : s.InTurn caller := by
  obtain ⟨front, empty⟩ := LaneState.turn_of_admissionError admitted
  refine ⟨front, empty, ?_, ?_⟩
  · intro t own j other t' at_j own' smaller
    by_contra going
    have member := tickets.live j other t' at_j own' going
    have least := (firstWaiter_eq_some.1 (front t own)).2 t' member
    omega
  · intro without j other t' at_j own'
    by_contra going
    have member := tickets.live j other t' at_j own' going
    rw [empty without] at member
    cases member

/-- Nothing but the locked section of `insert_prepared` adds to the queue. -/
theorem Moved.entries (moved : Moved config s action s') (queued : id ∈ s'.run.lane.entries)
    (absent : id ∉ s.run.lane.entries) (inv : LaneRun.Inv config s.run) :
    ∃ i caller, action = .prepare i (.ok id) ∧ s.callers i = some caller ∧
      s'.callers i = some (caller.moveTo (.registering id)) ∧
      s.run.lane.admissionError config caller.ticket = none := by
  cases moved with
  | @placed i caller new lane found phase fresh ok =>
    have inserted := LaneState.Inserted.of_ok ok
    have fields := inserted.eq
    change id ∈ lane.entries at queued
    rw [fields] at queued
    rcases (AList.mem_insert s.run.lane.entries).1 queued with rfl | earlier
    · exact ⟨i, caller, rfl, found, Pool.set_self, inserted.admitted⟩
    · exact (absent earlier).elim
  | @looked i caller found phase =>
    unfold look at queued
    split at queued <;> exact (absent queued).elim
  | @unregistered i caller other found phase =>
    exact (absent (((LaneRun.removeQueued_fields s.run.lane other).2.1 id).1 queued).1).elim
  | @unqueued i caller lane error found phase refused =>
    exact (absent ((LaneState.WaitingOnly.of_eq refused).entries ▸ queued)).elim
  | @queued i caller lane ticket found phase ok =>
    exact (absent ((LaneState.WaitingOnly.of_eq ok).entries ▸ queued)).elim
  | @finished i caller reply ticket run found phase own ran =>
    exact (absent ((LaneRun.Frame.finishWaitingProducer ran).entries id |>.1 queued)).elim
  | @sent notice member => cases notice <;> exact (absent queued).elim
  | @removed other =>
    exact (absent (((LaneRun.removeQueued_fields s.run.lane other).2.1 id).1 queued).1).elim
  | completed ran =>
    exact (absent ((LaneRun.Frame.executionFinished ran).entries id |>.1 queued)).elim
  | took _ => exact (absent ((inv.lane.takeStartable.entries id).1 queued).1).elim
  | stopped | lost => cases queued
  | _ => exact (absent queued).elim

/-- Waiting producers are served first come, first served, and nobody is served before
them. -/
structure Fifo (config : LaneConfig) (s : Traffic) : Prop where
  admitted : ∀ action s' id, s.step config action = some s' → id ∈ s'.run.lane.entries →
    id ∉ s.run.lane.entries →
    ∃ i caller, action = .prepare i (.ok id) ∧ s.callers i = some caller ∧
      s'.callers i = some (caller.moveTo (.registering id)) ∧ s.InTurn caller
  joined : ∀ i s' caller t, s.step config (.wait i) = some s' → s'.callers i = some caller →
    caller.ticket = some t → ∀ j other t', s.callers j = some other →
    other.ticket = some t' → ¬ other.phase.Ended → t' < t

end Traffic

/-- **No overtaking.**  An execution is admitted only by the producer at the front of the
waiter queue, or by a call without a ticket while the queue is empty, and tickets are given
out in order. -/
theorem fifo_producers {config : LaneConfig} {s : Traffic}
    (reached : (traffic config).Reachable s) : s.Fifo config := by
  have tickets := Traffic.Tickets.of_reaches reached
  have inv := Traffic.lane_inv reached
  constructor
  case admitted =>
    intro action s' id step queued absent
    obtain ⟨i, caller, act, found, moved, admitted⟩ :=
      (Traffic.Moved.of_step step).entries queued absent inv
    exact ⟨i, caller, act, found, moved, .of_admissionError tickets admitted⟩
  case joined =>
    intro i s' caller t step found own j other t' at_j own' going
    have member := tickets.live j other t' at_j own' going
    cases Traffic.Moved.of_step step with
    | @unqueued _ before lane error found' phase refused =>
      obtain rfl := Option.some.inj (Pool.set_self.symm.trans found)
      have without := tickets.full i before found' phase
      exact absurd (without.symm.trans own) (by simp)
    | queued found' phase ok =>
      obtain rfl := Option.some.inj (Pool.set_self.symm.trans found)
      obtain rfl := Option.some.inj own
      exact (tickets.queue inv found' phase ok).2.1 t' member

def singleFile : LaneConfig where
  capacity := 1
  concurrency := 1
  maxWaitingProducers := 3
  maxOrderingKeys := 1
  capacity_pos := Nat.one_pos
  concurrency_pos := Nat.one_pos
  concurrency_le := Checked.one_le_usizeMax
  maxWaitingProducers_le := Nat.le_of_ble_eq_true rfl

/-- Execution 100 fills the lane, and callers 1 and 2 wait for its place. -/
def lineUp : List TrafficAction :=
  [.submit 0 {} false, .look 0, .check 0, .prepare 0 (.ok 100), .register 0 (.ok ()), .finish 0,
    .submit 1 {} true, .look 1, .check 1, .wait 1, .look 1, .check 1,
    .submit 2 {} true, .look 2, .check 2, .wait 2, .look 2, .check 2, .send .workOne]

/-- Execution 100 is cancelled, and the front of the line looks again. -/
def moveUp : List TrafficAction :=
  [.removeQueued 100, .send .readHead, .send (.signal 0), .wake 1, .look 1, .check 1]

theorem fifo_producers_lineUp :
    ∃ s, (traffic singleFile).exec (traffic singleFile).init (lineUp ++ moveUp) = some s ∧
      s.run.lane.waitingQueue = {0, 1} ∧
      ((s.step singleFile (.prepare 1 (.ok 101))).map fun s' => s'.run.lane.queue) =
        some [101] ∧ s.Fifo singleFile := by
  have ends : ((traffic singleFile).exec (traffic singleFile).init (lineUp ++ moveUp)).map
      (fun s => (s.run.lane.waitingQueue,
        (s.step singleFile (.prepare 1 (.ok 101))).map fun s' => s'.run.lane.queue)) =
      some ({0, 1}, some [101]) := by decide +kernel
  obtain ⟨s, run, facts⟩ := Option.map_eq_some_iff.1 ends
  simp only [Prod.mk.injEq] at facts
  exact ⟨s, run, facts.1, facts.2, fifo_producers (System.Reaches.of_schedule _ run)⟩

end BusyBeaver
