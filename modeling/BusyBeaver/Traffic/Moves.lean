import BusyBeaver.Traffic.State
import BusyBeaver.Lane.Dispatches

/-!
# What a step of the traffic can do

`Traffic.Moved` lists every branch of a step once, with its guards.  Every step is a section
of the lane, or leaves the lane alone, so the accounting of the lane holds in all traffic.
-/

namespace BusyBeaver

open Transition Wakeup

namespace LaneState

variable {config : LaneConfig} {state : LaneState} {id : ExecutionId} {options : SpawnOptions}
variable {ticket : Option Nat} {error : SpawnError}

/-- What `admissionError` says when it answers `QueueFull`. -/
structure Crowded (config : LaneConfig) (state : LaneState) (ticket : Option Nat) : Prop where
  available : state.runtimeUnavailable = false
  opened : state.closing = false
  full : ∀ t, ticket = some t → firstWaiter state.waitingQueue = some t →
    config.capacity ≤ state.entries.size

theorem Crowded.of_admissionError
    (refused : state.admissionError config ticket = some .queueFull) :
    Crowded config state ticket := by
  unfold admissionError at refused
  split at refused
  · cases refused
  rename_i available
  rw [Bool.not_eq_true] at available
  split at refused
  · cases refused
  rename_i opened
  rw [Bool.not_eq_true] at opened
  split at refused
  · rename_i full
    exact ⟨available, opened, fun _ _ _ => full⟩
  cases ticket with
  | none => exact ⟨available, opened, fun _ absurd => by cases absurd⟩
  | some t =>
    refine ⟨available, opened, fun t' same head => ?_⟩
    obtain rfl := Option.some.inj same
    simp [head] at refused

theorem Crowded.of_insertPrepared
    (refused : state.insertPrepared config id options ticket = .error .queueFull) :
    Crowded config state ticket := by
  unfold insertPrepared at refused
  split at refused
  · rename_i error found
    obtain rfl := Except.error.inj refused
    exact .of_admissionError found
  split at refused
  · rename_i error key
    obtain rfl := Except.error.inj refused
    unfold nextKeyRefcount at key
    split at key
    · cases key
    split at key
    · split at key <;> cases key
    · split at key <;> cases key
  · split at refused <;> cases refused

/-- Who is admitted: the front of the waiter queue, or anybody when it is empty. -/
theorem turn_of_admissionError (admitted : state.admissionError config ticket = none) :
    (∀ t, ticket = some t → firstWaiter state.waitingQueue = some t) ∧
      (ticket = none → state.waitingQueue = ∅) := by
  unfold admissionError at admitted
  split at admitted
  · cases admitted
  split at admitted
  · cases admitted
  split at admitted
  · cases admitted
  cases ticket with
  | none =>
    refine ⟨(by intro _ absurd; cases absurd), fun _ => ?_⟩
    simpa using admitted
  | some t =>
    refine ⟨fun t' same => ?_, fun absurd => by cases absurd⟩
    obtain rfl := Option.some.inj same
    by_contra other
    simp [other] at admitted

theorem WaitingOnly.of_eq {lane : LaneState} {answer : Except SpawnError Nat}
    (eq : state.newWaitingProducer config = (lane, answer)) : WaitingOnly state lane := by
  have only : WaitingOnly state (state.newWaitingProducer config).1 := .newWaitingProducer
  rw [eq] at only
  exact only

end LaneState

namespace SpawnCall

variable {caller : SpawnCall} {error : SpawnError}

@[simp] theorem moveTo_ticket (phase : SpawnPhase) : (caller.moveTo phase).ticket = caller.ticket :=
  rfl

@[simp] theorem moveTo_phase (phase : SpawnPhase) : (caller.moveTo phase).phase = phase := rfl

@[simp] theorem refused_ticket : (caller.refused error).ticket = caller.ticket := by
  unfold refused
  split
  · split
    · split <;> rfl
    · rfl
  · rfl

/-- A refused call leaves, takes a ticket, or parks with the one it has. -/
theorem refused_cases (caller : SpawnCall) (error : SpawnError) :
    (∃ reply, caller.refused error = caller.moveTo (.leaving reply)) ∨
      (caller.ticket = none ∧ caller.refused error = caller.moveTo .full) ∨
      (error = .queueFull ∧ (∃ t, caller.ticket = some t) ∧
        caller.refused error = caller.moveTo .parked) := by
  unfold refused
  split
  · split
    · split
      · rename_i none_
        exact .inr (.inl ⟨none_, rfl⟩)
      · rename_i t some_
        exact .inr (.inr ⟨rfl, ⟨t, some_⟩, rfl⟩)
    · exact .inl ⟨_, rfl⟩
  · exact .inl ⟨_, rfl⟩

end SpawnCall

namespace Traffic

/-- `s` moves to `s'`: one constructor for each branch, with what the branch checks. -/
inductive Moved (config : LaneConfig) (s : Traffic) : TrafficAction → Traffic → Prop
  | submitted {i : Nat} {options : SpawnOptions} {waits : Bool} (fresh : s.callers i = none) :
    Moved config s (.submit i options waits) (s.call i (.enter options waits))
  | looked {i : Nat} {caller : SpawnCall} (found : s.callers i = some caller)
    (phase : caller.phase = .entering) : Moved config s (.look i) (s.look i caller)
  | refused {i : Nat} {caller : SpawnCall} {error : SpawnError} (found : s.callers i = some caller)
    (phase : caller.phase = .calling)
    (refused : s.admissionError config caller.ticket = some error) :
    Moved config s (.check i) (s.call i (caller.refused error))
  | passed {i : Nat} {caller : SpawnCall} (found : s.callers i = some caller)
    (phase : caller.phase = .calling)
    (admitted : s.admissionError config caller.ticket = none) :
    Moved config s (.check i) (s.call i (caller.moveTo .preparing))
  | unprepared {i : Nat} {caller : SpawnCall} {resource : String}
    (found : s.callers i = some caller) (phase : caller.phase = .preparing) :
    Moved config s (.prepare i (.error resource))
      (s.call i (caller.moveTo (.leaving (some (.error (.internal resource))))))
  | unplaced {i : Nat} {caller : SpawnCall} {id : ExecutionId} {error : SpawnError}
    (found : s.callers i = some caller) (phase : caller.phase = .preparing)
    (fresh : id ∉ s.run.issued)
    (refused : s.run.lane.insertPrepared config id caller.options caller.ticket = .error error) :
    Moved config s (.prepare i (.ok id))
      ({ s with run := { s.run with issued := insert id s.run.issued } }.call i
        (caller.refused error))
  | placed {i : Nat} {caller : SpawnCall} {id : ExecutionId} {lane : LaneState}
    (found : s.callers i = some caller) (phase : caller.phase = .preparing)
    (fresh : id ∉ s.run.issued)
    (ok : s.run.lane.insertPrepared config id caller.options caller.ticket = .ok lane) :
    Moved config s (.prepare i (.ok id))
      ({ s with run := { s.run with issued := insert id s.run.issued, lane } }.call i
        (caller.moveTo (.registering id)))
  | registered {i : Nat} {caller : SpawnCall} {id : ExecutionId}
    (found : s.callers i = some caller) (phase : caller.phase = .registering id) :
    Moved config s (.register i (.ok ()))
      ((s.call i (caller.moveTo (.leaving (some (.ok id))))).post [.workOne])
  | unregistered {i : Nat} {caller : SpawnCall} {id : ExecutionId} {resource : String}
    (found : s.callers i = some caller) (phase : caller.phase = .registering id) :
    Moved config s (.register i (.error resource))
      ((s.removeQueued id).call i (caller.moveTo (.leaving (some (.error (.internal resource))))))
  | unqueued {i : Nat} {caller : SpawnCall} {lane : LaneState} {error : SpawnError}
    (found : s.callers i = some caller) (phase : caller.phase = .full)
    (refused : s.run.lane.newWaitingProducer config = (lane, .error error)) :
    Moved config s (.wait i)
      ({ s with run := { s.run with lane } }.call i
        (caller.moveTo (.leaving (some (.error error)))))
  | queued {i : Nat} {caller : SpawnCall} {lane : LaneState} {ticket : Nat}
    (found : s.callers i = some caller) (phase : caller.phase = .full)
    (ok : s.run.lane.newWaitingProducer config = (lane, .ok ticket)) :
    Moved config s (.wait i)
      ({ s with
        run := { s.run with lane, producers := insert ticket s.run.producers }
        signals := Function.update s.signals ticket .new }.call i
          { caller with ticket := some ticket, phase := .entering })
  | woken {i : Nat} {caller : SpawnCall} {ticket : Nat} (found : s.callers i = some caller)
    (phase : caller.phase = .parked) (own : caller.ticket = some ticket)
    (ready : (s.signals ticket).ready = true) :
    Moved config s (.wake i) (s.call i (caller.moveTo .entering))
  | gaveUp {i : Nat} {caller : SpawnCall} {error : SpawnError} (found : s.callers i = some caller)
    (phase : caller.phase = .entering ∨ caller.phase = .calling ∨ caller.phase = .preparing ∨
      caller.phase = .parked) :
    Moved config s (.giveUp i error) (s.call i (caller.moveTo (.leaving (some (.error error)))))
  | dropped {i : Nat} {caller : SpawnCall} (found : s.callers i = some caller)
    (phase : caller.phase = .parked) :
    Moved config s (.drop i) (s.call i (caller.moveTo (.leaving none)))
  | ended {i : Nat} {caller : SpawnCall} {reply : SpawnReply} (found : s.callers i = some caller)
    (phase : caller.phase = .leaving reply) (without : caller.ticket = none) :
    Moved config s (.finish i) (s.call i (caller.moveTo (.ended reply)))
  | finished {i : Nat} {caller : SpawnCall} {reply : SpawnReply} {ticket : Nat} {run : LaneRun}
    (found : s.callers i = some caller) (phase : caller.phase = .leaving reply)
    (own : caller.ticket = some ticket)
    (ran : s.run.step config (.finishWaitingProducer ticket) = some run) :
    Moved config s (.finish i)
      (({ s with run }.call i (caller.moveTo (.ended reply))).post
        ((s.run.lane.finishWaitingProducer config ticket).2.nextSignal.toList.map Notice.signal))
  | sent {notice : Notice} (member : notice ∈ s.unsent) :
    Moved config s (.send notice) ({ s with unsent := s.unsent.erase notice }.send notice)
  | removed {id : ExecutionId} : Moved config s (.removeQueued id) (s.removeQueued id)
  | discarded {id : ExecutionId} (member : id ∈ s.dropping) :
    Moved config s (.dropStart id)
      { s with dropping := s.dropping.erase id, exits := insert id s.exits }
  | committed {id : ExecutionId} (member : id ∈ s.run.monitors) :
    Moved config s (.commit id) { s with exits := insert id s.exits }
  | completed {id : ExecutionId} {run : LaneRun}
    (ran : s.run.step config (.executionFinished id) = some run) :
    Moved config s (.executionFinished id)
      ({ s with run, exits := insert id s.exits }.post [.workOne])
  | closed : Moved config s .requestClose
      ({ s with run := { s.run with lane := s.run.lane.requestClose } }.post [.workAll, .readAll])
  | shutDown : Moved config s .shutDown { s with admissionOpen := false }
  | watching (phase : s.dispatcher = .looping) :
    Moved config s .watch
      { s with workChanged := s.workChanged.create, dispatcher := .watching }
  | took (phase : s.dispatcher = .watching) :
    Moved config s .takeStartable (s.takeStartable config)
  | parked (phase : s.dispatcher = .idle) :
    Moved config s .park { s with workChanged := s.workChanged.enable, dispatcher := .parked }
  | resumed (phase : s.dispatcher = .parked) (ready : s.workChanged.ready = true) :
    Moved config s .resume { s with workChanged := s.workChanged.take, dispatcher := .looping }
  | launched (phase : s.dispatcher = .launching) :
    Moved config s .launched { s with dispatcher := .looping }
  | stopped (phase : s.dispatcher = .exiting) : Moved config s .stop s.stop
  | lost (phase : s.dispatcher = .looping ∨ s.dispatcher = .parked) :
    Moved config s .lose s.stop

variable {config : LaneConfig} {s s' : Traffic} {action : TrafficAction}

theorem Moved.of_check {i : Nat} {caller : SpawnCall} (found : s.callers i = some caller)
    (phase : caller.phase = .calling) : Moved config s (.check i) (s.check config i caller) := by
  unfold Traffic.check
  split
  · rename_i error refused
    exact .refused found phase refused
  · rename_i admitted
    exact .passed found phase admitted

theorem Moved.of_prepare {i : Nat} {caller : SpawnCall} {result : Except String ExecutionId}
    (found : s.callers i = some caller) (phase : caller.phase = .preparing)
    (step : s.prepare config i caller result = some s') :
    Moved config s (.prepare i result) s' := by
  cases result with
  | error resource =>
    obtain rfl := Option.some.inj step
    exact .unprepared found phase
  | ok id =>
    simp only [Traffic.prepare] at step
    split at step
    · cases step
    rename_i fresh
    split at step
    · rename_i error refused
      obtain rfl := Option.some.inj step
      exact .unplaced found phase fresh refused
    · rename_i lane ok
      obtain rfl := Option.some.inj step
      exact .placed found phase fresh ok

theorem Moved.of_register {i : Nat} {caller : SpawnCall} {id : ExecutionId}
    (found : s.callers i = some caller) (phase : caller.phase = .registering id)
    (result : Except String Unit) :
    Moved config s (.register i result) (s.register i caller id result) := by
  cases result with
  | ok _ => exact .registered found phase
  | error resource => exact .unregistered found phase

theorem Moved.of_wait {i : Nat} {caller : SpawnCall} (found : s.callers i = some caller)
    (phase : caller.phase = .full) : Moved config s (.wait i) (s.wait config i caller) := by
  unfold Traffic.wait
  split
  · rename_i lane error refused
    exact .unqueued found phase refused
  · rename_i lane ticket ok
    exact .queued found phase ok

theorem Moved.of_finish {i : Nat} {caller : SpawnCall} {reply : SpawnReply}
    (found : s.callers i = some caller) (phase : caller.phase = .leaving reply)
    (step : s.finish config i caller reply = some s') : Moved config s (.finish i) s' := by
  unfold Traffic.finish at step
  split at step
  · rename_i without
    obtain rfl := Option.some.inj step
    exact .ended found phase without
  · rename_i ticket own
    obtain ⟨run, ran, rfl⟩ := Option.map_eq_some_iff.1 step
    exact .finished found phase own ran

/-- The steps of a caller. -/
theorem Moved.of_caller {i : Nat} {f : SpawnCall → Option Traffic}
    (step : (s.callers i).bind f = some s')
    (each : ∀ caller, s.callers i = some caller → f caller = some s' →
      Moved config s action s') : Moved config s action s' := by
  obtain ⟨caller, found, step⟩ := Option.bind_eq_some_iff.1 step
  exact each caller found step

theorem Moved.of_step (step : s.step config action = some s') : Moved config s action s' := by
  cases action with
  | submit i options waits =>
    simp only [Traffic.step] at step
    split at step
    · rename_i fresh
      obtain rfl := Option.some.inj step
      exact .submitted fresh
    · cases step
  | look i =>
    refine Moved.of_caller step fun caller found step => ?_
    split at step
    · rename_i phase
      obtain rfl := Option.some.inj step
      exact .looked found phase
    · cases step
  | check i =>
    refine Moved.of_caller step fun caller found step => ?_
    split at step
    · rename_i phase
      obtain rfl := Option.some.inj step
      exact .of_check found phase
    · cases step
  | prepare i result =>
    refine Moved.of_caller step fun caller found step => ?_
    split at step
    · rename_i phase
      exact .of_prepare found phase step
    · cases step
  | register i result =>
    refine Moved.of_caller step fun caller found step => ?_
    split at step
    · rename_i id phase
      obtain rfl := Option.some.inj step
      exact .of_register found phase result
    · cases step
  | wait i =>
    refine Moved.of_caller step fun caller found step => ?_
    split at step
    · rename_i phase
      obtain rfl := Option.some.inj step
      exact .of_wait found phase
    · cases step
  | wake i =>
    refine Moved.of_caller step fun caller found step => ?_
    split at step
    · rename_i ticket phase own
      split at step
      · rename_i ready
        obtain rfl := Option.some.inj step
        exact .woken found phase own ready
      · cases step
    · cases step
  | giveUp i error =>
    refine Moved.of_caller step fun caller found step => ?_
    split at step
    · cases phase : caller.phase <;> simp only [phase] at step
      case entering | calling | preparing | parked =>
        obtain rfl := Option.some.inj step
        exact .gaveUp found (by simp [phase])
      all_goals cases step
    · cases step
  | drop i =>
    refine Moved.of_caller step fun caller found step => ?_
    split at step
    · rename_i phase
      obtain rfl := Option.some.inj step
      exact .dropped found phase
    · cases step
  | finish i =>
    refine Moved.of_caller step fun caller found step => ?_
    split at step
    · rename_i reply phase
      exact .of_finish found phase step
    · cases step
  | send notice =>
    simp only [Traffic.step] at step
    split at step
    · rename_i member
      obtain rfl := Option.some.inj step
      exact .sent member
    · cases step
  | removeQueued id =>
    obtain rfl := Option.some.inj step
    exact .removed
  | dropStart id =>
    obtain ⟨member, eq⟩ := Option.ite_none_right_eq_some.1 step
    obtain rfl := Option.some.inj eq
    exact .discarded member
  | commit id =>
    obtain ⟨member, eq⟩ := Option.ite_none_right_eq_some.1 step
    obtain rfl := Option.some.inj eq
    exact .committed member
  | executionFinished id =>
    obtain ⟨run, ran, rfl⟩ := Option.map_eq_some_iff.1 step
    exact .completed ran
  | requestClose =>
    obtain rfl := Option.some.inj step
    exact .closed
  | shutDown =>
    obtain rfl := Option.some.inj step
    exact .shutDown
  | lose =>
    simp only [Traffic.step] at step
    split at step
    · rename_i phase
      obtain rfl := Option.some.inj step
      exact .lost (.inl phase)
    · rename_i phase
      obtain rfl := Option.some.inj step
      exact .lost (.inr phase)
    · cases step
  | resume =>
    simp only [Traffic.step] at step
    split at step
    · rename_i phase
      split at step
      · rename_i ready
        obtain rfl := Option.some.inj step
        exact .resumed phase ready
      · cases step
    · cases step
  | watch | takeStartable | park | launched | stop =>
    simp only [Traffic.step] at step
    split at step
    · rename_i phase
      obtain rfl := Option.some.inj step
      first
        | exact .watching phase
        | exact .took phase
        | exact .parked phase
        | exact .launched phase
        | exact .stopped phase
    · cases step

/-! ## The lane under the traffic -/

/-- Every step is one section of the lane, or none. -/
theorem Moved.run (moved : Moved config s action s') :
    s'.run = s.run ∨ ∃ act, s.run.step config act = some s'.run := by
  cases moved with
  | @unplaced i caller id error found phase fresh refused =>
    refine .inr ⟨.insertPrepared id caller.options caller.ticket, ?_⟩
    simp [LaneRun.step, fresh, refused, call]
  | @placed i caller id lane found phase fresh ok =>
    refine .inr ⟨.insertPrepared id caller.options caller.ticket, ?_⟩
    simp [LaneRun.step, fresh, ok, call]
  | @unregistered i caller id => exact .inr ⟨.removeQueued id, rfl⟩
  | @unqueued i caller lane error found phase refused =>
    refine .inr ⟨.newWaitingProducer, ?_⟩
    simp [LaneRun.step, refused, call]
  | @queued i caller lane ticket found phase ok =>
    refine .inr ⟨.newWaitingProducer, ?_⟩
    simp [LaneRun.step, ok, call]
  | finished found phase own ran => exact .inr ⟨_, ran⟩
  | @sent notice member =>
    refine .inl ?_
    cases notice <;> rfl
  | @removed id => exact .inr ⟨.removeQueued id, rfl⟩
  | completed ran => exact .inr ⟨_, ran⟩
  | closed => exact .inr ⟨.requestClose, rfl⟩
  | took => exact .inr ⟨.takeStartable, rfl⟩
  | stopped | lost => exact .inr ⟨.dispatcherStopped, rfl⟩
  | @looked i caller found phase =>
    refine .inl ?_
    unfold look
    split <;> rfl
  | _ => exact .inl rfl

/-- The lane of every traffic is a run of the lane. -/
theorem lane_reachable {ok : Traffic → TrafficAction → Prop}
    (reached : (traffic config).Reaches ok (traffic config).init s) :
    (laneSystem config).Reachable s.run := by
  refine reached.map (f := Traffic.run) fun _ _ step => ?_
  rcases (Moved.of_step step).run with same | ⟨act, ran⟩
  · rw [same]
    exact .refl
  · exact .single trivial ran

theorem lane_inv {ok : Traffic → TrafficAction → Prop}
    (reached : (traffic config).Reaches ok (traffic config).init s) :
    LaneRun.Inv config s.run :=
  .of_reachable (lane_reachable reached)

end Traffic

end BusyBeaver
