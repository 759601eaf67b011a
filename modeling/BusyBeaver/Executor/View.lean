import BusyBeaver.Executor.Moves

/-!
# The executor seen from one execution

`Executor.Coupled` ties every execution to its lane.  Under it a step of the
executor leaves the view of an execution alone, creates it, or moves it by one
`Moved` (`Executor.Coupled.step`), so an invariant of every view needs one case for
each move and not one for each action (`Executor.view_invariant`).
-/

namespace BusyBeaver

open Transition Execution

/-- An execution with its place in the registry, its records and its events. -/
structure View : Type where
  execution : Execution
  active : Bool
  finishes : Nat
  events : List EventKind

/-- The view after its execution moved to `y`. -/
def View.after (v : View) (y : Execution) : Effect → View
  | .silent => { v with execution := y }
  | .enter => { v with execution := y, active := true }
  | .leave => { v with execution := y, active := false }
  | .record => { v with execution := y, finishes := v.finishes + 1 }
  | .announce kind => { v with execution := y, events := v.events ++ [kind] }

@[simp] theorem View.after_execution (v : View) (y : Execution) (effect : Effect) :
    (v.after y effect).execution = y := by
  cases effect <;> rfl

/-- The view of an execution that was just created. -/
inductive View.Fresh : View → Prop
  | submitted (lane : LaneId) (options : SpawnOptions) (ticket : Option Nat) (tagTooLong : Bool) :
    Fresh ⟨.submitted lane options ticket tagTooLong, false, 0, []⟩
  | direct (tagTooLong : Bool) : Fresh ⟨.direct tagTooLong, false, 0, []⟩

/-- `action`, taken in `s`, moves execution `i` in the way the label names. -/
def Label.Of (config : ExecutorConfig) (s : Executor) (action : ExecutorAction)
    (i : ExecutionId) : Label → Prop
  | .admission refused => action = .advanceAdmission i ∧
    ∃ x, s.executions i = some x ∧ refused = s.refusal config x
  | .start => action = .start i
  | .run => action = .run i
  | .unwind => action = .unwind i
  | .body => action = .loseRunner i ∨ ∃ exit, action = .finishBody i exit
  | .report => ∃ next, action = .report i next
  | .loadReport => action = .loadReport i
  | .sendReport => action = .sendReport i
  | .requestStop => ∃ cause, action = .requestStop i cause
  | .stop => action = .advanceStop i
  | .take => ∃ lane, action = .dispatch lane ∧
    i ∈ ((s.lanes lane).lane.takeStartable (config.lanes lane)).starts
  | .drain => ∃ lane, action = .dispatcherStopped lane

namespace Executor

/-- The events of one execution, in the order the subscriber received them. -/
def eventsOf (s : Executor) (id : ExecutionId) : List EventKind :=
  (s.events.filter fun event => event.1 == id).map Prod.snd

def view (s : Executor) (id : ExecutionId) : Option View :=
  (s.executions id).map fun x =>
    ⟨x, decide (id ∈ s.active), s.finishes.count id, s.eventsOf id⟩

variable {config : ExecutorConfig} {s t : Executor} {i j : ExecutionId} {x y : Execution}
  {effect : Effect}

theorem view_eq_some {v : View} : s.view i = some v ↔
    s.executions i = some v.execution ∧ v.active = decide (i ∈ s.active) ∧
      v.finishes = s.finishes.count i ∧ v.events = s.eventsOf i := by
  unfold view
  rcases v with ⟨execution, active, finishes, events⟩
  cases s.executions i with
  | none => simp
  | some x =>
    simp only [Option.map_some, Option.some.injEq, View.mk.injEq]
    constructor
    · intro ⟨same, a, f, e⟩
      exact ⟨same, a.symm, f.symm, e.symm⟩
    · intro ⟨same, a, f, e⟩
      exact ⟨same, a.symm, f.symm, e.symm⟩

/-! ## `put` -/

@[simp] theorem put_executions (moved : Execution × Effect) :
    (s.put i moved).executions = s.executions.set i moved.1 := by
  rcases moved with ⟨x, _ | _ | _ | _ | _⟩ <;> rfl

@[simp] theorem put_lanes (moved : Execution × Effect) : (s.put i moved).lanes = s.lanes := by
  rcases moved with ⟨x, _ | _ | _ | _ | _⟩ <;> rfl

/-- Nothing in the registry, the records or the events is about `i`'s step. -/
structure Untraced (s t : Executor) (i : ExecutionId) : Prop where
  active : i ∈ t.active ↔ i ∈ s.active
  finishes : t.finishes.count i = s.finishes.count i
  events : t.eventsOf i = s.eventsOf i

theorem Untraced.view (untraced : Untraced s t i) (same : t.executions i = s.executions i) :
    t.view i = s.view i := by
  unfold Executor.view
  rw [same, untraced.finishes, untraced.events, decide_eq_decide.2 untraced.active]

theorem put_untraced (other : j ≠ i) (moved : Execution × Effect) :
    Untraced s (s.put i moved) j := by
  have apart : ¬ i = j := fun same => other same.symm
  constructor
  · rcases moved with ⟨y, _ | _ | _ | _ | _⟩ <;> simp [put, other]
  · rcases moved with ⟨y, _ | _ | _ | _ | _⟩ <;> simp [put, List.count_append, apart]
  · rcases moved with ⟨y, _ | _ | _ | _ | _⟩ <;> simp [put, eventsOf, apart]

theorem put_view_self (i : ExecutionId) (x y : Execution) (effect : Effect) :
    (s.put i (y, effect)).view i =
      some ((View.mk x (decide (i ∈ s.active)) (s.finishes.count i) (s.eventsOf i)).after y
        effect) := by
  rw [view_eq_some, put_executions, Pool.set_self, View.after_execution]
  refine ⟨rfl, ?_, ?_, ?_⟩
  · cases effect with
    | enter => simp [put, View.after]
    | leave => simp [put, View.after]
    | _ => rfl
  · cases effect with
    | record => simp [put, View.after]
    | _ => rfl
  · cases effect with
    | announce kind => simp [put, View.after, eventsOf]
    | _ => rfl

/-! ## Executions and their lanes -/

/-- The lane's bookkeeping is about the executions that say they are in it. -/
structure Agrees (executions : Pool Execution) (lane : LaneId) (run : LaneRun) : Prop where
  entries : ∀ i, i ∈ run.lane.entries ↔
    ∃ x, executions i = some x ∧ x.lane = some lane ∧ x.runner = .queued
  issued : ∀ i ∈ run.issued,
    ∃ x, executions i = some x ∧ x.lane = some lane ∧ x.admission ≠ .inserting
  monitors : ∀ i ∈ run.monitors, ∃ x, executions i = some x ∧ x.dispatched = true

/-- Every execution agrees with its lane, and only created ones leave traces. -/
structure Coupled (config : ExecutorConfig) (s : Executor) : Prop where
  lanes : ∀ lane, (laneSystem (config.lanes lane)).Reachable (s.lanes lane)
  agrees : ∀ lane, Agrees s.executions lane (s.lanes lane)
  sound : ∀ i x, s.executions i = some x → x.Sound
  unborn : ∀ i, s.executions i = none →
    i ∉ s.active ∧ s.finishes.count i = 0 ∧ s.eventsOf i = []

theorem Coupled.init : Coupled config (executor config).init where
  lanes _ := .refl
  agrees _ := {
    entries := fun _ => by simp [executor, LaneState.new]
    issued := fun _ absurd => by cases absurd
    monitors := fun _ absurd => by cases absurd }
  sound _ _ absurd := by cases absurd
  unborn _ _ := ⟨by simp [executor], rfl, rfl⟩

theorem Coupled.laneInv (coupled : s.Coupled config) (lane : LaneId) :
    (s.lanes lane).Inv (config.lanes lane) :=
  LaneRun.Inv.of_reachable (coupled.lanes lane)

section Agrees

variable {executions : Pool Execution} {lane : LaneId} {run after : LaneRun} {label : Label}

theorem Agrees.entries_self (agrees : Agrees executions lane run) (found : executions i = some x) :
    i ∈ run.lane.entries ↔ x.lane = some lane ∧ x.runner = .queued := by
  rw [agrees.entries i, found]
  simp

theorem Agrees.frame (agrees : Agrees executions lane run) (frame : run.Frame after) :
    Agrees executions lane after where
  entries i := (frame.entries i).trans (agrees.entries i)
  issued i member := agrees.issued i (frame.issued ▸ member)
  monitors i member := agrees.monitors i (frame.monitors i member)

/-- A created execution is in no lane yet. -/
theorem Agrees.create (agrees : Agrees executions lane run) (fresh : executions i = none)
    (unqueued : x.runner ≠ .queued) : Agrees (executions.set i x) lane run := by
  have other : ∀ {j y}, executions j = some y → executions.set i x j = some y := by
    intro j y found
    rw [Pool.set_of_ne, found]
    intro same
    rw [same, fresh] at found
    cases found
  constructor
  case entries =>
    intro j
    rw [agrees.entries j]
    constructor
    · intro ⟨y, found, place⟩
      exact ⟨y, other found, place⟩
    · intro ⟨y, found, place⟩
      rcases Pool.of_set_eq_some found with ⟨_, same⟩ | ⟨_, found⟩
      · exact (unqueued (same ▸ place.2)).elim
      · exact ⟨y, found, place⟩
  case issued =>
    intro j member
    obtain ⟨y, found, place⟩ := agrees.issued j member
    exact ⟨y, other found, place⟩
  case monitors =>
    intro j member
    obtain ⟨y, found, place⟩ := agrees.monitors j member
    exact ⟨y, other found, place⟩

/-- One execution moves, and the lane's place for it with it. -/
theorem Agrees.move (agrees : Agrees executions lane run) (found : executions i = some x)
    (moved : x.Moved label effect y)
    (own : i ∈ after.lane.entries ↔ x.lane = some lane ∧ y.runner = .queued)
    (others : ∀ j, j ≠ i → (j ∈ after.lane.entries ↔ j ∈ run.lane.entries))
    (issued : ∀ j ∈ after.issued, j ∈ run.issued ∨
      j = i ∧ x.lane = some lane ∧ y.admission ≠ .inserting)
    (monitors : ∀ j ∈ after.monitors, j ∈ run.monitors) :
    Agrees (executions.set i y) lane after := by
  constructor
  case entries =>
    intro j
    by_cases here : j = i
    · subst here
      rw [own, Pool.set_self, moved.lane.symm]
      simp
    · rw [others j here, agrees.entries j, Pool.set_of_ne here]
  case issued =>
    intro j member
    rcases issued j member with earlier | ⟨here, place, inserted⟩
    · obtain ⟨z, at_, place, inserted⟩ := agrees.issued j earlier
      by_cases here : j = i
      · subst here
        cases found.symm.trans at_
        exact ⟨y, Pool.set_self, moved.lane.trans place, moved.inserted inserted⟩
      · exact ⟨z, by rw [Pool.set_of_ne here, at_], place, inserted⟩
    · subst here
      exact ⟨y, Pool.set_self, moved.lane.trans place, inserted⟩
  case monitors =>
    intro j member
    obtain ⟨z, at_, dispatched⟩ := agrees.monitors j (monitors j member)
    by_cases here : j = i
    · subst here
      cases found.symm.trans at_
      exact ⟨y, Pool.set_self, moved.dispatched dispatched⟩
    · exact ⟨z, by rw [Pool.set_of_ne here, at_], dispatched⟩

/-- The same when the lane does not change. -/
theorem Agrees.keep (agrees : Agrees executions lane run) (found : executions i = some x)
    (moved : x.Moved label effect y) (queued : y.runner = .queued ↔ x.runner = .queued) :
    Agrees (executions.set i y) lane run := by
  refine agrees.move found moved ?_ (fun _ _ => Iff.rfl) (fun _ member => .inl member)
    fun _ member => member
  rw [agrees.entries_self found, queued]

end Agrees

/-! ## One step, seen from every execution -/

/-- What a step does to execution `i`. -/
inductive Change (config : ExecutorConfig) (s : Executor) (action : ExecutorAction)
    (t : Executor) (i : ExecutionId) : Prop
  | same : t.executions i = s.executions i → Untraced s t i → Change config s action t i
  | created {v : View} : v.Fresh → action.creates = some i → s.executions i = none →
    t.view i = some v → Change config s action t i
  | moved {v : View} {label : Label} {effect : Effect} {y : Execution} : s.view i = some v →
    v.execution.Moved label effect y → label.Of config s action i →
    t.view i = some (v.after y effect) → Change config s action t i

/-- A step keeps the coupling and changes every execution in one of the three ways. -/
def Follows (config : ExecutorConfig) (s : Executor) (action : ExecutorAction) (t : Executor) :
    Prop :=
  Coupled config t ∧ ∀ i, Change config s action t i

section Follows

variable {action : ExecutorAction} {label : Label} {lane : LaneId} {run : LaneRun}

/-- An execution is created: no lane knows it yet. -/
theorem Coupled.create (coupled : s.Coupled config) (fresh : s.executions i = none)
    (new : View.Fresh ⟨x, false, 0, []⟩) (creates : action.creates = some i)
    (executions : t.executions = s.executions.set i x)
    (lanes : t.lanes = s.lanes) (untraced : ∀ j, Untraced s t j) : Follows config s action t := by
  obtain ⟨inactive, unfinished, silent⟩ := coupled.unborn i fresh
  have sound : x.Sound := by
    cases new with
    | submitted => exact .submitted ..
    | direct => exact .ofDirect _
  have unqueued : x.runner ≠ .queued := by
    cases new <;> simp [Execution.submitted, Execution.direct]
  refine ⟨⟨?_, ?_, ?_, ?_⟩, fun j => ?_⟩
  · exact lanes ▸ coupled.lanes
  · rw [executions, lanes]
    exact fun lane => (coupled.agrees lane).create fresh unqueued
  · intro j y found
    rw [executions] at found
    rcases Pool.of_set_eq_some found with ⟨_, same⟩ | ⟨_, found⟩
    · exact same ▸ sound
    · exact coupled.sound j y found
  · intro j absent
    have other : j ≠ i := by
      intro same
      rw [executions, same, Pool.set_self] at absent
      cases absent
    rw [executions, Pool.set_of_ne other] at absent
    rw [(untraced j).active, (untraced j).finishes, (untraced j).events]
    exact coupled.unborn j absent
  · by_cases here : j = i
    · subst here
      refine .created new creates fresh (view_eq_some.2 ⟨?_, ?_, ?_, ?_⟩)
      · rw [executions, Pool.set_self]
      · simpa [(untraced j).active] using inactive
      · rw [(untraced j).finishes, unfinished]
      · rw [(untraced j).events, silent]
    · exact .same (by rw [executions, Pool.set_of_ne here]) (untraced j)

/-- One execution moves, its lane section included. -/
theorem Coupled.move (coupled : s.Coupled config) (found : s.executions i = some x)
    (moved : x.Moved label effect y) (of : label.Of config s action i)
    (executions : t.executions = s.executions.set i y)
    (view : ∀ j, t.view j = (s.put i (y, effect)).view j)
    (untraced : ∀ j, j ≠ i → Untraced s t j)
    (lanes : ∀ lane, (laneSystem (config.lanes lane)).Reachable (t.lanes lane))
    (agrees : ∀ lane, Agrees (s.executions.set i y) lane (t.lanes lane)) :
    Follows config s action t := by
  refine ⟨⟨lanes, executions ▸ agrees, ?_, ?_⟩, fun j => ?_⟩
  · intro j z at_
    rw [executions] at at_
    rcases Pool.of_set_eq_some at_ with ⟨_, same⟩ | ⟨_, at_⟩
    · exact same ▸ moved.sound (coupled.sound i x found)
    · exact coupled.sound j z at_
  · intro j absent
    have other : j ≠ i := by
      intro same
      rw [executions, same, Pool.set_self] at absent
      cases absent
    rw [executions, Pool.set_of_ne other] at absent
    rw [(untraced j other).active, (untraced j other).finishes, (untraced j other).events]
    exact coupled.unborn j absent
  · by_cases here : j = i
    · subst here
      have before : s.view j =
          some ⟨x, decide (j ∈ s.active), s.finishes.count j, s.eventsOf j⟩ :=
        view_eq_some.2 ⟨found, rfl, rfl, rfl⟩
      refine .moved before moved of ?_
      rw [view j, put_view_self]
    · exact .same (by rw [executions, Pool.set_of_ne here]) (untraced j here)

/-- A move that no lane takes part in. -/
theorem Coupled.put (coupled : s.Coupled config) (found : s.executions i = some x)
    (moved : x.Moved label effect y) (of : label.Of config s action i)
    (queued : y.runner = .queued ↔ x.runner = .queued) :
    Follows config s action (s.put i (y, effect)) := by
  refine coupled.move found moved of (put_executions _) (fun _ => rfl)
    (fun j other => put_untraced other _) ?_ ?_
  · rw [put_lanes]
    exact coupled.lanes
  · rw [put_lanes]
    exact fun lane => (coupled.agrees lane).keep found moved queued

theorem setLane_self : (s.setLane lane run).lanes lane = run := Function.update_self ..

theorem setLane_of_ne {other : LaneId} (apart : other ≠ lane) :
    (s.setLane lane run).lanes other = s.lanes other := Function.update_of_ne apart ..

/-- What holds of the new run of one lane and of the old runs of the others holds of all. -/
theorem setLane_forall {P : LaneId → LaneRun → Prop} (here : P lane run)
    (there : ∀ other, other ≠ lane → P other (s.lanes other)) (other : LaneId) :
    P other ((s.setLane lane run).lanes other) := by
  by_cases same : other = lane
  · subst same
    rw [setLane_self]
    exact here
  · rw [setLane_of_ne same]
    exact there other same

/-- A section of one lane that moves no execution. -/
theorem Coupled.frame (coupled : s.Coupled config)
    (reach : (laneSystem (config.lanes lane)).Reachable run)
    (frame : (s.lanes lane).Frame run) : Follows config s action (s.setLane lane run) := by
  refine ⟨⟨?_, ?_, coupled.sound, coupled.unborn⟩, fun j => .same rfl ⟨Iff.rfl, rfl, rfl⟩⟩
  · exact setLane_forall (P := fun l run => (laneSystem (config.lanes l)).Reachable run) reach
      fun other _ => coupled.lanes other
  · exact setLane_forall (P := fun l run => Agrees s.executions l run)
      ((coupled.agrees lane).frame frame) fun other _ => coupled.agrees other

/-! ### The sections of the lane an execution is in -/

/-- One execution moves together with its place in its lane. -/
theorem Coupled.inLane (coupled : s.Coupled config) (found : s.executions i = some x)
    (place : x.lane = some lane) (moved : x.Moved label .silent y)
    (of : label.Of config s action i)
    (reach : (laneSystem (config.lanes lane)).Reachable run)
    (own : i ∈ run.lane.entries ↔ y.runner = .queued)
    (others : ∀ j, j ≠ i → (j ∈ run.lane.entries ↔ j ∈ (s.lanes lane).lane.entries))
    (issued : ∀ j ∈ run.issued, j ∈ (s.lanes lane).issued ∨ j = i ∧ y.admission ≠ .inserting)
    (monitors : ∀ j ∈ run.monitors, j ∈ (s.lanes lane).monitors) :
    Follows config s action ((s.setLane lane run).put i (y, .silent)) := by
  have untraced : ∀ j, j ≠ i → Untraced s ((s.setLane lane run).put i (y, .silent)) j := by
    intro j other
    have kept := put_untraced (s := s.setLane lane run) other (y, .silent)
    exact ⟨kept.active, kept.finishes, kept.events⟩
  refine coupled.move found moved of (put_executions _) (fun _ => rfl) untraced ?_ ?_
  · rw [put_lanes]
    exact setLane_forall (P := fun l run => (laneSystem (config.lanes l)).Reachable run) reach
      fun other _ => coupled.lanes other
  · rw [put_lanes]
    refine setLane_forall (P := fun l run => Agrees (s.executions.set i y) l run) ?_ ?_
    · refine (coupled.agrees lane).move found moved ?_ others ?_ monitors
      · rw [own]
        exact ⟨fun queued => ⟨place, queued⟩, fun both => both.2⟩
      · intro j member
        exact (issued j member).imp (fun earlier => earlier) fun new => ⟨new.1, place, new.2⟩
    · intro other apart
      refine (coupled.agrees other).move found moved ?_ (fun _ _ => Iff.rfl)
        (fun _ member => .inl member) fun _ member => member
      rw [(coupled.agrees other).entries_self found, place]
      have elsewhere : ¬ some lane = some other := fun same => apart (Option.some.inj same).symm
      simp [elsewhere]

theorem Coupled.insertPrepared (coupled : s.Coupled config) (found : s.executions i = some x)
    (place : x.lane = some lane) (at_ : x.admission = .inserting)
    (of : (Label.admission (s.refusal config x)).Of config s action i)
    (step : s.insertPrepared config i x lane = some t) : Follows config s action t := by
  obtain ⟨run, inserted, eq⟩ := Option.map_eq_some_iff.1 step
  have reach : (laneSystem (config.lanes lane)).Reachable run :=
    (coupled.lanes lane).tail (a := .insertPrepared i x.options x.waiterTicket) trivial inserted
  have hasLane : x.lane ≠ none := by simp [place]
  have prepared := ((coupled.sound i x found).inserting at_).2
  have unqueued : i ∉ (s.lanes lane).lane.entries := by
    rw [(coupled.agrees lane).entries_self found, prepared]
    simp
  subst eq
  simp only [LaneRun.step] at inserted
  split at inserted
  · cases inserted
  · cases answer : (s.lanes lane).lane.insertPrepared (config.lanes lane) i x.options
        x.waiterTicket with
    | error error =>
      rw [answer] at inserted
      cases inserted
      refine coupled.inLane found place (.refuse error at_ hasLane) of reach ?_
        (fun _ _ => Iff.rfl) ?_ fun _ member => member
      · exact iff_of_false unqueued (by simp)
      · intro j member
        rcases Finset.mem_insert.1 member with here | earlier
        · exact .inr ⟨here, by simp⟩
        · exact .inl earlier
    | ok after =>
      rw [answer] at inserted
      cases inserted
      have entries := congrArg LaneState.entries (LaneState.Inserted.of_ok answer).eq
      refine coupled.inLane found place (.insert at_ hasLane) of reach ?_ ?_ ?_
        fun _ member => member
      · refine iff_of_true ?_ rfl
        show i ∈ after.entries
        rw [entries]
        exact (AList.mem_insert _).2 (.inl rfl)
      · intro j other
        show j ∈ after.entries ↔ j ∈ (s.lanes lane).lane.entries
        rw [entries, AList.mem_insert]
        exact or_iff_right other
      · intro j member
        rcases Finset.mem_insert.1 member with here | earlier
        · exact .inr ⟨here, by simp⟩
        · exact .inl earlier

/-- `remove_queued`, with the move of the execution it was called for. -/
theorem Coupled.removeQueued (coupled : s.Coupled config) (found : s.executions i = some x)
    (place : x.lane = some lane) (moved : x.Moved label .silent y)
    (of : label.Of config s action i) (gone : y.runner ≠ .queued) :
    Follows config s action
      ((s.setLane lane ((s.lanes lane).removeQueued i)).put i (y, .silent)) := by
  have entries := (LaneRun.removeQueued_fields (s.lanes lane).lane i).2.1
  refine coupled.inLane found place moved of
    ((coupled.lanes lane).tail (a := .removeQueued i) trivial rfl) ?_ ?_
    (fun _ member => .inl member) fun _ member => member
  · exact iff_of_false (fun queued => ((entries i).1 queued).2 rfl) gone
  · intro j other
    exact (entries j).trans (and_iff_left other)

/-! ### The sections that take several executions out of a lane -/

/-- Some of the lane's entries leave it, and their executions move by `f`. -/
theorem Agrees.each {executions : Pool Execution} {run after : LaneRun} {other : LaneId}
    {f : Execution → Execution} {P : ExecutionId → Prop} [DecidablePred P]
    (agrees : Agrees executions other run)
    (inside : ∀ j, P j → ∃ x, executions j = some x ∧ x.lane = some lane ∧ x.runner = .queued)
    (kept : ∀ x, (f x).lane = x.lane ∧ (f x).admission = x.admission ∧ (f x).runner ≠ .queued ∧
      (x.dispatched = true → (f x).dispatched = true))
    (entries : ∀ j, j ∈ after.lane.entries ↔ j ∈ run.lane.entries ∧ (P j → other ≠ lane))
    (issued : after.issued = run.issued)
    (monitors : ∀ j ∈ after.monitors, j ∈ run.monitors ∨ P j ∧ ∀ x, (f x).dispatched = true) :
    Agrees (fun j => if P j then (executions j).map f else executions j) other after := by
  constructor
  case entries =>
    intro j
    rw [entries j, agrees.entries j]
    by_cases leaves : P j
    · obtain ⟨x, found, place, queued⟩ := inside j leaves
      have gone := (kept x).2.2.1
      simp only [leaves, found, true_imp_iff, if_true, Option.map_some]
      constructor
      · intro ⟨⟨y, same, here, _⟩, apart⟩
        cases same
        exact (apart (Option.some.inj (here.symm.trans place))).elim
      · intro ⟨y, same, _, still⟩
        cases same
        exact (gone still).elim
    · simp [leaves]
  case issued =>
    intro j member
    obtain ⟨x, found, place, inserted⟩ := agrees.issued j (issued ▸ member)
    obtain ⟨sameLane, sameAdmission, _⟩ := kept x
    by_cases leaves : P j
    · exact ⟨f x, by simp [leaves, found], sameLane.trans place, sameAdmission ▸ inserted⟩
    · exact ⟨x, by simp [leaves, found], place, inserted⟩
  case monitors =>
    intro j member
    rcases monitors j member with earlier | ⟨leaves, dispatched⟩
    · obtain ⟨x, found, dispatched⟩ := agrees.monitors j earlier
      by_cases leaves : P j
      · exact ⟨f x, by simp [leaves, found], (kept x).2.2.2 dispatched⟩
      · exact ⟨x, by simp [leaves, found], dispatched⟩
    · obtain ⟨x, found, _⟩ := inside j leaves
      exact ⟨f x, by simp [leaves, found], dispatched x⟩

/-- The executions that leave a lane together move each by the same move. -/
theorem Coupled.each (coupled : s.Coupled config) {f : Execution → Execution}
    {P : ExecutionId → Prop} [DecidablePred P]
    (inside : ∀ j, P j → ∃ x, s.executions j = some x ∧ x.lane = some lane ∧ x.runner = .queued)
    (kept : ∀ x, (f x).lane = x.lane ∧ (f x).admission = x.admission ∧ (f x).runner ≠ .queued ∧
      (x.dispatched = true → (f x).dispatched = true))
    (label : Label) (moves : ∀ x : Execution, x.runner = .queued → x.Moved label .silent (f x))
    (of : ∀ j, P j → label.Of config s action j)
    (reach : (laneSystem (config.lanes lane)).Reachable run)
    (entries : ∀ j, j ∈ run.lane.entries ↔ j ∈ (s.lanes lane).lane.entries ∧ ¬ P j)
    (issued : run.issued = (s.lanes lane).issued)
    (monitors : ∀ j ∈ run.monitors,
      j ∈ (s.lanes lane).monitors ∨ P j ∧ ∀ x, (f x).dispatched = true) :
    Follows config s action
      { s.setLane lane run with
        executions := fun j => if P j then (s.executions j).map f else s.executions j } := by
  refine ⟨⟨?_, ?_, ?_, ?_⟩, fun j => ?_⟩
  · exact setLane_forall (P := fun l run => (laneSystem (config.lanes l)).Reachable run) reach
      fun other _ => coupled.lanes other
  · refine setLane_forall (P := fun l run => Agrees _ l run) ?_ ?_
    · exact (coupled.agrees lane).each inside kept (fun j => by simp [entries j]) issued monitors
    · intro other apart
      exact (coupled.agrees other).each inside kept
        (fun j => (and_iff_left fun _ => apart).symm) rfl fun _ member => .inl member
  · intro j z at_
    simp only at at_
    split at at_
    · next leaves =>
      obtain ⟨x, found, _, queued⟩ := inside j leaves
      rw [found] at at_
      cases at_
      exact (moves x queued).sound (coupled.sound j x found)
    · exact coupled.sound j z at_
  · intro j absent
    simp only at absent
    split at absent
    · next leaves =>
      obtain ⟨x, found, _⟩ := inside j leaves
      rw [found] at absent
      cases absent
    · exact coupled.unborn j absent
  · by_cases leaves : P j
    · obtain ⟨x, found, _, queued⟩ := inside j leaves
      have before : s.view j =
          some ⟨x, decide (j ∈ s.active), s.finishes.count j, s.eventsOf j⟩ :=
        view_eq_some.2 ⟨found, rfl, rfl, rfl⟩
      refine .moved before (moves x queued) (of j leaves) (view_eq_some.2 ⟨?_, rfl, rfl, rfl⟩)
      simp [leaves, found, View.after]
    · exact .same (by simp [leaves]) ⟨Iff.rfl, rfl, rfl⟩

theorem Coupled.dispatch (coupled : s.Coupled config) (lane : LaneId) :
    Follows config s (.dispatch lane) (s.dispatch config lane) := by
  have inv := coupled.laneInv lane
  have loop := inv.lane.takeStartable
  refine coupled.each (f := Execution.take)
    (P := fun j => j ∈ ((s.lanes lane).lane.takeStartable (config.lanes lane)).starts) ?_
    (fun x => ⟨rfl, rfl, by simp [Execution.take], fun _ => rfl⟩) .take
    (fun _ queued => .take queued) (fun j taken => ⟨lane, rfl, taken⟩)
    ((coupled.lanes lane).tail (a := .takeStartable) trivial rfl) ?_ rfl ?_
  · intro j taken
    exact ((coupled.agrees lane).entries j).1 (loop.started j taken)
  · exact loop.entries
  · intro j member
    rcases Finset.mem_union.1 member with earlier | new
    · exact .inl earlier
    · exact .inr ⟨List.mem_toFinset.1 new, fun _ => rfl⟩

theorem Coupled.dispatcherStopped (coupled : s.Coupled config) (lane : LaneId) :
    Follows config s (.dispatcherStopped lane) (s.dispatcherStopped lane) := by
  refine coupled.each (f := Execution.drain)
    (P := fun j => j ∈ (s.lanes lane).lane.entries) ?_
    (fun x => ⟨rfl, rfl, by simp [Execution.drain], fun before => before⟩) .drain
    (fun _ queued => .drain queued) (fun j _ => ⟨lane, rfl⟩)
    ((coupled.lanes lane).tail (a := .dispatcherStopped) trivial rfl) ?_ rfl
    fun _ member => .inl member
  · intro j queued
    exact ((coupled.agrees lane).entries j).1 queued
  · intro j
    refine iff_of_false ?_ fun both => both.2 both.1
    simp [LaneState.dispatcherStopped]

/-! ### Every action -/

theorem Follows.releaseAdmission (follows : Follows config s action t) (x : Execution) :
    Follows config s action (t.releaseAdmission x) := by
  unfold Executor.releaseAdmission
  split
  · obtain ⟨coupled, changes⟩ := follows
    refine ⟨⟨coupled.lanes, coupled.agrees, coupled.sound, coupled.unborn⟩, fun i => ?_⟩
    rcases changes i with ⟨same, untraced⟩ | ⟨fresh, creates, before, after⟩ |
      ⟨before, moved, of, after⟩
    · exact .same same ⟨untraced.active, untraced.finishes, untraced.events⟩
    · exact .created fresh creates before after
    · exact .moved before moved of after
  · exact follows

theorem Coupled.advanceAdmission (coupled : s.Coupled config) (found : s.executions i = some x)
    (step : s.advanceAdmission config i x = some t) :
    Follows config s (.advanceAdmission i) t := by
  have of : (Label.admission (s.refusal config x)).Of config s (.advanceAdmission i) i :=
    ⟨rfl, x, found, rfl⟩
  unfold Executor.advanceAdmission at step
  split at step
  case h_1 lane at_ place => exact coupled.insertPrepared found place at_ of step
  case h_2 error lane at_ place =>
    cases step
    have hasLane : x.lane ≠ none := by simp [place]
    have queued := (coupled.agrees lane).entries_self found
    rw [place] at queued
    unfold rollBack
    by_cases here : i ∈ (s.lanes lane).lane.entries
    · simp only [here, if_true]
      have moved := Moved.rollBack (r := s.refusal config x) error at_ hasLane (queued.1 here).2
      exact (coupled.removeQueued found place moved of (by simp)).releaseAdmission _
    · simp only [here, if_false]
      have gone : x.runner ≠ .queued := fun still => here (queued.2 ⟨rfl, still⟩)
      have moved := Moved.missed (r := s.refusal config x) error at_ hasLane gone
      exact (coupled.removeQueued found place moved of gone).releaseAdmission _
  case h_3 notInserting notRollback =>
    obtain ⟨⟨y, effect⟩, moved, eq⟩ := Option.map_eq_some_iff.1 step
    subst eq
    have moved := Moved.of_advanceAdmission moved
    refine (coupled.put found moved of ?_).releaseAdmission y
    refine moved.queued (coupled.sound i x found) ⟨by simp, by simp⟩ ?_ (by simp)
    intro _ _
    cases place : x.lane with
    | none => exact .inl rfl
    | some lane =>
      exact .inr ⟨fun at_ => notInserting lane at_ place,
        fun error at_ => notRollback error lane at_ place⟩

theorem Coupled.advanceStop (coupled : s.Coupled config) (found : s.executions i = some x)
    (step : s.advanceStop i x = some t) : Follows config s (.advanceStop i) t := by
  unfold Executor.advanceStop at step
  split at step
  case h_1 lane at_ place =>
    cases step
    have queued := (coupled.agrees lane).entries_self found
    rw [place] at queued
    unfold runHook
    by_cases here : i ∈ (s.lanes lane).lane.entries
    · simp only [here, if_true]
      exact coupled.removeQueued found place (.hook at_ (queued.1 here).2) rfl
        (by simp [Execution.drain])
    · simp only [here, if_false]
      have gone : x.runner ≠ .queued := fun still => here (queued.2 ⟨rfl, still⟩)
      exact coupled.removeQueued found place (.hookMissed at_ gone) rfl gone
  case h_2 notHooking =>
    obtain ⟨⟨y, effect⟩, advanced, eq⟩ := Option.map_eq_some_iff.1 step
    subst eq
    have moved := Moved.of_advanceStop advanced
    refine coupled.put found moved rfl ?_
    -- the function itself never leaves `hooking`, so the hook's move is not this one
    refine moved.queued (coupled.sound i x found) ⟨by simp, by simp⟩ (by simp) fun _ at_ => ?_
    rw [Execution.advanceStop, at_] at advanced
    cases advanced

theorem Coupled.monitor (coupled : s.Coupled config) (step : s.monitor config i x = some t) :
    Follows config s (.monitor i) t := by
  unfold Executor.monitor at step
  split at step
  · split at step
    · obtain ⟨run, finished, eq⟩ := Option.map_eq_some_iff.1 step
      subst eq
      exact coupled.frame ((coupled.lanes _).tail (a := .executionFinished i) trivial finished)
        (.executionFinished finished)
    · cases step
  · cases step

/-- The actions that move one created execution. -/
theorem Coupled.single (coupled : s.Coupled config) (found : s.executions i = some x)
    (step : s.move config i x action = some t)
    (about : action = .advanceAdmission i ∨ action = .start i ∨ action = .monitor i ∨
      action = .run i ∨ action = .unwind i ∨ (∃ exit, action = .finishBody i exit) ∨
      action = .loseRunner i ∨
      (∃ next, action = .report i next) ∨ action = .loadReport i ∨ action = .sendReport i ∨
      (∃ cause, action = .requestStop i cause) ∨ action = .advanceStop i) :
    Follows config s action t := by
  have sound := coupled.sound i x found
  have plain : ∀ {label : Label} {y : Execution} {effect : Effect},
      x.Moved label effect y → label ≠ .take ∧ label ≠ .drain →
      (∀ r, label ≠ .admission r) → label ≠ .stop →
      (y.runner = .queued ↔ x.runner = .queued) := by
    intro label y effect moved lane admission stop
    exact moved.queued sound lane (fun r eq => (admission r eq).elim) fun eq => (stop eq).elim
  rcases about with rfl | rfl | rfl | rfl | rfl | ⟨exit, rfl⟩ | rfl | ⟨next, rfl⟩ | rfl | rfl |
    ⟨cause, rfl⟩ | rfl
  · exact coupled.advanceAdmission found step
  · obtain ⟨y, started, eq⟩ := Option.map_eq_some_iff.1 step
    subst eq
    have moved := Moved.of_start started
    exact coupled.put found moved rfl (plain moved (by simp) (by simp) (by simp))
  · exact coupled.monitor step
  · obtain ⟨⟨y, effect⟩, ran, eq⟩ := Option.map_eq_some_iff.1 step
    subst eq
    have moved := Moved.of_run ran
    exact coupled.put found moved rfl (plain moved (by simp) (by simp) (by simp))
  · obtain ⟨y, unwound, eq⟩ := Option.map_eq_some_iff.1 step
    subst eq
    have moved := Moved.of_unwind unwound
    exact coupled.put found moved rfl (plain moved (by simp) (by simp) (by simp))
  · obtain ⟨y, finished, eq⟩ := Option.map_eq_some_iff.1 step
    subst eq
    have moved := Moved.of_body (.inl ⟨exit, finished⟩)
    exact coupled.put found moved (.inr ⟨exit, rfl⟩) (plain moved (by simp) (by simp) (by simp))
  · obtain ⟨y, lost, eq⟩ := Option.map_eq_some_iff.1 step
    subst eq
    have moved := Moved.of_body (.inr lost)
    exact coupled.put found moved (.inl rfl) (plain moved (by simp) (by simp) (by simp))
  · obtain ⟨y, reported, eq⟩ := Option.map_eq_some_iff.1 step
    subst eq
    have moved := Moved.of_report reported
    exact coupled.put found moved ⟨next, rfl⟩ (plain moved (by simp) (by simp) (by simp))
  · obtain ⟨y, loaded, eq⟩ := Option.map_eq_some_iff.1 step
    subst eq
    have moved := Moved.of_loadReport loaded
    exact coupled.put found moved rfl (plain moved (by simp) (by simp) (by simp))
  · obtain ⟨⟨y, effect⟩, sent, eq⟩ := Option.map_eq_some_iff.1 step
    subst eq
    have moved := Moved.of_sendReport sent
    exact coupled.put found moved rfl (plain moved (by simp) (by simp) (by simp))
  · obtain ⟨y, requested, eq⟩ := Option.map_eq_some_iff.1 step
    subst eq
    have moved := Moved.of_requestStop requested
    exact coupled.put found moved ⟨cause, rfl⟩ (plain moved (by simp) (by simp) (by simp))
  · exact coupled.advanceStop found step

theorem Coupled.laneStep (coupled : s.Coupled config) {laneAction : LaneAction}
    (step : s.lane config lane laneAction = some t)
    (frame : ∀ run, (s.lanes lane).step (config.lanes lane) laneAction = some run →
      (s.lanes lane).Frame run) : Follows config s action t := by
  obtain ⟨run, stepped, eq⟩ := Option.map_eq_some_iff.1 step
  subst eq
  exact coupled.frame ((coupled.lanes lane).tail (a := laneAction) trivial stepped)
    (frame run stepped)

/-- **One step, seen from every execution.** -/
theorem Coupled.step (coupled : s.Coupled config) (step : s.step config action = some t) :
    Follows config s action t := by
  have single : ∀ {i}, ((s.executions i).bind fun x => s.move config i x action) = some t →
      (action = .advanceAdmission i ∨ action = .start i ∨ action = .monitor i ∨
      action = .run i ∨ action = .unwind i ∨ (∃ exit, action = .finishBody i exit) ∨
      action = .loseRunner i ∨
      (∃ next, action = .report i next) ∨ action = .loadReport i ∨ action = .sendReport i ∨
      (∃ cause, action = .requestStop i cause) ∨ action = .advanceStop i) →
      Follows config s action t := by
    intro i moved about
    obtain ⟨x, found, moved⟩ := Option.bind_eq_some_iff.1 moved
    exact coupled.single found moved about
  cases action with
  | submit id lane options ticket tagTooLong =>
    simp only [Executor.step] at step
    split at step
    · next free =>
      split at step
      · cases step
      · cases step
        exact coupled.create free.2.2 (.submitted lane options ticket tagTooLong) rfl rfl rfl
          fun j => ⟨Iff.rfl, rfl, rfl⟩
    · cases step
  | spawn id tagTooLong =>
    simp only [Executor.step] at step
    split at step
    · next free =>
      cases step
      exact coupled.create free (.direct tagTooLong) rfl rfl rfl fun j => ⟨Iff.rfl, rfl, rfl⟩
    · cases step
  | closeAdmission =>
    simp only [Executor.step] at step
    split at step
    · cases step
      exact ⟨⟨coupled.lanes, coupled.agrees, coupled.sound, coupled.unborn⟩,
        fun j => .same rfl ⟨Iff.rfl, rfl, rfl⟩⟩
    · cases step
  | dispatch lane =>
    cases step
    exact coupled.dispatch lane
  | dispatcherStopped lane =>
    cases step
    exact coupled.dispatcherStopped lane
  | requestClose lane => exact coupled.laneStep step fun _ stepped => .requestClose stepped
  | newWaitingProducer lane =>
    exact coupled.laneStep step fun _ stepped => .newWaitingProducer stepped
  | finishWaitingProducer lane ticket =>
    exact coupled.laneStep step fun _ stepped => .finishWaitingProducer stepped
  | advanceAdmission id | start id | monitor id | run id | unwind id | finishBody id exit
  | loseRunner id | report id next | loadReport id | sendReport id | requestStop id cause
  | advanceStop id =>
    exact single step (by simp)

end Follows

/-! ## Invariants of views -/

theorem Coupled.of_reaches {ok : Executor → ExecutorAction → Prop}
    (run : (executor config).Reaches ok (executor config).init s) : s.Coupled config :=
  run.invariant .init fun coupled _ step => (Coupled.step coupled step).1

/-- **Invariant rule for views.**  What holds of every created view and is kept by
every admitted move holds of every view along every admitted run. -/
theorem view_invariant {ok : Executor → ExecutorAction → Prop} {P : View → Prop}
    (run : (executor config).Reaches ok (executor config).init s)
    (fresh : ∀ v : View, v.Fresh → P v)
    (kept : ∀ {s : Executor} {action : ExecutorAction} {i : ExecutionId} {v : View}
      {label : Label} {effect : Effect} {y : Execution}, ok s action → s.view i = some v →
      label.Of config s action i → v.execution.Sound → v.execution.Moved label effect y →
      P v → P (v.after y effect)) :
    ∀ i v, s.view i = some v → P v := by
  have both : s.Coupled config ∧ ∀ i v, s.view i = some v → P v := by
    refine run.invariant (I := fun s => s.Coupled config ∧ ∀ i v, s.view i = some v → P v)
      ⟨.init, fun i v absurd => by cases absurd⟩ ?_
    intro x y action inv admitted step
    obtain ⟨coupled, holds⟩ := inv
    obtain ⟨after, changes⟩ := coupled.step step
    refine ⟨after, fun i v found => ?_⟩
    rcases changes i with ⟨same, untraced⟩ | ⟨new, _, _, created⟩ | ⟨before, moved, of, moved_⟩
    · rw [untraced.view same] at found
      exact holds i v found
    · cases created.symm.trans found
      exact fresh v new
    · cases moved_.symm.trans found
      exact kept admitted before of (coupled.sound i _ (view_eq_some.1 before).1) moved
        (holds i _ before)
  exact both.2

/-- What holds of one view and is kept by its moves holds of it from then on. -/
theorem view_stays {ok : Executor → ExecutorAction → Prop} {P : View → Prop}
    (coupled : s.Coupled config) (run : (executor config).Reaches ok s t) {v : View}
    (found : s.view i = some v) (start : P v)
    (kept : ∀ {v : View} {label : Label} {effect : Effect} {y : Execution},
      v.execution.Sound → v.execution.Moved label effect y → P v → P (v.after y effect)) :
    ∃ w, t.view i = some w ∧ P w := by
  have both : t.Coupled config ∧ ∃ w, t.view i = some w ∧ P w := by
    refine run.invariant (I := fun t => t.Coupled config ∧ ∃ w, t.view i = some w ∧ P w)
      ⟨coupled, v, found, start⟩ ?_
    intro x y action inv _ step
    obtain ⟨coupled, w, found, holds⟩ := inv
    obtain ⟨after, changes⟩ := coupled.step step
    refine ⟨after, ?_⟩
    rcases changes i with ⟨same, untraced⟩ | ⟨_, _, absent, _⟩ | ⟨before, moved, _, moved_⟩
    · exact ⟨w, (untraced.view same).trans found, holds⟩
    · rw [view, absent] at found
      cases found
    · cases before.symm.trans found
      exact ⟨_, moved_, kept (coupled.sound i _ (view_eq_some.1 before).1) moved holds⟩
  exact both.2

/-- An execution no action creates is not there. -/
theorem absent_of_creates {actions : List ExecutorAction} (coupled : s.Coupled config)
    (run : (executor config).exec s actions = some t)
    (uncreated : ∀ action ∈ actions, action.creates ≠ some i) (absent : s.executions i = none) :
    t.executions i = none := by
  induction actions generalizing s with
  | nil =>
    cases run
    exact absent
  | cons action rest ih =>
    simp only [System.exec] at run
    cases step : (executor config).step s action with
    | none => simp [step] at run
    | some u =>
      rw [step] at run
      obtain ⟨after, changes⟩ := coupled.step step
      refine ih after run (fun a member => uncreated a (List.mem_cons_of_mem _ member)) ?_
      rcases changes i with ⟨same, _⟩ | ⟨_, creates, _, _⟩ | ⟨before, _, _, _⟩
      · rw [same, absent]
      · exact (uncreated action List.mem_cons_self creates).elim
      · rw [view, absent] at before
        cases before

end Executor

/-! ## Executions nobody has noticed -/

namespace View

variable {v : View} {label : Label} {effect : Effect} {y : Execution}

/-- While no `emit_state` and no `commit` has read the flag as set, the only event is
the `Admitted` of the admission call, and no other is about to be sent. -/
structure Silent (v : View) : Prop where
  announced : v.execution.admission.isAnnounced = true → v.events = [.admitted]
  unannounced : v.execution.admission.isAnnounced = false → v.events = []
  finishes : v.finishes = 0
  announcements : v.execution.announcements = 0
  runner : v.execution.runner ≠ .announcing ∧ v.execution.runner.summary.isSome = false ∨
    ∃ summary, v.execution.runner = .discarding summary ∨ v.execution.runner = .selected summary ∨
      v.execution.runner = .published summary
  stop : ∀ hook, v.execution.stop ≠ .announcing hook

def Unnoticed (v : View) : Prop := v.execution.noticed = false → v.Silent

theorem Unnoticed.fresh (fresh : v.Fresh) : v.Unnoticed := by
  intro _
  cases fresh <;> constructor <;>
    simp [Execution.submitted, Execution.direct, Admission.isAnnounced, Runner.summary]

/-- A silent execution sends its `Admitted`, and does nothing else outside. -/
theorem Silent.sends (silent : v.Silent) (moved : v.execution.Moved label effect y) :
    effect = .silent ∨ effect = .enter ∨
      effect = .announce .admitted ∧ v.execution.admission = .entered := by
  cases moved with
  | enter => exact .inr (.inl rfl)
  | announce at_ => exact .inr (.inr ⟨rfl, at_⟩)
  | announceStart at_ | leave _ at_ | record _ at_ | close _ at_ =>
    rcases silent.runner with ⟨quiet, unselected⟩ | ⟨_, same | same | same⟩
    · simp [at_, Runner.summary] at quiet unselected
    all_goals simp [at_] at same
  | sendReport pending =>
    rw [silent.announcements] at pending
    cases pending
  | announceStop hook at_ => exact absurd at_ (silent.stop hook)
  | _ => exact .inl rfl

/-- Its runner has read no flag. -/
theorem Silent.runner_kept (silent : v.Silent) (moved : v.execution.Moved label effect y)
    (still : y.noticed = false) :
    y.runner ≠ .announcing ∧ y.runner.summary.isSome = false ∨
      ∃ summary, y.runner = .discarding summary ∨ y.runner = .selected summary ∨
        y.runner = .published summary := by
  cases moved with
  | commitOver => exact .inr ⟨_, .inl rfl⟩
  | commit | discard => exact .inr ⟨_, .inr (.inl rfl)⟩
  | publish summary => exact .inr ⟨_, .inr (.inr rfl)⟩
  | leave _ at_ | record _ at_ =>
    rcases silent.runner with ⟨-, unselected⟩ | ⟨_, same | same | same⟩
    · simp [at_, Runner.summary] at unselected
    all_goals simp [at_] at same
  | _ =>
    first
    | exact silent.runner
    | cases still
    | exact .inl ⟨by simp, rfl⟩

theorem Unnoticed.kept (unnoticed : v.Unnoticed) (moved : v.execution.Moved label effect y) :
    (v.after y effect).Unnoticed := by
  intro still
  rw [after_execution] at still
  have silent : v.Silent := by
    refine unnoticed ?_
    cases moved <;> first
      | exact still
      | cases still
  have sends := silent.sends moved
  constructor
  case finishes => rcases sends with rfl | rfl | ⟨rfl, -⟩ <;> exact silent.finishes
  case runner =>
    rw [after_execution]
    exact silent.runner_kept moved still
  case announcements =>
    rw [after_execution]
    cases moved with
    | sendReport pending =>
      rw [silent.announcements] at pending
      cases pending
    | _ =>
      first
      | exact silent.announcements
      | cases still
  case stop =>
    rw [after_execution]
    cases moved with
    | stopUnset hook | announceStop hook => cases hook <;> simp [Stop.emitted]
    | _ =>
      first
      | exact silent.stop
      | cases still
      | simp
  case announced =>
    rw [after_execution]
    intro announced
    rcases sends with rfl | rfl | ⟨rfl, entered⟩
    · exact silent.announced ((moved.isAnnounced (by simp)).symm.trans announced)
    · exact silent.announced ((moved.isAnnounced (by simp)).symm.trans announced)
    · change v.events ++ [_] = [_]
      rw [silent.unannounced (by rw [entered]; rfl)]
      rfl
  case unannounced =>
    rw [after_execution]
    intro unannounced
    rcases sends with rfl | rfl | ⟨rfl, entered⟩
    · exact silent.unannounced ((moved.isAnnounced (by simp)).symm.trans unannounced)
    · exact silent.unannounced ((moved.isAnnounced (by simp)).symm.trans unannounced)
    · cases moved with
      | announce => cases unannounced

end View

end BusyBeaver
