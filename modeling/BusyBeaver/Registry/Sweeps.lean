import BusyBeaver.Executor.Registry

/-!
# Cancelling a snapshot of the registry

`cancel_snapshot`, the typed half of `Beaver::cancel_all` and the drop of the last
executor owner all do one thing: they take the controls of `registry.active`, release
the lock, and submit `control.cancel` to one after the other.  `Sweeping` runs any
number of such sweeps beside the executor, and counts the owners: the `Beaver` and every
`Lane` hold the `ExecutorLifetime`, and an admission call borrows the owner it is made on.

A sweep answers for exactly the executions of its snapshot (`cancel_snapshot_report`),
and of all sweeps one at most is told `Requested` for an execution
(`cancel_requested_once`).
-/

namespace BusyBeaver

open Transition Execution

/-! ## Selectors -/

/-- What `select_controls` reads of an execution besides its id and its lane.  All of it is
written before the execution is in the registry. -/
structure Labels : Type where
  taskSpecId : TaskSpecId
  tag : Option String
  scopeId : Option Nat
  deriving DecidableEq, Repr

inductive TaskSelector : Type
  | execution (id : ExecutionId)
  | spec (id : TaskSpecId)
  | tag (tag : String)
  | lane (id : LaneId)
  | scope (id : Nat)
  deriving DecidableEq, Repr

/-- The filter of `select_controls`. -/
def TaskSelector.selects (id : ExecutionId) (labels : Labels) (lane : Option LaneId) :
    TaskSelector → Bool
  | .execution other => id == other
  | .spec definition => labels.taskSpecId == definition
  | .tag label => labels.tag == some label
  | .lane other => lane == some other
  | .scope other => labels.scopeId == some other

structure BatchCancelRecord : Type where
  executionId : ExecutionId
  outcome : CancelRequestOutcome
  deriving DecidableEq, Repr

/-! ## One sweep -/

/-- Who began the sweep. -/
inductive SweepOrigin : Type
  | cancelSnapshot (selector : TaskSelector)
  | cancelAll
  /-- `ExecutorLifetime::drop`. -/
  | lifetimeDropped
  deriving DecidableEq, Repr

/-- Where the loop over the controls stands.  `records` are the answers so far; only
`cancel_snapshot` reports them. -/
inductive SweepCall : Type
  /-- `control.cancel` of the first of `rest` is next. -/
  | cancelling (rest : List ExecutionId) (records : List BatchCancelRecord)
  /-- Inside the `control.cancel` of `current`, which was accepted. -/
  | stopping (current : ExecutionId) (rest : List ExecutionId) (records : List BatchCancelRecord)
  | returned (records : List BatchCancelRecord)
  deriving DecidableEq, Repr

structure Sweep : Type where
  origin : SweepOrigin
  reason : CancelReason
  call : SweepCall
  deriving DecidableEq, Repr

namespace SweepCall

def records : SweepCall → List BatchCancelRecord
  | .cancelling _ records | .stopping _ _ records | .returned records => records

/-- The executions whose answer is still out. -/
def pending : SweepCall → List ExecutionId
  | .cancelling rest _ => rest
  | .stopping current rest _ => current :: rest
  | .returned _ => []

/-- The snapshot: what has been answered, and what has not. -/
def snapshot (call : SweepCall) : List ExecutionId :=
  call.records.map BatchCancelRecord.executionId ++ call.pending

/-- The executions that were stopped by this sweep. -/
def granted (call : SweepCall) : List ExecutionId :=
  (call.records.filter fun record => record.outcome == .requested).map
      BatchCancelRecord.executionId ++
    match call with
    | .stopping current _ _ => [current]
    | _ => []

end SweepCall

/-! ## The system -/

/-- An executor, its owners, and the sweeps over its registry. -/
structure Sweeping : Type where
  beaver : Executor
  /-- The `Beaver` and `Lane` values that are alive. -/
  owners : Finset Nat
  /-- The admission calls, each with the owner it was made on. -/
  borrows : List (ExecutionId × Nat)
  sweeps : Pool Sweep

inductive SweepingAction : Type
  /-- A step of the executor that begins no admission. -/
  | executor (action : ExecutorAction)
  /-- `submit` or `spawn`, called on an owner. -/
  | lend (owner : Nat) (action : ExecutorAction)
  /-- `Lane::clone`, `create_lane` and whatever else makes an owner of an owner. -/
  | share (owner new : Nat)
  | dropOwner (owner sweep : Nat) (controls : List ExecutionId)
  | cancelSnapshot (sweep : Nat) (selector : TaskSelector) (reason : CancelReason)
    (controls : List ExecutionId)
  | cancelAll (sweep : Nat) (controls : List ExecutionId)
  /-- What the sweep does next. -/
  | advance (sweep : Nat)

/-- The admission call of the execution has answered. -/
def Admission.hasReturned : Admission → Bool
  | .returned _ => true
  | _ => false

namespace Sweeping

/-- The sweep moves, and the executor with it. -/
def put (s : Sweeping) (sweep : Nat) (w : Sweep) (beaver : Executor) : Sweeping :=
  { s with beaver := beaver, sweeps := s.sweeps.set sweep w }

/-- `controls` lists the registry in the order the map of the source yields. -/
def Lists (s : Sweeping) (controls : List ExecutionId) : Prop :=
  controls.Nodup ∧ controls.toFinset = s.beaver.active

instance (s : Sweeping) (controls : List ExecutionId) : Decidable (s.Lists controls) :=
  inferInstanceAs (Decidable (_ ∧ _))

/-- The answer of `select_controls`: those the selector selects, sorted by id. -/
def Selects (labels : ExecutionId → Labels) (s : Sweeping) (selector : TaskSelector)
    (controls : List ExecutionId) : Prop :=
  controls.Pairwise (· < ·) ∧ controls.toFinset = s.beaver.active.filter fun id =>
    selector.selects id (labels id) ((s.beaver.executions id).bind Execution.lane)

instance (labels : ExecutionId → Labels) (s : Sweeping) (selector : TaskSelector)
    (controls : List ExecutionId) : Decidable (s.Selects labels selector controls) :=
  inferInstanceAs (Decidable (_ ∧ _))

def beginSweep (s : Sweeping) (sweep : Nat) (origin : SweepOrigin) (reason : CancelReason)
    (controls : List ExecutionId) : Option Sweeping :=
  if s.sweeps sweep = none then
    some (s.put sweep ⟨origin, reason, .cancelling controls []⟩ s.beaver)
  else none

def advance (config : ExecutorConfig) (s : Sweeping) (sweep : Nat) (w : Sweep) : Option Sweeping :=
  match w.call with
  | .cancelling [] records => some (s.put sweep { w with call := .returned records } s.beaver)
  | .cancelling (current :: rest) records =>
    (s.beaver.executions current).bind fun x =>
      match (x.core.requestStop (.cancel w.reason)).1 with
      | .requested =>
        (s.beaver.step config (.requestStop current (.cancel w.reason))).map
          (s.put sweep { w with call := .stopping current rest records })
      | outcome =>
        some (s.put sweep { w with call := .cancelling rest (records ++ [⟨current, outcome⟩]) }
          s.beaver)
  | .stopping current rest records =>
    -- the sections after the accepted one are the executor's own steps
    if (s.beaver.executions current).any fun x => decide (x.stop = .done) then
      some (s.put sweep { w with call := .cancelling rest (records ++ [⟨current, .requested⟩]) }
        s.beaver)
    else none
  | .returned _ => none

/-- Every admission call that was made on `owner` has answered. -/
def Released (s : Sweeping) (owner : Nat) : Prop :=
  ∀ borrow ∈ s.borrows, borrow.2 = owner →
    (s.beaver.executions borrow.1).any (fun x => x.admission.hasReturned) = true

instance (s : Sweeping) (owner : Nat) : Decidable (s.Released owner) :=
  inferInstanceAs (Decidable (∀ borrow ∈ s.borrows, _))

/-- The drop of an owner; that of the last one drops the `ExecutorLifetime`. -/
def dropOwner (s : Sweeping) (owner sweep : Nat) (controls : List ExecutionId) :
    Option Sweeping :=
  if owner ∈ s.owners ∧ s.Released owner then
    let rest := { s with owners := s.owners.erase owner }
    if s.owners.erase owner = ∅ then
      if s.Lists controls then rest.beginSweep sweep .lifetimeDropped .executorShutdown controls
      else none
    else some rest
  else none

def step (config : ExecutorConfig) (labels : ExecutionId → Labels) (s : Sweeping) :
    SweepingAction → Option Sweeping
  | .executor action =>
    if action.creates = none then
      (s.beaver.step config action).map fun beaver => { s with beaver := beaver }
    else none
  | .lend owner action =>
    if owner ∈ s.owners then
      action.creates.bind fun id =>
        (s.beaver.step config action).map fun beaver =>
          { s with beaver := beaver, borrows := (id, owner) :: s.borrows }
    else none
  | .share owner new =>
    if owner ∈ s.owners ∧ new ∉ s.owners then some { s with owners := insert new s.owners }
    else none
  | .dropOwner owner sweep controls => s.dropOwner owner sweep controls
  | .cancelSnapshot sweep selector reason controls =>
    if s.Selects labels selector controls then
      s.beginSweep sweep (.cancelSnapshot selector) reason controls
    else none
  | .cancelAll sweep controls =>
    if s.Lists controls then s.beginSweep sweep .cancelAll .userRequested controls else none
  | .advance sweep => (s.sweeps sweep).bind (s.advance config sweep)

end Sweeping

/-- An executor created with `config`, owned by its `Beaver`. -/
def sweeping (config : ExecutorConfig) (labels : ExecutionId → Labels) :
    System Sweeping SweepingAction where
  init := ⟨(executor config).init, {0}, [], fun _ => none⟩
  step := Sweeping.step config labels

/-! ## What an answer says of the execution -/

/-- What `control.cancel(reason)` leaves true of the execution when it answers `outcome`. -/
def CancelRequestOutcome.Holds (reason : CancelReason) (x : Execution) :
    CancelRequestOutcome → Prop
  | .requested => x.core.stopCause = some (.cancel reason)
  | .alreadyStopping => x.core.stopCause ≠ none
  | .alreadyTerminal => x.core.terminal ≠ none

namespace Execution

variable {x y : Execution} {label : Label} {effect : Effect} {reason : CancelReason}
  {outcome : CancelRequestOutcome}

/-- The first stop cause is final. -/
theorem Moved.stopCause {cause : StopCauseSummary} (moved : x.Moved label effect y)
    (stopped : x.core.stopCause = some cause) : y.core.stopCause = some cause := by
  cases moved with
  | claim core at_ claimed =>
    rw [(CoreState.claimStart_eq_some.1 claimed).2.1] at stopped
    cases stopped
  | report next core polled written =>
    rw [(CoreState.setActiveState_eq_some.1 written).2.1] at stopped
    cases stopped
  | requestStop cause core seen accepted =>
    rw [(terminal_of_requestStop accepted).2.1] at stopped
    cases stopped
  | commit exit committed at_ written | commitOver exit committed at_ written =>
    unfold CoreState.commit at written
    split at written
    · cases written
    · cases written
      exact stopped
  | _ => exact stopped

/-- A terminal execution stays terminal. -/
theorem Moved.terminated (moved : x.Moved label effect y) (ended : x.core.terminal ≠ none) :
    y.core.terminal ≠ none := by
  cases moved with
  | claim core at_ claimed => exact (ended (terminal_of_claimStart claimed).1).elim
  | report next core polled written => rwa [terminal_of_setActiveState written]
  | requestStop cause core seen accepted => exact (ended (terminal_of_requestStop accepted).1).elim
  | commit exit committed at_ written | commitOver exit committed at_ written =>
    exact (ended (terminal_of_commit written).1).elim
  | _ => exact ended

/-- An answer stays true. -/
theorem Moved.holds (moved : x.Moved label effect y) (holds : outcome.Holds reason x) :
    outcome.Holds reason y := by
  cases outcome with
  | requested => exact moved.stopCause holds
  | alreadyStopping =>
    obtain ⟨cause, stopped⟩ := Option.ne_none_iff_exists'.1 holds
    intro absent
    rw [moved.stopCause stopped] at absent
    cases absent
  | alreadyTerminal => exact moved.terminated holds

/-- What the locked section of `request_stop` answers when it does not accept. -/
theorem holds_of_requestStop {core : CoreState} (eq : x.core = core)
    (answer : (core.requestStop (.cancel reason)).1 = outcome) (refused : outcome ≠ .requested) :
    outcome.Holds reason x := by
  subst eq
  unfold CoreState.requestStop at answer
  split at answer
  · next ended =>
    subst answer
    exact Option.isSome_iff_ne_none.1 ended
  · split at answer
    · next stopped =>
      subst answer
      exact Option.isSome_iff_ne_none.1 stopped
    · exact (refused answer.symm).elim

end Execution

theorem Executor.view_of_eq_some {s : Executor} {i : ExecutionId} {x : Execution}
    (found : s.executions i = some x) :
    s.view i = some ⟨x, decide (i ∈ s.active), s.finishes.count i, s.eventsOf i⟩ :=
  view_eq_some.2 ⟨found, rfl, rfl, rfl⟩

/-- Of an execution that is there, what its moves keep stays true. -/
theorem Executor.execution_stays {config : ExecutorConfig} {s t : Executor} {i : ExecutionId}
    {x : Execution} {ok : Executor → ExecutorAction → Prop} {P : Execution → Prop}
    (coupled : s.Coupled config) (run : (executor config).Reaches ok s t)
    (found : s.executions i = some x) (start : P x)
    (kept : ∀ {x : Execution} {label : Label} {effect : Effect} {y : Execution},
      x.Moved label effect y → P x → P y) : ∃ y, t.executions i = some y ∧ P y := by
  obtain ⟨w, there, holds⟩ := view_stays (P := fun v => P v.execution) coupled run
    (view_of_eq_some found) start fun {v label effect y} _ moved before => by
      rw [View.after_execution]
      exact kept moved before
  exact ⟨w.execution, (view_eq_some.1 there).1, holds⟩

/-- The execution a `requestStop` of the executor has stopped. -/
theorem Executor.stopped_of_requestStop {config : ExecutorConfig} {s t : Executor}
    {i : ExecutionId} {cause : StopCauseSummary}
    (step : s.step config (.requestStop i cause) = some t) :
    ∃ x y, s.executions i = some x ∧ x.core.stopCause = none ∧ t.executions i = some y ∧
      y.core.stopCause = some cause := by
  obtain ⟨x, found, moved⟩ := Option.bind_eq_some_iff.1 step
  obtain ⟨y, requested, rfl⟩ := Option.map_eq_some_iff.1 moved
  unfold Execution.requestStop at requested
  split at requested
  · split at requested
    · next core accepted =>
      cases requested
      obtain ⟨-, free, -, stopped⟩ := terminal_of_requestStop accepted
      exact ⟨x, _, found, free, by rw [put_executions, Pool.set_self], stopped⟩
    · cases requested
  · cases requested

namespace Sweeping

variable {config : ExecutorConfig} {labels : ExecutionId → Labels} {s t u : Sweeping}
  {action : SweepingAction} {sweep : Nat} {w : Sweep}

/-! ## One step -/

/-- What a sweep does next, and the executor with it. -/
inductive Advanced (config : ExecutorConfig) (e : Executor) (reason : CancelReason) :
    SweepCall → Executor → SweepCall → Prop
  /-- The registry was swept to its end. -/
  | ended (records : List BatchCancelRecord) :
    Advanced config e reason (.cancelling [] records) e (.returned records)
  /-- The next execution was stopped. -/
  | granted (current : ExecutionId) (rest : List ExecutionId) (records : List BatchCancelRecord)
    {f : Executor} : e.step config (.requestStop current (.cancel reason)) = some f →
    Advanced config e reason (.cancelling (current :: rest) records) f
      (.stopping current rest records)
  /-- The next execution was not to be stopped any more. -/
  | refused (current : ExecutionId) (rest : List ExecutionId) (records : List BatchCancelRecord)
    (outcome : CancelRequestOutcome) (x : Execution) : e.executions current = some x →
    outcome ≠ .requested → outcome.Holds reason x →
    Advanced config e reason (.cancelling (current :: rest) records) e
      (.cancelling rest (records ++ [⟨current, outcome⟩]))
  /-- The accepted `control.cancel` has answered. -/
  | answered (current : ExecutionId) (rest : List ExecutionId)
    (records : List BatchCancelRecord) :
    Advanced config e reason (.stopping current rest records) e
      (.cancelling rest (records ++ [⟨current, .requested⟩]))

/-- A sweep does nothing to the executor but stop its executions. -/
theorem Advanced.stops {e f : Executor} {reason : CancelReason} {call call' : SweepCall}
    (moved : Advanced config e reason call f call') :
    f = e ∨ ∃ i, e.step config (.requestStop i (.cancel reason)) = some f := by
  cases moved with
  | granted current rest records stepped => exact Or.inr ⟨current, stepped⟩
  | ended | refused | answered => exact Or.inl rfl

/-- The executor takes at most one of its steps. -/
theorem Advanced.beaver {e f : Executor} {reason : CancelReason} {call call' : SweepCall}
    (moved : Advanced config e reason call f call') :
    f = e ∨ ∃ action, (executor config).step e action = some f :=
  moved.stops.imp_right fun ⟨i, stepped⟩ => ⟨.requestStop i (.cancel reason), stepped⟩

/-- What a step can do. -/
inductive Stepped (config : ExecutorConfig) (s : Sweeping) : Sweeping → Prop
  | ran {move : ExecutorAction} {f : Executor} : move.creates = none →
    s.beaver.step config move = some f → Stepped config s { s with beaver := f }
  | admitted {owner : Nat} {move : ExecutorAction} {id : ExecutionId} {f : Executor} :
    owner ∈ s.owners → move.creates = some id → s.beaver.step config move = some f →
    Stepped config s { s with beaver := f, borrows := (id, owner) :: s.borrows }
  | shared {owner new : Nat} : owner ∈ s.owners →
    Stepped config s { s with owners := insert new s.owners }
  | dropped {owner : Nat} : owner ∈ s.owners → s.Released owner →
    Stepped config s { s with owners := s.owners.erase owner }
  | lastDropped {owner sweep : Nat} {controls : List ExecutionId} : owner ∈ s.owners →
    s.Released owner → s.owners.erase owner = ∅ → s.Lists controls → s.sweeps sweep = none →
    Stepped config s ({ s with owners := s.owners.erase owner }.put sweep
      ⟨.lifetimeDropped, .executorShutdown, .cancelling controls []⟩ s.beaver)
  | begun {sweep : Nat} {origin : SweepOrigin} {reason : CancelReason}
    {controls : List ExecutionId} : s.sweeps sweep = none → controls.Nodup →
    origin ≠ .lifetimeDropped →
    Stepped config s (s.put sweep ⟨origin, reason, .cancelling controls []⟩ s.beaver)
  | advanced {sweep : Nat} {origin : SweepOrigin} {reason : CancelReason} {call call' : SweepCall}
    {f : Executor} : s.sweeps sweep = some ⟨origin, reason, call⟩ →
    Advanced config s.beaver reason call f call' →
    Stepped config s (s.put sweep ⟨origin, reason, call'⟩ f)

theorem Stepped.of_advance (found : s.sweeps sweep = some w)
    (advanced : s.advance config sweep w = some t) : Stepped config s t := by
  rcases w with ⟨origin, reason, call⟩
  unfold Sweeping.advance at advanced
  split at advanced
  · next records at_ =>
    cases advanced
    cases at_
    exact .advanced found (.ended records)
  · next current rest records at_ =>
    cases at_
    obtain ⟨x, here, advanced⟩ := Option.bind_eq_some_iff.1 advanced
    split at advanced
    · obtain ⟨beaver, stepped, rfl⟩ := Option.map_eq_some_iff.1 advanced
      exact .advanced found (.granted current rest records stepped)
    · next outcome refused =>
      cases advanced
      exact .advanced found (.refused current rest records _ x here refused
        (holds_of_requestStop rfl rfl refused))
  · next current rest records at_ =>
    cases at_
    split at advanced
    · cases advanced
      exact .advanced found (.answered current rest records)
    · cases advanced
  · cases advanced

theorem of_beginSweep {origin : SweepOrigin} {reason : CancelReason}
    {controls : List ExecutionId}
    (begun : s.beginSweep sweep origin reason controls = some t) :
    s.sweeps sweep = none ∧
      t = s.put sweep ⟨origin, reason, .cancelling controls []⟩ s.beaver := by
  unfold Sweeping.beginSweep at begun
  split at begun
  · next free =>
    cases begun
    exact ⟨free, rfl⟩
  · cases begun

theorem Stepped.of_dropOwner {owner : Nat} {controls : List ExecutionId}
    (dropped : s.dropOwner owner sweep controls = some t) : Stepped config s t := by
  unfold Sweeping.dropOwner at dropped
  split at dropped
  · next enabled =>
    dsimp only at dropped
    split at dropped
    · next last =>
      split at dropped
      · next lists =>
        obtain ⟨free, rfl⟩ := of_beginSweep dropped
        exact .lastDropped enabled.1 enabled.2 last lists free
      · cases dropped
    · cases dropped
      exact .dropped enabled.1 enabled.2
  · cases dropped

/-- A list of the registry has its executions. -/
theorem Lists.mem_iff {controls : List ExecutionId} (lists : s.Lists controls) {i : ExecutionId} :
    i ∈ controls ↔ i ∈ s.beaver.active := by
  rw [← lists.2, List.mem_toFinset]

theorem Stepped.of_step (step : s.step config labels action = some t) : Stepped config s t := by
  cases action with
  | executor action =>
    simp only [Sweeping.step] at step
    split at step
    · next creates =>
      obtain ⟨beaver, stepped, rfl⟩ := Option.map_eq_some_iff.1 step
      exact .ran creates stepped
    · cases step
  | lend owner action =>
    simp only [Sweeping.step] at step
    split at step
    · next alive =>
      obtain ⟨id, creates, step⟩ := Option.bind_eq_some_iff.1 step
      obtain ⟨beaver, stepped, rfl⟩ := Option.map_eq_some_iff.1 step
      exact .admitted alive creates stepped
    · cases step
  | share owner new =>
    simp only [Sweeping.step] at step
    split at step
    · next alive =>
      cases step
      exact .shared alive.1
    · cases step
  | dropOwner owner sweep controls => exact .of_dropOwner step
  | cancelSnapshot sweep selector reason controls =>
    simp only [Sweeping.step] at step
    split at step
    · next selects =>
      obtain ⟨free, rfl⟩ := of_beginSweep step
      refine .begun free (selects.1.imp Nat.ne_of_lt) (by simp)
    · cases step
  | cancelAll sweep controls =>
    simp only [Sweeping.step] at step
    split at step
    · next lists =>
      obtain ⟨free, rfl⟩ := of_beginSweep step
      exact .begun free lists.1 (by simp)
    · cases step
  | advance sweep =>
    obtain ⟨w, found, advanced⟩ := Option.bind_eq_some_iff.1 step
    exact .of_advance found advanced

/-- The executor takes at most one of its steps. -/
theorem Stepped.beaver (stepped : Stepped config s t) :
    t.beaver = s.beaver ∨
      ∃ action, (executor config).step s.beaver action = some t.beaver := by
  cases stepped with
  | @ran move f _ step | @admitted _ move _ f _ _ step => exact Or.inr ⟨move, step⟩
  | shared | dropped | lastDropped | begun => exact Or.inl rfl
  | advanced _ moved => exact moved.beaver

/-- A run of the sweeps is a run of the executor. -/
theorem executor_reaches {ok : Sweeping → SweepingAction → Prop}
    (run : (sweeping config labels).Reaches ok s t) :
    (executor config).Reaches (fun _ _ => True) s.beaver t.beaver := by
  refine run.map fun _ _ step => ?_
  rcases (Stepped.of_step step).beaver with same | ⟨action, stepped⟩
  · rw [same]
    exact .refl
  · exact .single trivial stepped

/-- One sweep at most takes part in a step. -/
theorem Stepped.sweeps (stepped : Stepped config s t) :
    t.sweeps = s.sweeps ∨ ∃ sweep w, t.sweeps = s.sweeps.set sweep w := by
  cases stepped with
  | ran | admitted | shared | dropped => exact Or.inl rfl
  | lastDropped | begun | advanced => exact Or.inr ⟨_, _, rfl⟩

/-- A sweep as it is after the step. -/
inductive Progress (config : ExecutorConfig) (s t : Sweeping) (sweep : Nat) (after : Sweep) : Prop
  | same : s.sweeps sweep = some after → Progress config s t sweep after
  | begun (controls : List ExecutionId) : after.call = .cancelling controls [] →
    s.sweeps sweep = none → controls.Nodup →
    (after.origin = .lifetimeDropped → t.owners = ∅ ∧ t.beaver = s.beaver ∧
      ∀ i ∈ s.beaver.active, i ∈ controls) →
    Progress config s t sweep after
  | moved (call : SweepCall) : s.sweeps sweep = some ⟨after.origin, after.reason, call⟩ →
    Advanced config s.beaver after.reason call t.beaver after.call →
    Progress config s t sweep after

/-- **One step, seen from every sweep.** -/
theorem Stepped.progress (stepped : Stepped config s t) {after : Sweep}
    (found : t.sweeps sweep = some after) : Progress config s t sweep after := by
  cases stepped with
  | ran | admitted | shared | dropped => exact .same found
  | lastDropped _ _ last lists free =>
    rcases Pool.of_set_eq_some found with ⟨rfl, rfl⟩ | ⟨-, earlier⟩
    · exact .begun _ rfl free lists.1 fun _ => ⟨last, rfl, fun i => lists.mem_iff.2⟩
    · exact .same earlier
  | begun free nodup other =>
    rcases Pool.of_set_eq_some found with ⟨rfl, rfl⟩ | ⟨-, earlier⟩
    · exact .begun _ rfl free nodup fun absurd => (other absurd).elim
    · exact .same earlier
  | advanced before moved =>
    rcases Pool.of_set_eq_some found with ⟨rfl, rfl⟩ | ⟨-, earlier⟩
    · exact .moved _ before moved
    · exact .same earlier

/-! ## What a sweep has come to -/

/-- A sweep answers for its snapshot and for nothing else. -/
theorem Advanced.snapshot {e f : Executor} {reason : CancelReason} {call call' : SweepCall}
    (moved : Advanced config e reason call f call') : call'.snapshot = call.snapshot := by
  cases moved <;> simp [SweepCall.snapshot, SweepCall.records, SweepCall.pending]

/-- What the sweep has been granted, it was granted before, or by this step. -/
theorem Advanced.granted_cases {e f : Executor} {reason : CancelReason} {call call' : SweepCall}
    {i : ExecutionId} (moved : Advanced config e reason call f call')
    (member : i ∈ call'.granted) :
    i ∈ call.granted ∨ e.step config (.requestStop i (.cancel reason)) = some f := by
  cases moved with
  | ended records => exact Or.inl member
  | granted current rest records stepped =>
    rcases List.mem_append.1 member with earlier | now
    · exact Or.inl (List.mem_append_left _ earlier)
    · obtain rfl := List.mem_singleton.1 now
      exact Or.inr stepped
  | refused current rest records outcome x here refused =>
    refine Or.inl ?_
    simpa [SweepCall.granted, SweepCall.records, List.filter_append, refused] using member
  | answered current rest records =>
    refine Or.inl ?_
    simpa [SweepCall.granted, SweepCall.records, List.filter_append] using member

/-- The answers are true, and what the sweep was granted is stopped for its reason. -/
structure Honest (e : Executor) (w : Sweep) : Prop where
  records : ∀ record ∈ w.call.records, ∃ x, e.executions record.executionId = some x ∧
    record.outcome.Holds w.reason x
  granted : ∀ i ∈ w.call.granted, ∃ x, e.executions i = some x ∧
    CancelRequestOutcome.requested.Holds w.reason x

/-- The executor's steps keep every answer true. -/
theorem Honest.step {e f : Executor} {move : ExecutorAction} (honest : Honest e w)
    (coupled : e.Coupled config) (step : e.step config move = some f) : Honest f w := by
  have run : (executor config).Reaches (fun _ _ => True) e f := .single trivial (a := move) step
  constructor
  · intro record member
    obtain ⟨x, found, holds⟩ := honest.records record member
    exact Executor.execution_stays coupled run found holds fun moved => moved.holds
  · intro i member
    obtain ⟨x, found, holds⟩ := honest.granted i member
    exact Executor.execution_stays coupled run found holds fun moved => moved.holds

theorem Honest.advance {e f : Executor} {origin : SweepOrigin} {reason : CancelReason}
    {call call' : SweepCall} (honest : Honest e ⟨origin, reason, call⟩)
    (coupled : e.Coupled config) (moved : Advanced config e reason call f call') :
    Honest f ⟨origin, reason, call'⟩ := by
  have kept : Honest f ⟨origin, reason, call⟩ := by
    rcases moved.beaver with same | ⟨move, stepped⟩
    · exact same ▸ honest
    · exact honest.step coupled stepped
  constructor
  · intro record member
    cases moved with
    | ended | granted => exact kept.records record member
    | refused current rest records outcome x here refused holds =>
      rcases List.mem_append.1 member with earlier | now
      · exact kept.records record earlier
      · obtain rfl := List.mem_singleton.1 now
        exact ⟨x, here, holds⟩
    | answered current rest records =>
      rcases List.mem_append.1 member with earlier | now
      · exact kept.records record earlier
      · obtain rfl := List.mem_singleton.1 now
        exact kept.granted current (by simp [SweepCall.granted])
  · intro i member
    rcases moved.granted_cases member with earlier | stopped
    · exact kept.granted i earlier
    · obtain ⟨-, y, -, -, there, holds⟩ := Executor.stopped_of_requestStop stopped
      exact ⟨y, there, holds⟩

/-- What holds of all sweeps of a run. -/
structure Swept (s : Sweeping) : Prop where
  honest : ∀ sweep w, s.sweeps sweep = some w → Honest s.beaver w
  nodup : ∀ sweep w, s.sweeps sweep = some w → w.call.snapshot.Nodup
  /-- No two sweeps were granted one execution. -/
  apart : ∀ sweep w other w', s.sweeps sweep = some w → s.sweeps other = some w' →
    ∀ i ∈ w.call.granted, i ∈ w'.call.granted → sweep = other

/-- A sweep that stood still and one that moved are not granted one execution. -/
theorem Swept.apart_step (swept : s.Swept) (step : Stepped config s t)
    {other : Nat} {w' : Sweep} (still : s.sweeps other = some w') (found : t.sweeps sweep = some w)
    {i : ExecutionId} (here : i ∈ w.call.granted) (there : i ∈ w'.call.granted) :
    sweep = other := by
  rcases step.progress found with same | ⟨controls, call, -⟩ | ⟨call, earlier, moved⟩
  · exact swept.apart sweep w other w' same still i here there
  · rw [call] at here
    cases here
  · rcases moved.granted_cases here with before | stopped
    · exact swept.apart sweep _ other w' earlier still i before there
    · -- nobody had stopped it before this step, and `other` had
      obtain ⟨x, -, at_i, free, -⟩ := Executor.stopped_of_requestStop stopped
      obtain ⟨y, at_i', holds⟩ := (swept.honest other w' still).granted i there
      cases at_i.symm.trans at_i'
      rw [show x.core.stopCause = _ from holds] at free
      cases free

theorem Swept.step (swept : s.Swept) (coupled : s.beaver.Coupled config)
    (step : Stepped config s t) : t.Swept := by
  constructor
  · intro sweep w found
    rcases step.progress found with same | ⟨controls, call, -⟩ | ⟨call, earlier, moved⟩
    · rcases step.beaver with still | ⟨move, stepped⟩
      · exact still ▸ swept.honest sweep w same
      · exact (swept.honest sweep w same).step coupled stepped
    · constructor <;> rw [call] <;> intro i absurd <;> cases absurd
    · exact (swept.honest sweep _ earlier).advance coupled moved
  · intro sweep w found
    rcases step.progress found with same | ⟨controls, call, -, nodup, -⟩ |
      ⟨call, earlier, moved⟩
    · exact swept.nodup sweep w same
    · rw [call]
      exact nodup
    · rw [moved.snapshot]
      exact swept.nodup sweep _ earlier
  · intro sweep w other w' found found' i here there
    by_contra apart
    have still : s.sweeps sweep = t.sweeps sweep ∨ s.sweeps other = t.sweeps other := by
      rcases step.sweeps with same | ⟨mover, after, moved⟩
      · exact Or.inl (congrFun same.symm sweep)
      · by_cases first : sweep = mover
        · refine Or.inr ?_
          rw [moved, Pool.set_of_ne fun second => apart (first.trans second.symm)]
        · refine Or.inl ?_
          rw [moved, Pool.set_of_ne first]
    rcases still with still | still
    · exact apart (swept.apart_step step (still.trans found) found' there here).symm
    · exact apart (swept.apart_step step (still.trans found') found here there)

theorem swept_of_reaches {ok : Sweeping → SweepingAction → Prop}
    (run : (sweeping config labels).Reaches ok (sweeping config labels).init s) : s.Swept := by
  induction run with
  | refl =>
    refine ⟨fun sweep w absurd => ?_, fun sweep w absurd => ?_,
      fun sweep w other w' absurd => ?_⟩ <;> cases absurd
  | tail before _ step ih =>
    exact ih.step (Executor.Coupled.of_reaches (executor_reaches before)) (.of_step step)

/-- From its first step on a sweep keeps its snapshot. -/
theorem snapshot_of_reaches {ok : Sweeping → SweepingAction → Prop}
    (run : (sweeping config labels).Reaches ok s t) (found : s.sweeps sweep = some w) :
    ∃ call, t.sweeps sweep = some ⟨w.origin, w.reason, call⟩ ∧
      call.snapshot = w.call.snapshot := by
  refine run.invariant (I := fun t => ∃ call, t.sweeps sweep = some ⟨w.origin, w.reason, call⟩ ∧
    call.snapshot = w.call.snapshot) ⟨w.call, found, rfl⟩ ?_
  rcases w with ⟨origin, reason, first⟩
  intro x y action inv _ taken
  have step := Stepped.of_step taken
  obtain ⟨call, before, snapshot⟩ := inv
  have there : ∃ after, y.sweeps sweep = some after := by
    rcases step.sweeps with same | ⟨mover, after, moved⟩
    · exact ⟨_, same ▸ before⟩
    · by_cases here : sweep = mover
      · subst here
        exact ⟨after, by rw [moved, Pool.set_self]⟩
      · exact ⟨_, by rw [moved, Pool.set_of_ne here, before]⟩
  obtain ⟨after, found'⟩ := there
  rcases step.progress found' with same | ⟨controls, -, absent, -⟩ | ⟨earlier, at_, moved⟩
  · cases before.symm.trans same
    exact ⟨call, found', snapshot⟩
  · cases before.symm.trans absent
  · rcases after with ⟨origin', reason', call'⟩
    cases before.symm.trans at_
    exact ⟨call', found', moved.snapshot.trans snapshot⟩

end Sweeping

/-! ## Results -/

section Results

variable {config : ExecutorConfig} {labels : ExecutionId → Labels} {s t u : Sweeping}

/-- **A batch cancellation reports its snapshot.**  The report of `cancel_snapshot` has one
record, in the order of the ids, for each execution that was in the registry and selected when
the call took the lock, whatever was admitted, cancelled or finished since; and each record is
true when the report is there: `Requested` of an execution stopped for the reason of this call,
`AlreadyStopping` and `AlreadyTerminal` of one that is. -/
theorem cancel_snapshot_report {sweep : Nat} {selector : TaskSelector} {reason : CancelReason}
    {controls : List ExecutionId} (reached : (sweeping config labels).Reachable s)
    (call : (sweeping config labels).step s (.cancelSnapshot sweep selector reason controls) =
      some t)
    (run : (sweeping config labels).Reaches (fun _ _ => True) t u) {w : Sweep}
    {records : List BatchCancelRecord} (found : u.sweeps sweep = some w)
    (returned : w.call = .returned records) :
    s.Selects labels selector (records.map BatchCancelRecord.executionId) ∧
      ∀ record ∈ records, ∃ x, u.beaver.executions record.executionId = some x ∧
        record.outcome.Holds reason x := by
  have reached' := reached.tail trivial call
  simp only [sweeping, Sweeping.step] at call
  split at call
  · next selects =>
    obtain ⟨-, begun⟩ := Sweeping.of_beginSweep call
    have first : t.sweeps sweep =
        some ⟨.cancelSnapshot selector, reason, .cancelling controls []⟩ := by
      rw [begun]
      exact Pool.set_self
    obtain ⟨last, at_u, snapshot⟩ := Sweeping.snapshot_of_reaches run first
    cases found.symm.trans at_u
    cases returned
    have swept := Sweeping.swept_of_reaches (reached'.trans run)
    refine ⟨?_, (swept.honest sweep _ found).records⟩
    simp only [SweepCall.snapshot, SweepCall.records, SweepCall.pending, List.append_nil,
      List.map_nil, List.nil_append] at snapshot
    rwa [snapshot]
  · cases call

/-- The admission of execution `i` to lane 0 of the first owner, up to its answer. -/
def admitted (i : ExecutionId) : List SweepingAction :=
  .lend 0 (.submit i 0 {} none false) :: List.replicate 5 (.executor (.advanceAdmission i))

/-- Executions 2 and 1 are queued, and somebody has stopped 2. -/
def partlyStopped : List SweepingAction :=
  admitted 2 ++ admitted 1 ++ [.executor (.requestStop 2 (.cancel .userRequested))]

/-- The sweep stops 1, lets its hook run, and finds 2 stopped. -/
def sweptThrough : List SweepingAction :=
  .advance 0 :: List.replicate 4 (.executor (.advanceStop 1)) ++ List.replicate 3 (.advance 0)

/-- Every execution is of one definition. -/
def plainLabels : ExecutionId → Labels := fun _ => ⟨0, none, none⟩

theorem cancel_snapshot_report_lane :
    ∃ s u : Sweeping,
      (sweeping smallExecutor plainLabels).exec (sweeping smallExecutor plainLabels).init
        partlyStopped = some s ∧
      (sweeping smallExecutor plainLabels).exec s
        (.cancelSnapshot 0 (.lane 0) .laneClosing [1, 2] :: sweptThrough) = some u ∧
      u.sweeps 0 = some ⟨.cancelSnapshot (.lane 0), .laneClosing,
        .returned [⟨1, .requested⟩, ⟨2, .alreadyStopping⟩]⟩ ∧
      s.Selects plainLabels (.lane 0) [1, 2] ∧
      ∀ record ∈ ([⟨1, .requested⟩, ⟨2, .alreadyStopping⟩] : List BatchCancelRecord),
        ∃ x, u.beaver.executions record.executionId = some x ∧
          record.outcome.Holds .laneClosing x := by
  have ends : ((sweeping smallExecutor plainLabels).exec
      (sweeping smallExecutor plainLabels).init
      (partlyStopped ++ .cancelSnapshot 0 (.lane 0) .laneClosing [1, 2] :: sweptThrough)).map
        (fun u => u.sweeps 0) = some (some ⟨.cancelSnapshot (.lane 0), .laneClosing,
          .returned [⟨1, .requested⟩, ⟨2, .alreadyStopping⟩]⟩) := by decide +kernel
  obtain ⟨u, run, found⟩ := Option.map_eq_some_iff.1 ends
  obtain ⟨s, t, before, reached, -, call, after⟩ :=
    System.Reaches.split run (.of_forall (fun _ _ => trivial) _ _)
  have report := cancel_snapshot_report reached call after found rfl
  refine ⟨s, u, before, ?_, found, report.1, report.2⟩
  rw [System.exec_append, before] at run
  exact run

/-- **A stop is granted once.**  However many sweeps run at once, two answers `Requested` about
one execution are one and the same record, and its stop cause is the reason that was given with
it. -/
theorem cancel_requested_once (reached : (sweeping config labels).Reachable s)
    {sweep other position place : Nat} {w w' : Sweep} {record record' : BatchCancelRecord}
    (found : s.sweeps sweep = some w) (found' : s.sweeps other = some w')
    (here : w.call.records[position]? = some record)
    (there : w'.call.records[place]? = some record')
    (requested : record.outcome = .requested) (requested' : record'.outcome = .requested)
    (same : record.executionId = record'.executionId) :
    (sweep = other ∧ position = place) ∧
      ∃ x, s.beaver.executions record.executionId = some x ∧
        x.core.stopCause = some (.cancel w.reason) := by
  have swept := Sweeping.swept_of_reaches reached
  have granted : ∀ {w : Sweep} {k : Nat} {r : BatchCancelRecord}, w.call.records[k]? = some r →
      r.outcome = .requested → r.executionId ∈ w.call.granted := by
    intro w k r at_ accepted
    refine List.mem_append_left _ (List.mem_map_of_mem (List.mem_filter.2 ⟨?_, ?_⟩))
    · exact List.mem_of_getElem? at_
    · simpa using accepted
  have one : sweep = other := by
    refine swept.apart sweep w other w' found found' _ (granted here requested) ?_
    rw [same]
    exact granted there requested'
  subst one
  cases found.symm.trans found'
  refine ⟨⟨rfl, ?_⟩, (swept.honest sweep w found).granted _ (granted here requested)⟩
  have nodup := (List.nodup_append.1 (swept.nodup sweep w found)).1
  have position_lt := (List.getElem?_eq_some_iff.1 here).1
  refine (List.getElem?_inj (l := w.call.records.map BatchCancelRecord.executionId) ?_ nodup).1 ?_
  · simpa using position_lt
  · simp [here, there, same]

/-- Two sweeps over executions 1 and 2, one step each in turn. -/
def sweptTwice : List SweepingAction :=
  List.flatten [admitted 1, admitted 2,
    [.cancelAll 0 [1, 2], .cancelAll 1 [2, 1], .advance 0, .advance 1],
    List.replicate 4 (.executor (.advanceStop 1)), List.replicate 4 (.executor (.advanceStop 2)),
    [.advance 0, .advance 1, .advance 0, .advance 1]]

theorem cancel_requested_once_twice :
    ∃ s, (sweeping smallExecutor plainLabels).exec (sweeping smallExecutor plainLabels).init
        sweptTwice = some s ∧
      (s.sweeps 0).map (fun w => w.call) =
        some (.cancelling [] [⟨1, .requested⟩, ⟨2, .alreadyStopping⟩]) ∧
      (s.sweeps 1).map (fun w => w.call) =
        some (.cancelling [] [⟨2, .requested⟩, ⟨1, .alreadyStopping⟩]) ∧
      ((0 = 0 ∧ 0 = 0) ∧ ∃ x, s.beaver.executions 1 = some x ∧
        x.core.stopCause = some (.cancel .userRequested)) := by
  have ends : ((sweeping smallExecutor plainLabels).exec
      (sweeping smallExecutor plainLabels).init sweptTwice).map
        (fun s => (s.sweeps 0, s.sweeps 1)) =
      some (some ⟨.cancelAll, .userRequested,
          .cancelling [] [⟨1, .requested⟩, ⟨2, .alreadyStopping⟩]⟩,
        some ⟨.cancelAll, .userRequested,
          .cancelling [] [⟨2, .requested⟩, ⟨1, .alreadyStopping⟩]⟩) := by decide +kernel
  obtain ⟨s, run, sweeps⟩ := Option.map_eq_some_iff.1 ends
  obtain ⟨first, second⟩ := Prod.mk.inj sweeps
  refine ⟨s, run, by rw [first]; rfl, by rw [second]; rfl, ?_⟩
  have here : (SweepCall.cancelling [] [⟨1, .requested⟩, ⟨2, .alreadyStopping⟩]).records[0]? =
    some ⟨1, .requested⟩ := rfl
  exact cancel_requested_once (.of_schedule _ run) first first here here rfl rfl rfl

end Results

end BusyBeaver
