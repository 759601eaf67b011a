import BusyBeaver.Legacy.Dam
import BusyBeaver.Execution.State

/-!
# The legacy calls of a `Beaver`

`enqueue`, `enqueue_on_new_thread`, `cancel_all`, `cancel_non_long_resident` and
`release_thread_resource_by_name` (`src/beaver.rs`) run as programs of sections: what a call
still has to do is its list of `CallStep`s, and a call holds a dam as long as a step of it
mentions the dam.  A dam that nobody holds is dropped, which is a program as well.
-/

namespace BusyBeaver

/-- An entry of the map `named`, under its key. -/
structure NamedEntry : Type where
  name : String
  dam : Nat
  longResident : Bool
  deriving DecidableEq, Repr

/-- `entry.long_resident = long_resident` at the key. -/
def NamedEntry.setResident (name : String) (longResident : Bool) (entry : NamedEntry) :
    NamedEntry :=
  if entry.name = name then { entry with longResident := longResident } else entry

inductive CallStep : Type
  /-- `control.cancel` of one of the typed executions -/
  | cancelTyped (id : ExecutionId)
  /-- `self.default.lock()?.as_ref().cloned()`, to cancel it -/
  | cloneDefault
  /-- The section on `named` of `cancel_all`. -/
  | clearNamed
  /-- The section on `named` of `cancel_non_long_resident`. -/
  | removeTemporary
  /-- The section on `named` of `release_thread_resource_by_name`. -/
  | removeNamed (name : String)
  | work (dam : Nat) (step : DamStep)
  deriving DecidableEq, Repr

/-- The dam a step works on. -/
def CallStep.target : CallStep → Option Nat
  | .work dam _ => some dam
  | _ => none

/-- The steps of a program on one dam. -/
def onDam (dam : Nat) (steps : List DamStep) : List CallStep := steps.map (.work dam)

structure LegacyCall : Type where
  steps : List CallStep
  answer : Except LegacyError Unit

/-- The call refers to the dam. -/
def LegacyCall.holds (call : LegacyCall) (dam : Nat) : Bool :=
  call.steps.any fun step => decide (step.target = some dam)

/-- The dams and who refers to them.  `left` is a history: the dams that a call took out of
`named`, in that order. -/
structure Legacy : Type where
  default : Option Nat
  named : List NamedEntry
  dams : List Dam
  calls : List LegacyCall
  left : List Nat
  nextExecution : Nat

namespace Legacy

/-- A `Beaver` as `build_with_handle` leaves it. -/
def new (buffer : Nat) : Legacy where
  default := some 0
  named := []
  dams := [.withHandle buffer]
  calls := []
  left := []
  nextExecution := 0

def begin (legacy : Legacy) (steps : List CallStep) : Legacy :=
  { legacy with calls := legacy.calls ++ [⟨steps, .ok ()⟩] }

def refuse (legacy : Legacy) (error : LegacyError) : Legacy :=
  { legacy with calls := legacy.calls ++ [⟨[], .error error⟩] }

/-! ## The sections under the lifecycle lock -/

/-- The section of `enqueue`. -/
def enqueue (legacy : Legacy) (running : Bool) (task : LegacyTask) : Legacy :=
  if !running then legacy.refuse .executorShuttingDown
  else
    match legacy.default with
    | some dam => legacy.begin (onDam dam (Dam.enqueue task))
    | none => legacy.refuse .noDam

/-- The section of `enqueue_on_new_thread`. -/
def enqueueOnNewThread (legacy : Legacy) (running : Bool) (task : LegacyTask) (name : String)
    (buffer : Nat) (longResident : Bool) : Legacy :=
  if !running then legacy.refuse .executorShuttingDown
  else
    match legacy.named.find? fun entry => decide (entry.name = name) with
    | some entry =>
      let called := legacy.begin (onDam entry.dam (Dam.enqueue task))
      { called with named := legacy.named.map (NamedEntry.setResident name longResident) }
    | none =>
      let called := legacy.begin (onDam legacy.dams.length (Dam.enqueue task))
      { called with
        named := legacy.named ++ [⟨name, legacy.dams.length, longResident⟩]
        dams := legacy.dams ++ [Dam.withHandle buffer] }

/-! ## The other sections -/

/-- `cancel_all`, once it has the typed controls. -/
def cancelAll (legacy : Legacy) (controls : List ExecutionId) : Legacy :=
  legacy.begin (controls.map .cancelTyped ++ [.cloneDefault, .clearNamed])

def cancelNonLongResident (legacy : Legacy) : Legacy :=
  legacy.begin [.cloneDefault, .removeTemporary]

def releaseThreadResourceByName (legacy : Legacy) (name : String) : Legacy :=
  legacy.begin [.removeNamed name]

/-- Dam `dam` is rewritten. -/
def setDam (legacy : Legacy) (dam : Nat) (after : Dam) : Legacy :=
  { legacy with dams := legacy.dams.set dam after }

/-- Call `call` is rewritten. -/
def setCall (legacy : Legacy) (call : Nat) (after : LegacyCall) : Legacy :=
  { legacy with calls := legacy.calls.set call after }

/-- Entries leave the map for a call. -/
def takeNamed (legacy : Legacy) (taken : NamedEntry → Bool) : Legacy × List Nat :=
  let dams := (legacy.named.filter taken).map NamedEntry.dam
  ({ legacy with
      named := legacy.named.filter fun entry => !taken entry
      left := legacy.left ++ dams }, dams)

/-- One section of a program on a dam; an execution that is created has the next identity. -/
def damStep (legacy : Legacy) (dam : Nat) (step : DamStep) :
    Option (Except LegacyError (Legacy × List DamStep)) :=
  legacy.dams[dam]?.map fun found =>
    match found.step legacy.nextExecution step with
    | .error error => .error error
    | .ok (after, steps) =>
      .ok ({ legacy.setDam dam after with nextExecution := legacy.nextExecution + 1 }, steps)

/-- The next section of a call, but for `cancelTyped`; a map gives up its entries in some
order, `dams`. -/
def advance (legacy : Legacy) (call : Nat) (dams : List Nat) : Option Legacy :=
  match legacy.calls[call]? with
  | some ⟨.cloneDefault :: rest, answer⟩ =>
    let steps := legacy.default.elim [] fun dam => onDam dam Dam.cancelAll
    some (legacy.setCall call ⟨steps ++ rest, answer⟩)
  | some ⟨.clearNamed :: rest, answer⟩ =>
    let (after, taken) := legacy.takeNamed fun _ => true
    if dams.isPerm taken then
      some (after.setCall call ⟨dams.flatMap (onDam · Dam.cancelAll) ++ rest, answer⟩)
    else none
  | some ⟨.removeTemporary :: rest, answer⟩ =>
    let (after, taken) := legacy.takeNamed fun entry => !entry.longResident
    if dams.isPerm taken then
      some (after.setCall call ⟨dams.flatMap (onDam · Dam.cancelAll) ++ rest, answer⟩)
    else none
  | some ⟨.removeNamed name :: rest, answer⟩ =>
    let (after, taken) := legacy.takeNamed fun entry => decide (entry.name = name)
    if dams = taken then
      some (after.setCall call ⟨dams.flatMap (onDam · Dam.release) ++ rest, answer⟩)
    else none
  | some ⟨.work dam step :: rest, answer⟩ =>
    (legacy.damStep dam step).map fun
      | .error error => legacy.setCall call ⟨[], .error error⟩
      | .ok (after, steps) => after.setCall call ⟨onDam dam steps ++ rest, answer⟩
  | _ => none

/-- Somebody refers to the dam; `supervised` are the dams the shutdown supervisor holds. -/
def holds (legacy : Legacy) (supervised : List Nat) (dam : Nat) : Bool :=
  decide (legacy.default = some dam) || legacy.named.any (fun entry => decide (entry.dam = dam)) ||
    legacy.calls.any (fun call => call.holds dam) || decide (dam ∈ supervised)

/-- The last reference to the dam is gone: its `Drop` runs. -/
def dropDam (legacy : Legacy) (supervised : List Nat) (dam : Nat) : Option Legacy :=
  match legacy.dams[dam]? with
  | some found =>
    if found.dropped || legacy.holds supervised dam then none
    else some ((legacy.setDam dam { found with dropped := true }).begin (onDam dam Dam.release))
  | none => none

/-- A section of a dam's worker, or of the task it has spawned. -/
def runDam (legacy : Legacy) (dam : Nat) (step : Dam → Option Dam) : Option Legacy :=
  legacy.dams[dam]?.bind fun found => (step found).map (legacy.setDam dam)

end Legacy

end BusyBeaver
