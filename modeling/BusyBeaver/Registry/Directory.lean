import BusyBeaver.Executor.State
import BusyBeaver.Lib.WeakTable

/-!
# Named scopes and task slots

`Beaver::create_scope` and `Beaver::create_task_slot` (`src/beaver.rs`) are one procedure over
two weak maps: under the lifecycle lock and the map's own, drop the dead entries, hand out what
is alive under the name if it is bound to the same lane, and make a new one otherwise, within
the limit.  The handles are cloned and dropped outside of any lock, also between two sections
of a call.

At every moment a name has one living object at most, and the living objects are within the
limit (`directory_interns`); and every answer is right about a moment of its call
(`directory_answers`).
-/

namespace BusyBeaver

open Transition

/-! ## The calls -/

inductive DirectoryAnswer : Type
  | ok (object : Nat)
  | configConflict
  | resourceLimitExceeded
  | executorShuttingDown
  deriving DecidableEq, Repr

/-- A call that creates or returns the object named `key` on `lane`. -/
inductive CreateCall (κ : Type) : Type
  /-- The locks are held, and the dead entries are gone. -/
  | locked (key : κ) (lane : LaneId)
  /-- The living `object` is on another lane; dropping the upgraded reference is next. -/
  | conflicting (key : κ) (lane : LaneId) (object : Nat)
  | answered (key : κ) (lane : LaneId) (answer : DirectoryAnswer)
  deriving DecidableEq, Repr

/-- The call is inside the locks. -/
def CreateCall.isHolding {κ : Type} : CreateCall κ → Bool
  | .locked _ _ | .conflicting _ _ _ => true
  | .answered _ _ _ => false

structure Directory (κ : Type) : Type where
  /-- The lifecycle is `Running`. -/
  running : Bool
  /-- The map, and the objects that were ever made, with the lane each is on. -/
  table : WeakTable κ LaneId
  calls : Pool (CreateCall κ)
  /-- The call inside the lifecycle lock. -/
  holder : Option Nat

inductive DirectoryAction (κ : Type) : Type
  | create (caller : Nat) (key : κ) (lane : LaneId)
  /-- What the call does next; `fresh` is the object it makes if it makes one. -/
  | advance (caller fresh : Nat)
  | cloneHandle (object : Nat)
  | dropHandle (object : Nat)
  /-- The lifecycle leaves `Running`. -/
  | shutDown

namespace Directory

variable {κ : Type}

/-- The references that a call, and no handle, has to `object`. -/
def upgraded (s : Directory κ) (object : Nat) : Nat :=
  match s.holder.bind s.calls with
  | some (.conflicting _ _ held) => if held = object then 1 else 0
  | _ => 0

/-- The call answers and leaves the locks. -/
def answer (s : Directory κ) (caller : Nat) (key : κ) (lane : LaneId) (answer : DirectoryAnswer)
    (table : WeakTable κ LaneId) : Directory κ :=
  { s with
    table := table
    calls := s.calls.set caller (.answered key lane answer)
    holder := none }

variable [DecidableEq κ]

def advance (max : Nat) (s : Directory κ) (caller fresh : Nat) :
    CreateCall κ → Option (Directory κ)
  | .locked key lane =>
    match s.table.upgrade key with
    | some object =>
      match s.table.objects object with
      | some (_, existing) =>
        if existing = lane then
          some (s.answer caller key lane (.ok object) (s.table.clone object))
        else
          some
            { s with
              table := s.table.clone object
              calls := s.calls.set caller (.conflicting key lane object) }
      | none => none
    | none =>
      if max ≤ s.table.entries.size then
        some (s.answer caller key lane .resourceLimitExceeded s.table)
      else if s.table.objects fresh = none then
        some (s.answer caller key lane (.ok fresh) (s.table.insert key lane fresh))
      else none
  | .conflicting key lane object =>
    some (s.answer caller key lane .configConflict (s.table.drop object))
  | .answered _ _ _ => none

def step (max : Nat) (s : Directory κ) : DirectoryAction κ → Option (Directory κ)
  | .create caller key lane =>
    if s.calls caller = none ∧ s.holder = none then
      if s.running then
        some
          { s with
            table := s.table.retain
            calls := s.calls.set caller (.locked key lane)
            holder := some caller }
      else some (s.answer caller key lane .executorShuttingDown s.table)
    else none
  | .advance caller fresh => (s.calls caller).bind (s.advance max caller fresh)
  | .cloneHandle object =>
    if s.upgraded object < s.table.strong object then
      some { s with table := s.table.clone object }
    else none
  | .dropHandle object =>
    if s.upgraded object < s.table.strong object then
      some { s with table := s.table.drop object }
    else none
  | .shutDown => if s.holder = none then some { s with running := false } else none

end Directory

/-- A directory of at most `max` named objects, of a running `Beaver`. -/
def directory (κ : Type) [DecidableEq κ] (max : Nat) :
    System (Directory κ) (DirectoryAction κ) where
  init := ⟨true, .empty, fun _ => none, none⟩
  step := Directory.step max

/-- `Beaver::scopes`, by name. -/
def scopeDirectory (maxScopes : Nat) : System (Directory String) (DirectoryAction String) :=
  directory String maxScopes

/-- `Beaver::slots`, by key. -/
def slotDirectory (maxSlots : Nat) : System (Directory String) (DirectoryAction String) :=
  directory String maxSlots

namespace Directory

variable {κ : Type} [DecidableEq κ] {max : Nat} {s t : Directory κ} {action : DirectoryAction κ}
  {caller : Nat}

/-! ## One step -/

/-- What a step can do. -/
inductive Stepped (max : Nat) (s : Directory κ) : Directory κ → Prop
  | locked {caller : Nat} {key : κ} {lane : LaneId} : s.calls caller = none → s.holder = none →
    s.running = true →
    Stepped max s
      { s with
        table := s.table.retain
        calls := s.calls.set caller (.locked key lane)
        holder := some caller }
  | turnedAway {caller : Nat} {key : κ} {lane : LaneId} : s.calls caller = none →
    s.holder = none → s.running = false →
    Stepped max s (s.answer caller key lane .executorShuttingDown s.table)
  | existing {caller : Nat} {key : κ} {lane : LaneId} {object : Nat} :
    s.calls caller = some (.locked key lane) → s.table.upgrade key = some object →
    s.table.objects object = some (key, lane) →
    Stepped max s (s.answer caller key lane (.ok object) (s.table.clone object))
  | conflicting {caller : Nat} {key : κ} {lane existing : LaneId} {object : Nat} :
    s.calls caller = some (.locked key lane) → s.table.upgrade key = some object →
    s.table.objects object = some (key, existing) → existing ≠ lane →
    Stepped max s
      { s with
        table := s.table.clone object
        calls := s.calls.set caller (.conflicting key lane object) }
  | full {caller : Nat} {key : κ} {lane : LaneId} : s.calls caller = some (.locked key lane) →
    max ≤ s.table.entries.size →
    Stepped max s (s.answer caller key lane .resourceLimitExceeded s.table)
  | made {caller fresh : Nat} {key : κ} {lane : LaneId} :
    s.calls caller = some (.locked key lane) → s.table.upgrade key = none →
    s.table.entries.size < max → s.table.objects fresh = none →
    Stepped max s (s.answer caller key lane (.ok fresh) (s.table.insert key lane fresh))
  | conflict {caller : Nat} {key : κ} {lane : LaneId} {object : Nat} :
    s.calls caller = some (.conflicting key lane object) →
    Stepped max s (s.answer caller key lane .configConflict (s.table.drop object))
  | cloned {object : Nat} : s.table.Alive object →
    Stepped max s { s with table := s.table.clone object }
  | dropped {object : Nat} : Stepped max s { s with table := s.table.drop object }
  | stopped : Stepped max s { s with running := false }

theorem Stepped.of_advance {fresh : Nat} {call : CreateCall κ} (inv : s.table.Inv)
    (found : s.calls caller = some call) (step : s.advance max caller fresh call = some t) :
    Stepped max s t := by
  cases call with
  | locked key lane =>
    simp only [Directory.advance] at step
    split at step
    · next object upgrade =>
      obtain ⟨-, value, made⟩ := inv.of_upgrade upgrade
      simp only [made] at step
      split at step
      · next same =>
        subst same
        cases step
        exact .existing found upgrade made
      · next other =>
        cases step
        exact .conflicting found upgrade made other
    · next absent =>
      split at step
      · next full =>
        cases step
        exact .full found full
      · next room =>
        split at step
        · next unmade =>
          cases step
          exact .made found absent (Nat.lt_of_not_le room) unmade
        · cases step
  | conflicting key lane object =>
    cases step
    exact .conflict found
  | answered => cases step

theorem Stepped.of_step (inv : s.table.Inv) (step : s.step max action = some t) :
    Stepped max s t := by
  cases action with
  | create caller key lane =>
    simp only [Directory.step] at step
    split at step
    · next free =>
      split at step
      · next running =>
        cases step
        exact .locked free.1 free.2 running
      · next stopped =>
        cases step
        exact .turnedAway free.1 free.2 (by simpa using stopped)
    · cases step
  | advance caller fresh =>
    obtain ⟨call, found, step⟩ := Option.bind_eq_some_iff.1 step
    exact .of_advance inv found step
  | cloneHandle object =>
    simp only [Directory.step] at step
    split at step
    · next held =>
      cases step
      exact .cloned (Nat.zero_lt_of_lt held)
    · cases step
  | dropHandle object =>
    simp only [Directory.step] at step
    split at step
    · cases step
      exact .dropped
    · cases step
  | shutDown =>
    simp only [Directory.step] at step
    split at step
    · cases step
      exact .stopped
    · cases step

/-! ## What holds in every state -/

structure Inv (max : Nat) (s : Directory κ) : Prop where
  table : s.table.Inv
  size : s.table.entries.size ≤ max
  /-- Inside the locks there is one call. -/
  holding : ∀ i call, s.calls i = some call → call.isHolding = true → s.holder = some i

/-- A call answers. -/
theorem Inv.answer {key : κ} {lane : LaneId} {answer : DirectoryAnswer}
    {table : WeakTable κ LaneId} (inv : s.Inv max) (alone : ∀ i, s.holder = some i → i = caller)
    (interns : table.Inv) (size : table.entries.size ≤ max) :
    (s.answer caller key lane answer table).Inv max := by
  refine ⟨interns, size, fun i call found holding => ?_⟩
  rcases Pool.of_set_eq_some found with ⟨-, rfl⟩ | ⟨other, earlier⟩
  · cases holding
  · exact (other (alone i (inv.holding i call earlier holding))).elim

theorem Inv.alone {call : CreateCall κ} (inv : s.Inv max) (found : s.calls caller = some call)
    (holding : call.isHolding = true) (i : Nat) (holds : s.holder = some i) : i = caller :=
  Option.some.inj (holds.symm.trans (inv.holding caller call found holding))

theorem Inv.step (inv : s.Inv max) (stepped : Stepped max s t) : t.Inv max := by
  cases stepped with
  | @locked caller key lane fresh free running =>
    refine ⟨inv.table.retain, Nat.le_trans WeakTable.size_retain_le inv.size,
      fun i call found holding => ?_⟩
    rcases Pool.of_set_eq_some found with ⟨rfl, -⟩ | ⟨-, earlier⟩
    · rfl
    · have holds := inv.holding i call earlier holding
      rw [free] at holds
      cases holds
  | turnedAway fresh free =>
    refine inv.answer (fun i holds => ?_) inv.table inv.size
    rw [free] at holds
    cases holds
  | existing found upgrade =>
    exact inv.answer (inv.alone found rfl) (inv.table.clone (inv.table.of_upgrade upgrade).1)
      inv.size
  | @conflicting caller key lane existing object found upgrade =>
    refine ⟨inv.table.clone (inv.table.of_upgrade upgrade).1, inv.size,
      fun i call at_i holding => ?_⟩
    rcases Pool.of_set_eq_some at_i with ⟨rfl, -⟩ | ⟨-, earlier⟩
    · exact inv.holding _ _ found rfl
    · exact inv.holding i call earlier holding
  | full found => exact inv.answer (inv.alone found rfl) inv.table inv.size
  | made found absent room unmade =>
    exact inv.answer (inv.alone found rfl) (inv.table.insert absent unmade)
      (Nat.le_trans (WeakTable.size_insert_le _) room)
  | conflict found => exact inv.answer (inv.alone found rfl) inv.table.drop inv.size
  | cloned alive => exact ⟨inv.table.clone alive, inv.size, inv.holding⟩
  | dropped => exact ⟨inv.table.drop, inv.size, inv.holding⟩
  | stopped => exact ⟨inv.table, inv.size, inv.holding⟩

theorem inv_of_reaches {ok : Directory κ → DirectoryAction κ → Prop}
    (run : (directory κ max).Reaches ok (directory κ max).init s) : s.Inv max := by
  refine run.invariant ⟨.empty, Nat.zero_le _, fun i call absurd => ?_⟩
    fun inv _ step => inv.step (.of_step inv.table step)
  cases absurd

/-! ## What a call has seen -/

/-- `P` held in a state of the run. -/
def Since (max : Nat) (s t : Directory κ) (P : Directory κ → Prop) : Prop :=
  ∃ u, (directory κ max).Reaches (fun _ _ => True) s u ∧
    (directory κ max).Reaches (fun _ _ => True) u t ∧ P u

theorem Since.now {P : Directory κ → Prop}
    (run : (directory κ max).Reaches (fun _ _ => True) s t) (holds : P t) : Since max s t P :=
  ⟨t, run, .refl, holds⟩

theorem Since.tail {P : Directory κ → Prop} {u : Directory κ} (since : Since max s t P)
    (step : (directory κ max).step t action = some u) : Since max s u P := by
  obtain ⟨v, before, after, holds⟩ := since
  exact ⟨v, before, after.tail trivial step, holds⟩

/-- An answer is right about a state of the run. -/
def Right (max : Nat) (s t : Directory κ) (key : κ) (lane : LaneId) : DirectoryAnswer → Prop
  | .ok object => Since max s t fun u =>
    u.table.Alive object ∧ u.table.objects object = some (key, lane)
  | .configConflict => Since max s t fun u => ∃ object existing, u.table.Alive object ∧
    u.table.objects object = some (key, existing) ∧ existing ≠ lane
  | .resourceLimitExceeded => Since max s t fun u => u.table.living = max
  | .executorShuttingDown => Since max s t fun u => u.running = false

/-- What a call has come to is right about a state of the run; the entries it holds were all
alive when it took the locks. -/
def Justified (max : Nat) (s t : Directory κ) : CreateCall κ → Prop
  | .locked _ _ => Since max s t fun u => u.table.living = t.table.entries.size
  | .conflicting key lane _ => Right max s t key lane .configConflict
  | .answered key lane answer => Right max s t key lane answer

theorem Right.tail {key : κ} {lane : LaneId} {answer : DirectoryAnswer} {u : Directory κ}
    (right : Right max s t key lane answer)
    (step : (directory κ max).step t action = some u) : Right max s u key lane answer := by
  cases answer with
  | ok | configConflict | resourceLimitExceeded | executorShuttingDown =>
    exact Since.tail right step

/-- A call that did not move keeps what it has come to. -/
theorem Justified.tail {call : CreateCall κ} {u : Directory κ} (justified : Justified max s t call)
    (step : (directory κ max).step t action = some u)
    (kept : call.isHolding = true → u.table.entries.size = t.table.entries.size) :
    Justified max s u call := by
  cases call with
  | locked key lane =>
    obtain ⟨v, before, after, living⟩ := justified
    exact ⟨v, before, after.tail trivial step, living.trans (kept rfl).symm⟩
  | conflicting key lane object =>
    have right : Right max s t key lane .configConflict := justified
    exact right.tail step
  | answered key lane answer =>
    have right : Right max s t key lane answer := justified
    exact right.tail step

/-- **One step, seen from every call**: it stands still, with the entries it holds, or it moves to
what the state after the step, or the one before it, bears out. -/
theorem Justified.step {u : Directory κ} (inv : t.Inv max)
    (run : (directory κ max).Reaches (fun _ _ => True) s t)
    (step : (directory κ max).step t action = some u)
    (before : ∀ call, t.calls caller = some call → Justified max s t call) :
    ∀ call, u.calls caller = some call → Justified max s u call := by
  intro call found
  have after := run.tail trivial step
  -- another call, or a handle, moved
  have still : ∀ {other : Nat} {moved : CreateCall κ},
      (t.calls.set other moved) caller = some call → (caller = other → False) →
      (call.isHolding = true → u.table.entries.size = t.table.entries.size) →
      Justified max s u call := by
    intro other moved at_ apart kept
    rw [Pool.set_of_ne apart] at at_
    exact (before call at_).tail step kept
  have alone : ∀ {other : Nat} {c : CreateCall κ}, t.calls other = some c → c.isHolding = true →
      caller ≠ other → t.calls caller = some call → call.isHolding = true → False := by
    intro other c at_other holds apart at_ holding
    exact apart (inv.alone at_other holds caller (inv.holding caller call at_ holding))
  cases Stepped.of_step inv.table step with
  | @locked other key lane fresh free running =>
    rcases Pool.of_set_eq_some found with ⟨rfl, rfl⟩ | ⟨apart, earlier⟩
    · exact .now after WeakTable.living_retain
    · refine still found apart fun holding => ?_
      have holds := inv.holding caller call earlier holding
      rw [free] at holds
      cases holds
  | @turnedAway other key lane fresh free stopped =>
    rcases Pool.of_set_eq_some found with ⟨rfl, rfl⟩ | ⟨apart, -⟩
    · exact Since.now after stopped
    · exact still found apart fun _ => rfl
  | @existing other key lane object at_other upgrade made =>
    rcases Pool.of_set_eq_some found with ⟨rfl, rfl⟩ | ⟨apart, -⟩
    · exact Since.now after ⟨WeakTable.alive_clone_self, made⟩
    · exact still found apart fun _ => rfl
  | @conflicting other key lane existing object at_other upgrade made different =>
    rcases Pool.of_set_eq_some found with ⟨rfl, rfl⟩ | ⟨apart, -⟩
    · exact Since.now after ⟨object, existing, WeakTable.alive_clone_self, made, different⟩
    · exact still found apart fun _ => rfl
  | @full other key lane at_other full =>
    rcases Pool.of_set_eq_some found with ⟨rfl, rfl⟩ | ⟨apart, -⟩
    · obtain ⟨v, first, then_, living⟩ := before _ at_other
      exact ⟨v, first, then_.tail trivial step,
        living.trans (Nat.le_antisymm inv.size full)⟩
    · exact still found apart fun _ => rfl
  | @made other fresh key lane at_other absent room unmade =>
    rcases Pool.of_set_eq_some found with ⟨rfl, rfl⟩ | ⟨apart, earlier⟩
    · exact Since.now after ⟨WeakTable.alive_insert, Pool.set_self⟩
    · exact still found apart fun holding => (alone at_other rfl apart earlier holding).elim
  | @conflict other key lane object at_other =>
    rcases Pool.of_set_eq_some found with ⟨rfl, rfl⟩ | ⟨apart, -⟩
    · have right : Right max s t key lane .configConflict := before _ at_other
      exact right.tail step
    · exact still found apart fun _ => rfl
  | cloned => exact (before call found).tail step fun _ => rfl
  | dropped => exact (before call found).tail step fun _ => rfl
  | stopped => exact (before call found).tail step fun _ => rfl

theorem justified_of_reaches (reached : (directory κ max).Reachable s)
    (fresh : s.calls caller = none)
    (run : (directory κ max).Reaches (fun _ _ => True) s t) :
    ∀ call, t.calls caller = some call → Justified max s t call := by
  induction run with
  | refl =>
    intro call found
    rw [fresh] at found
    cases found
  | tail run _ step ih => exact Justified.step (inv_of_reaches (reached.trans run)) run step ih

end Directory

/-! ## Results -/

section Results

variable {κ : Type} [DecidableEq κ] {max : Nat} {s t : Directory κ}

/-- **A name has one living object.**  In every state, however the calls interleave with clones
and drops of the handles, two living objects under one name are the same; and the number of
living objects, which is what `Beaver::snapshot` counts, is within the limit. -/
theorem directory_interns (reached : (directory κ max).Reachable s) :
    (∀ object other key lane lane', s.table.objects object = some (key, lane) →
      s.table.objects other = some (key, lane') → s.table.Alive object → s.table.Alive other →
      object = other) ∧
    ∃ living : Finset Nat, (∀ object, object ∈ living ↔ s.table.Alive object) ∧
      living.card = s.table.living ∧ living.card ≤ max := by
  have inv := Directory.inv_of_reaches reached
  refine ⟨fun object other key lane lane' here there alive alive' =>
    inv.table.unique here there alive alive', ?_⟩
  obtain ⟨living, mem, card⟩ := inv.table.exists_living
  exact ⟨living, mem, card, card ▸ Nat.le_trans WeakTable.living_le inv.size⟩

/-- One object is allowed.  Caller 0 makes "a" on lane 0, caller 1 gets the same one, caller 2 asks
for it on lane 1, and caller 3 asks for another name. -/
def namedObjects : List (DirectoryAction String) :=
  [.create 0 "a" 0, .advance 0 7, .create 1 "a" 0, .advance 1 8, .create 2 "a" 1, .advance 2 8,
    .advance 2 8, .create 3 "b" 0, .advance 3 8]

theorem directory_interns_named :
    ∃ s, (scopeDirectory 1).exec (scopeDirectory 1).init namedObjects = some s ∧
      s.table.living = 1 ∧
      ∃ living : Finset Nat, (∀ object, object ∈ living ↔ s.table.Alive object) ∧
        living.card = s.table.living ∧ living.card ≤ 1 := by
  have ends : ((scopeDirectory 1).exec (scopeDirectory 1).init namedObjects).map
      (fun s => s.table.living) = some 1 := by decide +kernel
  obtain ⟨s, run, living⟩ := Option.map_eq_some_iff.1 ends
  exact ⟨s, run, living, (directory_interns (.of_schedule namedObjects run)).2⟩

/-- **Every answer was right.**  A call that answers `Ok` hands out an object of its name and
lane that was alive during the call; it reports a conflict only if during the call an object of
its name was alive on another lane, the limit only if as many objects as the limit were alive at
once, and a shutdown only if there is one. -/
theorem directory_answers (reached : (directory κ max).Reachable s) {caller : Nat}
    (fresh : s.calls caller = none)
    (run : (directory κ max).Reaches (fun _ _ => True) s t) {key : κ} {lane : LaneId}
    {answer : DirectoryAnswer} (answered : t.calls caller = some (.answered key lane answer)) :
    Directory.Right max s t key lane answer :=
  Directory.justified_of_reaches reached fresh run _ answered

theorem directory_answers_named :
    ∃ s, (slotDirectory 1).exec (slotDirectory 1).init namedObjects = some s ∧
      s.calls 2 = some (.answered "a" 1 .configConflict) ∧
      s.calls 3 = some (.answered "b" 0 .resourceLimitExceeded) ∧
      Directory.Right 1 (slotDirectory 1).init s "a" 1 .configConflict ∧
      Directory.Right 1 (slotDirectory 1).init s "b" 0 .resourceLimitExceeded := by
  have ends : ((slotDirectory 1).exec (slotDirectory 1).init namedObjects).map
      (fun s => (s.calls 2, s.calls 3)) =
      some (some (.answered "a" 1 .configConflict),
        some (.answered "b" 0 .resourceLimitExceeded)) := by decide +kernel
  obtain ⟨s, run, calls⟩ := Option.map_eq_some_iff.1 ends
  obtain ⟨conflict, limit⟩ := Prod.mk.inj calls
  have unborn : ∀ caller, (slotDirectory 1).init.calls caller = none := fun _ => rfl
  have after := System.Reaches.of_schedule namedObjects run
  exact ⟨s, run, conflict, limit, directory_answers .refl (unborn 2) after conflict,
    directory_answers .refl (unborn 3) after limit⟩

end Results

end BusyBeaver
