import BusyBeaver.Shutdown.Barrier
import BusyBeaver.Lib.History

/-!
# A lane that cannot be built

`enqueue_on_new_thread` builds the dam of a new name under the mutexes `lifecycle` and `named`,
and `mpsc::channel` panics for a capacity of zero or above the permits of a semaphore.  A panic
poisons what the call holds, and whoever locks it later answers `LockPoisoned`; only the shutdown
supervisor recovers.  So a `Beaver` is taken here together with the poison of its two mutexes.

A call of `enqueue_on_new_thread` fails cleanly in every run if and only if each of them finds the
mutexes unpoisoned by others and has no lane to build, or a capacity for it
(`enqueue_on_new_thread_clean_iff`).
-/

namespace BusyBeaver

open Transition

inductive BeaverMutex : Type
  | lifecycle
  | named
  deriving DecidableEq, Repr

/-- The calls that have been answered with `LockPoisoned` are `refused`. -/
structure GuardedBeaver : Type where
  beaver : Beaver
  poisoned : BeaverMutex → Bool
  refused : List BeaverAction

inductive GuardedAction : Type
  | beaver (action : BeaverAction)
  /-- Another call unwinds in code of the user that it runs under the mutex: the destructor of a
  future that `spawn_future` rejects, `Into<String>` in `release_thread_resource_by_name`. -/
  | unwind (mutex : BeaverMutex)

/-- `mpsc::channel` takes the capacity. -/
def channelAccepts (maxPermits buffer : Nat) : Bool := decide (1 ≤ buffer ∧ buffer ≤ maxPermits)

namespace Beaver

/-- The next section of the call starts with `self.lifecycle.lock()`. -/
def locksLifecycle (s : Beaver) : BeaverAction → Bool
  | .spawn _ _ _ | .createLane _ => true
  | .legacy (.enqueue _) | .legacy (.enqueueOnNewThread _ _ _ _) => true
  | .shutdown caller (.proceed _) =>
    match s.shutdowns caller with
    | some (.validated _) => decide (s.slotHolder = none) && s.shutdownProcess.isSome
    | some (.created _) => true
    | _ => false
  | _ => false

/-- The next section of the call takes the mutex `named`, and passes a poisoned one on. -/
def locksNamed (s : Beaver) : BeaverAction → Bool
  | .legacy (.enqueueOnNewThread _ _ _ _) => decide (s.lifecycle = .running)
  | .legacy (.advance call _) =>
    match s.legacy.calls[call]?.map LegacyCall.steps with
    | some (.clearNamed :: _) | some (.removeTemporary :: _) | some (.removeNamed _ :: _) => true
    | _ => false
  | _ => false

/-- The name has a lane. -/
def hasLane (s : Beaver) (name : String) : Bool :=
  s.legacy.named.any fun entry => decide (entry.name = name)

/-- The names of the map and their dams. -/
def namedLanes (s : Beaver) : List (String × Nat) :=
  s.legacy.named.map fun entry => (entry.name, entry.dam)

/-- `LockPoisoned` ends the call: the guards it has are given back, and the sections that were to
come do not run. -/
def answerPoisoned (s : Beaver) : BeaverAction → Beaver
  | .shutdown caller _ =>
    { s with slotHolder := none }.setShutdown caller (.returned (.error .lockPoisoned))
  | .legacy (.advance call _) =>
    match s.legacy.calls[call]? with
    | some found => { s with legacy := s.legacy.setCall call { found with steps := [] } }
    | none => s
  | _ => s

end Beaver

namespace GuardedBeaver

def poison (s : GuardedBeaver) (mutex : BeaverMutex) : GuardedBeaver :=
  { s with poisoned := Function.update s.poisoned mutex true }

/-- Nobody holds the mutex over more than one step. -/
def free (s : GuardedBeaver) : BeaverMutex → Bool
  | .lifecycle => decide (s.beaver.lifecycleHolder = none)
  | .named => true

/-- A mutex that the section takes is poisoned. -/
def meetsPoison (s : GuardedBeaver) (action : BeaverAction) : Bool :=
  (s.poisoned .lifecycle && s.beaver.locksLifecycle action) ||
    (s.poisoned .named && s.beaver.locksNamed action)

/-- The closure of `or_insert_with` runs, and `mpsc::channel` panics in it. -/
def buildPanics (maxPermits : Nat) (s : GuardedBeaver) : BeaverAction → Bool
  | .legacy (.enqueueOnNewThread _ name buffer _) =>
    decide (s.beaver.lifecycle = .running) && !s.beaver.hasLane name &&
      !channelAccepts maxPermits buffer
  | _ => false

/-- A section of a call, or the whole of another action. -/
def act (config : BeaverConfig) (maxPermits : Nat) (s : GuardedBeaver) (action : BeaverAction) :
    Option GuardedBeaver :=
  if s.meetsPoison action then
    if s.beaver.locksLifecycle action = false ∨ s.free .lifecycle then
      some { s with
        beaver := s.beaver.answerPoisoned action
        refused := s.refused ++ [action] }
    else none
  else if s.buildPanics maxPermits action then
    -- both guards are dropped by the unwinding; the vacant entry of the map stays vacant
    if s.free .lifecycle then some ((s.poison .named).poison .lifecycle) else none
  else (s.beaver.step config action).map fun beaver => { s with beaver := beaver }

def step (config : BeaverConfig) (maxPermits : Nat) (s : GuardedBeaver) :
    GuardedAction → Option GuardedBeaver
  | .beaver action => s.act config maxPermits action
  | .unwind mutex => if s.free mutex then some (s.poison mutex) else none

end GuardedBeaver

/-- A `Beaver` as `build_with_handle` leaves it, its mutexes unpoisoned. -/
def guardedBeaver (config : BeaverConfig) (maxPermits : Nat) :
    System GuardedBeaver GuardedAction where
  init := ⟨(beaver config).init, fun _ => false, []⟩
  step := GuardedBeaver.step config maxPermits

namespace GuardedBeaver

variable {config : BeaverConfig} {maxPermits : Nat} {s t : GuardedBeaver}

def Unpoisoned (s : GuardedBeaver) : Prop := ∀ mutex, s.poisoned mutex = false

/-- No call answers `LockPoisoned` for a poisoned mutex. -/
def Serves (s : GuardedBeaver) : Prop := ∀ action, s.meetsPoison action = false

theorem Unpoisoned.serves (unpoisoned : s.Unpoisoned) : s.Serves := by
  intro action
  simp [meetsPoison, unpoisoned .lifecycle, unpoisoned .named]

@[simp] theorem poison_poisoned {mutex other : BeaverMutex} :
    (s.poison mutex).poisoned other = (decide (other = mutex) || s.poisoned other) := by
  by_cases same : other = mutex
  · simp [poison, same]
  · simp [poison, same]

/-! ## What a step does -/

/-- The cases of a step. -/
inductive Guarded (config : BeaverConfig) (maxPermits : Nat) (s : GuardedBeaver) :
    GuardedAction → GuardedBeaver → Prop
  | refused {action : BeaverAction} (poisoned : s.meetsPoison action = true) :
    Guarded config maxPermits s (.beaver action)
      { s with beaver := s.beaver.answerPoisoned action, refused := s.refused ++ [action] }
  | panicked {action : BeaverAction} (served : s.meetsPoison action = false)
      (panics : s.buildPanics maxPermits action = true) (free : s.free .lifecycle = true) :
    Guarded config maxPermits s (.beaver action) ((s.poison .named).poison .lifecycle)
  | stepped {action : BeaverAction} {after : Beaver} (served : s.meetsPoison action = false)
      (builds : s.buildPanics maxPermits action = false)
      (step : s.beaver.step config action = some after) :
    Guarded config maxPermits s (.beaver action) { s with beaver := after }
  | unwound {mutex : BeaverMutex} (free : s.free mutex = true) :
    Guarded config maxPermits s (.unwind mutex) (s.poison mutex)

theorem Guarded.of_step {action : GuardedAction} (step : s.step config maxPermits action = some t) :
    Guarded config maxPermits s action t := by
  cases action with
  | beaver action =>
    simp only [GuardedBeaver.step, act] at step
    by_cases poisoned : s.meetsPoison action = true
    · rw [if_pos poisoned] at step
      split at step
      · cases step
        exact .refused poisoned
      · cases step
    · rw [if_neg poisoned] at step
      rw [Bool.not_eq_true] at poisoned
      by_cases panics : s.buildPanics maxPermits action = true
      · rw [if_pos panics] at step
        split at step
        · rename_i free
          cases step
          exact .panicked poisoned panics free
        · cases step
      · rw [if_neg panics] at step
        rw [Bool.not_eq_true] at panics
        obtain ⟨after, moved, rfl⟩ := Option.map_eq_some_iff.1 step
        exact .stepped poisoned panics moved
  | unwind mutex =>
    simp only [GuardedBeaver.step] at step
    split at step
    · rename_i free
      cases step
      exact .unwound free
    · cases step

/-- A poisoned mutex stays poisoned. -/
theorem Guarded.poisoned {action : GuardedAction} (guarded : Guarded config maxPermits s action t)
    {mutex : BeaverMutex} (before : s.poisoned mutex = true) : t.poisoned mutex = true := by
  cases guarded with
  | refused _ => exact before
  | panicked _ _ _ => simp [before]
  | stepped _ _ _ => exact before
  | unwound _ => simp [before]

/-- What poisons a mutex. -/
theorem Guarded.cause {action : GuardedAction} (guarded : Guarded config maxPermits s action t)
    {mutex : BeaverMutex} (after : t.poisoned mutex = true) :
    s.poisoned mutex = true ∨ action = .unwind mutex ∨
      ∃ call, action = .beaver call ∧ s.buildPanics maxPermits call = true ∧
        s.free .lifecycle = true := by
  cases guarded with
  | refused _ => exact .inl after
  | @panicked call _ panics free => exact .inr (.inr ⟨call, rfl, panics, free⟩)
  | stepped _ _ _ => exact .inl after
  | @unwound other _ =>
    rw [poison_poisoned] at after
    by_cases same : mutex = other
    · exact .inr (.inl (same ▸ rfl))
    · exact .inl (by simpa [same] using after)

/-- While the mutexes are unpoisoned, the steps are those of the `Beaver`. -/
theorem Guarded.beaver_step {action : GuardedAction}
    (guarded : Guarded config maxPermits s action t) (unpoisoned : t.Unpoisoned) :
    s.Unpoisoned ∧ ∃ call, action = .beaver call ∧ s.beaver.step config call = some t.beaver := by
  have earlier : s.Unpoisoned := by
    intro mutex
    by_contra before
    have after := guarded.poisoned (Bool.not_eq_false _ ▸ before)
    rw [unpoisoned mutex] at after
    cases after
  refine ⟨earlier, ?_⟩
  cases guarded with
  | @refused call poisoned =>
    rw [earlier.serves call] at poisoned
    cases poisoned
  | panicked _ _ _ =>
    have clear := unpoisoned .lifecycle
    simp at clear
  | @stepped call after _ _ step => exact ⟨call, rfl, step⟩
  | @unwound mutex _ =>
    have clear := unpoisoned mutex
    simp at clear

/-! ## One call -/

/-- A call of `enqueue_on_new_thread`, when it comes to its locks. -/
abbrev enqueueCall (task : LegacyTask) (name : String) (buffer : Nat) (longResident : Bool) :
    BeaverAction :=
  .legacy (.enqueueOnNewThread task name buffer longResident)

/-- Nothing is to be built for the name, or the channel takes the capacity. -/
def Admissible (maxPermits : Nat) (s : GuardedBeaver) (name : String) (buffer : Nat) : Prop :=
  s.beaver.lifecycle ≠ .running ∨ s.beaver.hasLane name = true ∨
    channelAccepts maxPermits buffer = true

/-- The call answers, and its section leaves the mutexes as the next calls need them; without a
new lane it leaves the map and the lifecycle too. -/
structure Clean (config : BeaverConfig) (maxPermits : Nat) (s : GuardedBeaver)
    (call : BeaverAction) (t : GuardedBeaver) : Prop where
  taken : s.act config maxPermits call = some t
  returns : s.buildPanics maxPermits call = false
  unchanged : t.beaver.legacy.dams = s.beaver.legacy.dams →
    t.beaver.namedLanes = s.beaver.namedLanes ∧ t.beaver.lifecycle = s.beaver.lifecycle ∧
      t.Unpoisoned
  serves : t.Serves

variable {task : LegacyTask} {name : String} {buffer : Nat} {longResident : Bool}

theorem buildPanics_eq_false :
    s.buildPanics maxPermits (enqueueCall task name buffer longResident) = false ↔
      s.Admissible maxPermits name buffer := by
  simp only [buildPanics, Admissible, Bool.and_eq_false_iff, decide_eq_false_iff_not,
    Bool.not_eq_false', or_assoc, ne_eq]

/-- What the section of the `Beaver` does, with the mutexes served. -/
theorem step_enqueueCall (free : s.beaver.lifecycleHolder = none) :
    s.beaver.step config (enqueueCall task name buffer longResident) =
      some { s.beaver with
        legacy := s.beaver.legacy.enqueueOnNewThread (decide (s.beaver.lifecycle = .running))
          task name buffer longResident } := by
  rw [Beaver.step, Beaver.runLegacy]
  exact if_pos free

theorem map_setResident (entries : List NamedEntry) :
    (entries.map (NamedEntry.setResident name longResident)).map
        (fun entry => (entry.name, entry.dam)) =
      entries.map fun entry => (entry.name, entry.dam) := by
  rw [List.map_map]
  refine List.map_congr_left fun entry _ => ?_
  simp only [Function.comp_apply, NamedEntry.setResident]
  split <;> rfl

/-- Without a new dam the map keeps its names and their dams. -/
theorem lanes_of_enqueueOnNewThread {legacy : Legacy} {running : Bool}
    (same : (legacy.enqueueOnNewThread running task name buffer longResident).dams = legacy.dams) :
    (legacy.enqueueOnNewThread running task name buffer longResident).named.map
      (fun entry => (entry.name, entry.dam)) =
        legacy.named.map fun entry => (entry.name, entry.dam) := by
  unfold Legacy.enqueueOnNewThread at same ⊢
  split
  · rfl
  · rename_i on
    rw [if_neg on] at same
    split
    · exact map_setResident _
    · rename_i absent
      rw [absent] at same
      have longer := congrArg List.length same
      rw [List.length_append, List.length_singleton] at longer
      omega

/-- **Step lemma.**  A call fails cleanly if and only if it finds the mutexes unpoisoned and
nothing that it cannot build. -/
theorem clean_iff (free : s.beaver.lifecycleHolder = none) :
    (∃ t, s.Clean config maxPermits (enqueueCall task name buffer longResident) t) ↔
      s.Unpoisoned ∧ s.Admissible maxPermits name buffer := by
  constructor
  · rintro ⟨t, clean⟩
    refine ⟨?_, buildPanics_eq_false.1 clean.returns⟩
    have taken : s.step config maxPermits
      (.beaver (enqueueCall task name buffer longResident)) = some t := clean.taken
    -- a call that is refused builds nothing, so it is not clean either
    cases Guarded.of_step taken with
    | refused poisoned =>
      exact fun mutex => (clean.unchanged rfl).2.2 mutex
    | panicked _ panics _ =>
      rw [clean.returns] at panics
      cases panics
    | @stepped _ after served _ step =>
      intro mutex
      have answers := clean.serves
      cases mutex with
      | lifecycle =>
        simp [meetsPoison, Beaver.locksLifecycle] at served
        exact served.1
      | named =>
        by_cases running : s.beaver.lifecycle = .running
        · simp [meetsPoison, Beaver.locksLifecycle, Beaver.locksNamed, running] at served
          exact served.2
        · rw [step_enqueueCall free, decide_eq_false running] at step
          cases step
          exact (clean.unchanged rfl).2.2 .named
  · rintro ⟨unpoisoned, admissible⟩
    have builds : s.buildPanics maxPermits (enqueueCall task name buffer longResident) = false :=
      buildPanics_eq_false.2 admissible
    let after : Beaver :=
      { s.beaver with
        legacy := s.beaver.legacy.enqueueOnNewThread (decide (s.beaver.lifecycle = .running))
          task name buffer longResident }
    refine ⟨{ s with beaver := after }, ?_, builds, ?_, ?_⟩
    · rw [act, if_neg (Bool.eq_false_iff.1 (unpoisoned.serves _)),
        if_neg (Bool.eq_false_iff.1 builds), step_enqueueCall free]
      rfl
    · intro same
      exact ⟨lanes_of_enqueueOnNewThread same, rfl, unpoisoned⟩
    · exact Unpoisoned.serves unpoisoned

/-! ## Runs -/

section Result

variable {actions before : List GuardedAction}

/-- The run comes to a call of `enqueue_on_new_thread` after the actions `before`. -/
def CallsEnqueue (config : BeaverConfig) (maxPermits : Nat) (actions before : List GuardedAction)
    (call : BeaverAction) (s : GuardedBeaver) : Prop :=
  (∃ after, actions = before ++ .beaver call :: after) ∧
    (guardedBeaver config maxPermits).exec (guardedBeaver config maxPermits).init before = some s ∧
      s.beaver.lifecycleHolder = none

/-- **Simulation.**  A run that leaves the mutexes unpoisoned is a run of the `Beaver`: nothing
that it does later is refused. -/
theorem beaver_exec_of_unpoisoned
    (run : (guardedBeaver config maxPermits).exec (guardedBeaver config maxPermits).init actions =
      some s) (unpoisoned : s.Unpoisoned) :
    ∃ calls : List BeaverAction, actions = calls.map GuardedAction.beaver ∧
      (BusyBeaver.beaver config).exec (BusyBeaver.beaver config).init calls = some s.beaver := by
  revert unpoisoned
  refine System.exec_invariant (I := fun actions s => s.Unpoisoned →
    ∃ calls : List BeaverAction, actions = calls.map GuardedAction.beaver ∧
      (BusyBeaver.beaver config).exec (BusyBeaver.beaver config).init calls = some s.beaver)
    ?_ ?_ run
  · intro _
    exact ⟨[], rfl, rfl⟩
  · intro actions x y action _ ih taken unpoisoned
    have step : x.step config maxPermits action = some y := taken
    obtain ⟨earlier, call, rfl, moved⟩ := (Guarded.of_step step).beaver_step unpoisoned
    obtain ⟨calls, rfl, reached⟩ := ih earlier
    exact ⟨calls ++ [call], by simp, System.exec_snoc reached moved⟩

/-- User code that has unwound under a mutex leaves it poisoned. -/
theorem poisoned_of_unwound {mutex : BeaverMutex}
    (run : (guardedBeaver config maxPermits).exec (guardedBeaver config maxPermits).init actions =
      some s) (unwound : .unwind mutex ∈ actions) : s.poisoned mutex = true := by
  revert unwound
  refine System.exec_invariant (I := fun actions s => .unwind mutex ∈ actions →
    s.poisoned mutex = true) ?_ ?_ run
  · intro absent
    cases absent
  · intro actions x y action _ ih taken unwound
    have step : x.step config maxPermits action = some y := taken
    have guarded := Guarded.of_step step
    rcases List.mem_append.1 unwound with earlier | last
    · exact guarded.poisoned (ih earlier)
    · obtain rfl := List.mem_singleton.1 last
      cases guarded with
      | unwound _ => simp

/-- Every poison comes from user code that has unwound, or from a lane that could not be built. -/
theorem cause_of_poisoned {mutex : BeaverMutex}
    (run : (guardedBeaver config maxPermits).exec (guardedBeaver config maxPermits).init actions =
      some s) (poisoned : s.poisoned mutex = true) :
    .unwind mutex ∈ actions ∨ ∃ before call x,
      CallsEnqueue config maxPermits actions before call x ∧
      x.buildPanics maxPermits call = true := by
  revert poisoned
  refine System.exec_invariant (I := fun actions s => s.poisoned mutex = true →
    .unwind mutex ∈ actions ∨ ∃ before call x,
      CallsEnqueue config maxPermits actions before call x ∧
        x.buildPanics maxPermits call = true) ?_ ?_ run
  · intro poisoned
    cases poisoned
  · intro actions x y action reached ih taken poisoned
    have step : x.step config maxPermits action = some y := taken
    rcases (Guarded.of_step step).cause poisoned with earlier | rfl | ⟨call, rfl, panics, free⟩
    · rcases ih earlier with unwound | ⟨before, call, z, ⟨⟨after, split⟩, run, held⟩, panics⟩
      · exact .inl (List.mem_append_left _ unwound)
      · refine .inr ⟨before, call, z, ⟨⟨after ++ [action], ?_⟩, run, held⟩, panics⟩
        rw [split, List.append_assoc, List.cons_append]
    · exact .inl (List.mem_append_right _ List.mem_cons_self)
    · exact .inr ⟨actions, call, x, ⟨⟨[], rfl⟩, reached, of_decide_eq_true free⟩, panics⟩

/-- Only `enqueue_on_new_thread` builds a lane. -/
theorem enqueueCall_of_panics {call : BeaverAction}
    (panics : s.buildPanics maxPermits call = true) :
    ∃ task name buffer longResident, call = enqueueCall task name buffer longResident := by
  unfold buildPanics at panics
  split at panics
  · exact ⟨_, _, _, _, rfl⟩
  · cases panics

/-- **Main result.**  In every run, each call of `enqueue_on_new_thread` answers and leaves the
`Beaver` to the next calls, if and only if each finds that no code of the user has unwound under
the mutexes, and that the `Beaver` is shutting down, the name has its lane, or the channel takes
the capacity. -/
theorem enqueue_on_new_thread_clean_iff (config : BeaverConfig) (maxPermits : Nat)
    (actions : List GuardedAction) :
    (∀ before task name buffer longResident s,
        CallsEnqueue config maxPermits actions before
          (enqueueCall task name buffer longResident) s →
      ∃ t, s.Clean config maxPermits (enqueueCall task name buffer longResident) t) ↔
    ∀ before task name buffer longResident s,
        CallsEnqueue config maxPermits actions before
          (enqueueCall task name buffer longResident) s →
      (∀ mutex, .unwind mutex ∉ before) ∧ s.Admissible maxPermits name buffer := by
  constructor
  · intro clean before task name buffer longResident s calls
    have found := (clean_iff calls.2.2).1 (clean before task name buffer longResident s calls)
    refine ⟨fun mutex unwound => ?_, found.2⟩
    have poisoned := poisoned_of_unwound calls.2.1 unwound
    rw [found.1 mutex] at poisoned
    cases poisoned
  · intro good before task name buffer longResident s calls
    obtain ⟨calm, admissible⟩ := good before task name buffer longResident s calls
    refine (clean_iff calls.2.2).2 ⟨fun mutex => ?_, admissible⟩
    by_contra poisoned
    obtain ⟨⟨after, split⟩, run, free⟩ := calls
    rcases cause_of_poisoned run (Bool.not_eq_false _ ▸ poisoned) with unwound | earlier
    · exact calm mutex unwound
    · obtain ⟨first, call, x, ⟨⟨rest, cut⟩, reached, held⟩, panics⟩ := earlier
      obtain ⟨task', name', buffer', longResident', rfl⟩ := enqueueCall_of_panics panics
      -- the call that has panicked is one of the run
      have bad := good first task' name' buffer' longResident' x
        ⟨⟨rest ++ .beaver (enqueueCall task name buffer longResident) :: after, by
          rw [split, cut, List.append_assoc, List.cons_append]⟩, reached, held⟩
      have builds : x.buildPanics maxPermits (enqueueCall task' name' buffer' longResident') =
          false := buildPanics_eq_false.2 bad.2
      rw [builds] at panics
      cases panics

/-- A lane for no message, on a `Beaver` that has just been built. -/
def zeroCapacity : BeaverAction := enqueueCall (.fixedCount 1) "sync" 0 false

/-- The call panics, and after it `enqueue` and `shutdown` answer `LockPoisoned`. -/
theorem zero_capacity_poisons :
    ∃ s t, CallsEnqueue Beaver.smallBeaver (2 ^ 61 - 1) [.beaver zeroCapacity] [] zeroCapacity s ∧
      s.buildPanics (2 ^ 61 - 1) zeroCapacity = true ∧
      (¬ ∃ t, s.Clean Beaver.smallBeaver (2 ^ 61 - 1) zeroCapacity t) ∧
      s.act Beaver.smallBeaver (2 ^ 61 - 1) zeroCapacity = some t ∧
      t.meetsPoison (.legacy (.enqueue (.fixedCount 1))) = true ∧
      ((guardedBeaver Beaver.smallBeaver (2 ^ 61 - 1)).exec t
        [.beaver (.callShutdown 0 {} 0), .beaver (.shutdown 0 (.proceed 0)),
          .beaver (.shutdown 0 (.proceed 0))]).bind (fun u => u.beaver.shutdowns 0) =
        some (.returned (.error .lockPoisoned)) := by
  have panics : (guardedBeaver Beaver.smallBeaver (2 ^ 61 - 1)).init.buildPanics (2 ^ 61 - 1)
      zeroCapacity = true := rfl
  refine ⟨_, _, ⟨⟨[], rfl⟩, rfl, rfl⟩, panics, ?_, rfl, rfl, rfl⟩
  rintro ⟨t, clean⟩
  rw [clean.returns] at panics
  cases panics

end Result

end GuardedBeaver

end BusyBeaver
