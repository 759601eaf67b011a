import BusyBeaver.Admission.Calls
import BusyBeaver.Lane.Run

/-!
# Under which mutexes a refused submission is dropped

A call drops its submission with no mutex held when it refuses it before it keeps a guard, and
not at all when the submission is accepted or has gone to the dispatcher.  In between, it
drops the submission under the guards of its callers: under `lifecycle` for a direct spawn
that the registry refuses, under `admission_open` for a lane that refuses it on insertion, and
under the state mutex of a scope whenever its lane refuses (`drops_freely_iff`).
-/

namespace BusyBeaver

open Guarded Checked

/-! ## The registry -/

namespace RegisterReadings

/-- The resource that is used up. -/
def refusal (readings : RegisterReadings) : Option String :=
  if readings.tagTooLong then some "tag bytes"
  else if readings.maxActiveExecutions ≤ readings.active then some "active executions"
  else none

end RegisterReadings

theorem register_runs (readings : RegisterReadings) (held : List ExecutorMutex) :
    Runs (register readings) held readings.refusal held [] := by
  unfold register RegisterReadings.refusal
  split
  · exact .pure _ held
  · exact .locking (.pure _ _)

/-! ## Direct spawns -/

/-- The call gives up before it has made a start. -/
def SpawnReadings.GivesUp (readings : SpawnReadings) : Prop :=
  readings.poisoned = true ∨ readings.lifecycle ≠ .running ∨ readings.runtime = false

theorem spawnStart_of_givesUp {readings : SpawnReadings} (gives : readings.GivesUp) :
    Drops (spawnStart readings) [] [] [[]] := by
  have refuses : ∀ error : BeaverError, Drops (release ExecutorMutex.lifecycle >>= fun _ =>
      destroy >>= fun _ => (pure (.error error) : Guarded ExecutorMutex (Except BeaverError Unit)))
        [.lifecycle] [] [[]] :=
    fun error => .seq (.release _ _) ⟨_, .discard _ _⟩
  refine .seq (.acquire _ _) ?_
  by_cases poisoned : readings.poisoned = true
  · rw [if_pos poisoned]
    exact refuses _
  · rw [if_neg poisoned]
    by_cases running : readings.lifecycle ≠ .running
    · rw [if_pos running]
      exact refuses _
    · have runtime := (gives.resolve_left poisoned).resolve_left running
      rw [if_neg running, if_pos runtime]
      exact refuses _

theorem spawnStart_of_not_givesUp {readings : SpawnReadings} (goes : ¬ readings.GivesUp) :
    Drops (spawnStart readings) [] []
      (readings.registering.refusal.elim [] fun _ => [[.lifecycle]]) := by
  have poisoned : ¬ readings.poisoned = true := fun poisoned => goes (Or.inl poisoned)
  have running : ¬ readings.lifecycle ≠ .running := fun left => goes (Or.inr (Or.inl left))
  have runtime : ¬ readings.runtime = false := fun absent => goes (Or.inr (Or.inr absent))
  refine .seq (.acquire _ _) ?_
  rw [if_neg poisoned, if_neg running, if_neg runtime]
  refine .seq (register_runs readings.registering [.lifecycle]) ?_
  cases readings.registering.refusal with
  | none => exact ⟨_, .unlock _ _ _⟩
  | some resource => exact ⟨_, (Runs.destroy [ExecutorMutex.lifecycle]).bind (.unlock _ _ _)⟩

/-- The call gives up, or the registry takes the execution. -/
def SpawnReadings.DropsFreely (readings : SpawnReadings) : Prop :=
  readings.GivesUp ∨ readings.registering.refusal = none

theorem spawnStart_freely_iff (readings : SpawnReadings) :
    (∀ held ∈ drops (spawnStart readings), held = []) ↔ readings.DropsFreely := by
  by_cases gives : readings.GivesUp
  · rw [(spawnStart_of_givesUp gives).drops_eq]
    simp [SpawnReadings.DropsFreely, gives]
  · rw [(spawnStart_of_not_givesUp gives).drops_eq]
    cases refusal : readings.registering.refusal <;>
      simp [SpawnReadings.DropsFreely, gives, refusal]

/-! ## Lanes -/

/-- What is removed is the entry that was there. -/
theorem LaneState.removeQueued_entry (state : LaneState) (executionId : ExecutionId) :
    (state.removeQueued executionId).2.1 = state.entries.lookup executionId := by
  unfold LaneState.removeQueued
  cases state.entries.lookup executionId with
  | none => rfl
  | some entry => rfl

namespace LaneReadings

variable (readings : LaneReadings) (options : SpawnOptions) (waiterTicket : Option Nat)

/-- The answer of the admission check. -/
def refusal : Option SpawnError :=
  if readings.admissionOpen then readings.checked.admissionError readings.config waiterTicket
  else some .executorShuttingDown

/-- The lane has room for the start when it is to be inserted. -/
def HasRoom : Prop :=
  readings.inserting.admissionError readings.config waiterTicket = none ∧
    (∃ refcount, readings.inserting.nextKeyRefcount readings.config options.orderingKey =
      .ok refcount) ∧
    readings.inserting.nextSequence < u64Max

/-- The start is inserted, and does not come back: the registry takes the execution, or it is
not in the queue any more. -/
def Keeps : Prop :=
  readings.HasRoom options waiterTicket ∧
    (readings.registering.refusal = none ∨
      readings.removing.entries.lookup readings.executionId = none)

theorem hasRoom_iff :
    readings.HasRoom options waiterTicket ↔ ∃ after, readings.inserting.insertPrepared
      readings.config readings.executionId options waiterTicket = .ok after := by
  unfold HasRoom LaneState.insertPrepared
  cases readings.inserting.admissionError readings.config waiterTicket with
  | some error => simp
  | none =>
    cases readings.inserting.nextKeyRefcount readings.config options.orderingKey with
    | error error => simp
    | ok refcount =>
      have fits : (add u64Max readings.inserting.nextSequence 1).isSome = true ↔
          readings.inserting.nextSequence < u64Max := by
        unfold add
        split <;> simp <;> omega
      cases next : add u64Max readings.inserting.nextSequence 1 with
      | none => simp [← fits, next]
      | some sequence => simp [← fits, next]

end LaneReadings

namespace Lane

variable {readings : LaneReadings} {options : SpawnOptions} {waiterTicket : Option Nat}

theorem checkTryAdmissionFor_runs (readings : LaneReadings) (waiterTicket : Option Nat)
    (held : List ExecutorMutex) :
    Runs (checkTryAdmissionFor readings waiterTicket) held
      ((readings.refusal waiterTicket).elim (.ok ()) .error)
      ((readings.refusal waiterTicket).elim (.admissionOpen :: held) fun _ => held) [] := by
  unfold checkTryAdmissionFor LaneReadings.refusal
  refine .seq (.acquire _ _) ?_
  by_cases opened : readings.admissionOpen = true
  · rw [if_pos opened, if_pos opened]
    refine .seq (.locking (.pure _ _)) ?_
    cases readings.checked.admissionError readings.config waiterTicket with
    | some error => exact .unlock _ _ _
    | none => exact .pure _ _
  · rw [if_neg opened, if_neg opened]
    exact .unlock _ _ _

theorem removeQueued_runs (readings : LaneReadings) (held : List ExecutorMutex) :
    Runs (removeQueued readings) held () held
      ((readings.removing.entries.lookup readings.executionId).elim [] fun _ => [held]) := by
  have section_ : Runs (locking ExecutorMutex.laneState
      (pure (readings.removing.removeQueued readings.executionId).2.1)) held
      (readings.removing.entries.lookup readings.executionId) held [] := by
    refine .locking ?_
    rw [LaneState.removeQueued_entry]
    exact .pure _ _
  refine .seq section_ ?_
  cases readings.removing.entries.lookup readings.executionId with
  | none => exact .pure _ _
  | some entry => exact .destroy held

theorem insertPrepared_of_keeps (keeps : readings.Keeps options waiterTicket)
    (held : List ExecutorMutex) :
    Drops (insertPrepared readings options waiterTicket) held held [] := by
  obtain ⟨room, stays⟩ := keeps
  obtain ⟨after, inserted⟩ := (readings.hasRoom_iff options waiterTicket).1 room
  refine .seq (.locking (.pure _ _)) ?_
  rw [inserted]
  refine .seq (register_runs readings.registering held) ?_
  cases refusal : readings.registering.refusal with
  | none => exact ⟨_, .pure _ _⟩
  | some resource =>
    have gone := stays.resolve_left (by simp [refusal])
    have removes := removeQueued_runs readings held
    rw [gone] at removes
    exact .seq removes ⟨_, .pure _ _⟩

theorem insertPrepared_of_not_keeps (refuses : ¬ readings.Keeps options waiterTicket)
    (held : List ExecutorMutex) :
    Drops (insertPrepared readings options waiterTicket) held held [held] := by
  refine .seq (.locking (.pure _ _)) ?_
  cases inserted : readings.inserting.insertPrepared readings.config readings.executionId options
      waiterTicket with
  | error error => exact ⟨_, .discard _ _⟩
  | ok after =>
    have room := (readings.hasRoom_iff options waiterTicket).2 ⟨after, inserted⟩
    refine .seq (register_runs readings.registering held) ?_
    cases refusal : readings.registering.refusal with
    | none => exact (refuses ⟨room, Or.inl refusal⟩).elim
    | some resource =>
      have removes := removeQueued_runs readings held
      cases queued : readings.removing.entries.lookup readings.executionId with
      | none => exact (refuses ⟨room, Or.inr queued⟩).elim
      | some entry =>
        rw [queued] at removes
        exact ⟨_, removes.bind (.pure _ _)⟩

/-- The end of every submission to a lane: the start is inserted under the admission lock. -/
theorem insert_of_keeps (keeps : readings.Keeps options waiterTicket) (held : List ExecutorMutex) :
    Drops (insertPrepared readings options waiterTicket >>= fun result =>
      release ExecutorMutex.admissionOpen >>= fun _ => pure result) (.admissionOpen :: held) held
        [] := by
  obtain ⟨answer, inserts⟩ := insertPrepared_of_keeps keeps (.admissionOpen :: held)
  exact .seq inserts ⟨_, .unlock _ _ _⟩

theorem insert_of_not_keeps (refuses : ¬ readings.Keeps options waiterTicket)
    (held : List ExecutorMutex) :
    Drops (insertPrepared readings options waiterTicket >>= fun result =>
      release ExecutorMutex.admissionOpen >>= fun _ => pure result) (.admissionOpen :: held) held
        [.admissionOpen :: held] := by
  obtain ⟨answer, inserts⟩ := insertPrepared_of_not_keeps refuses (.admissionOpen :: held)
  exact ⟨_, inserts.bind (.unlock _ _ _)⟩

theorem submitStart_of_refused (refused : readings.refusal waiterTicket ≠ none)
    (held : List ExecutorMutex) :
    Drops (submitStart readings options waiterTicket) held held [held] := by
  have checks := checkTryAdmissionFor_runs readings waiterTicket held
  obtain ⟨error, refusal⟩ := Option.ne_none_iff_exists'.1 refused
  rw [refusal] at checks
  exact .seq checks ⟨_, .discard _ _⟩

theorem submitStart_of_keeps (passes : readings.refusal waiterTicket = none)
    (keeps : readings.Keeps options waiterTicket) (held : List ExecutorMutex) :
    Drops (submitStart readings options waiterTicket) held held [] := by
  have checks := checkTryAdmissionFor_runs readings waiterTicket held
  rw [passes] at checks
  exact .seq checks (insert_of_keeps keeps held)

theorem submitStart_of_not_keeps (passes : readings.refusal waiterTicket = none)
    (refuses : ¬ readings.Keeps options waiterTicket) (held : List ExecutorMutex) :
    Drops (submitStart readings options waiterTicket) held held [.admissionOpen :: held] := by
  have checks := checkTryAdmissionFor_runs readings waiterTicket held
  rw [passes] at checks
  exact .seq checks (insert_of_not_keeps refuses held)

end Lane

/-- The lane refuses at once, or it keeps the start. -/
def LaneReadings.DropsFreely (readings : LaneReadings) (options : SpawnOptions)
    (waiterTicket : Option Nat) : Prop :=
  readings.refusal waiterTicket ≠ none ∨ readings.Keeps options waiterTicket

theorem submitStart_freely_iff (readings : LaneReadings) (options : SpawnOptions)
    (waiterTicket : Option Nat) :
    (∀ held ∈ drops (Lane.submitStart readings options waiterTicket), held = []) ↔
      readings.DropsFreely options waiterTicket := by
  by_cases passes : readings.refusal waiterTicket = none
  · by_cases keeps : readings.Keeps options waiterTicket
    · rw [(Lane.submitStart_of_keeps passes keeps []).drops_eq]
      simp [LaneReadings.DropsFreely, keeps]
    · rw [(Lane.submitStart_of_not_keeps passes keeps []).drops_eq]
      simp [LaneReadings.DropsFreely, passes, keeps]
  · rw [(Lane.submitStart_of_refused passes []).drops_eq]
    simp [LaneReadings.DropsFreely, passes]

/-! ## Retries -/

/-- The deadline passes, or the lane refuses at once or keeps the start. -/
def LaneReadings.DropsRetryFreely (readings : LaneReadings) (deadline : Option Instant)
    (before after : Instant) (waiterTicket : Option Nat) : Prop :=
  Lane.missed deadline before = true ∨ readings.refusal waiterTicket ≠ none ∨
    Lane.missed deadline after = true ∨ readings.Keeps {} waiterTicket

theorem trySpawnRetryAt_freely_iff (readings : LaneReadings) (deadline : Option Instant)
    (before after : Instant) (waiterTicket : Option Nat) :
    (∀ held ∈ drops (Lane.trySpawnRetryAt readings deadline before after waiterTicket),
        held = []) ↔
      readings.DropsRetryFreely deadline before after waiterTicket := by
  unfold LaneReadings.DropsRetryFreely Lane.trySpawnRetryAt
  by_cases early : Lane.missed deadline before = true
  · rw [if_pos early, Drops.drops_eq ⟨_, .discard _ _⟩]
    simp [early]
  · rw [if_neg early]
    have checks := Lane.checkTryAdmissionFor_runs readings waiterTicket []
    cases refusal : readings.refusal waiterTicket with
    | some error =>
      rw [refusal] at checks
      rw [Drops.drops_eq (.seq checks ⟨_, .discard _ _⟩)]
      simp
    | none =>
      rw [refusal] at checks
      by_cases late : Lane.missed deadline after = true
      · simp only [if_pos late]
        rw [Drops.drops_eq (.seq checks (.seq (.release _ _) ⟨_, .discard _ _⟩))]
        simp [late]
      · simp only [if_neg late]
        by_cases keeps : readings.Keeps {} waiterTicket
        · rw [Drops.drops_eq (.seq checks (Lane.insert_of_keeps keeps []))]
          simp [keeps]
        · rw [Drops.drops_eq (.seq checks (Lane.insert_of_not_keeps keeps []))]
          simp [early, late, keeps]

theorem trySpawnRetry_freely_iff (readings : LaneReadings) (deadline : Option (Option Instant))
    (before after : Instant) :
    (∀ held ∈ drops (Lane.trySpawnRetry readings deadline before after), held = []) ↔
      ∀ reached, deadline = some reached →
        readings.DropsRetryFreely reached before after none := by
  cases deadline with
  | none =>
    rw [Lane.trySpawnRetry, Drops.drops_eq ⟨_, .discard _ _⟩]
    simp
  | some deadline =>
    rw [Lane.trySpawnRetry, trySpawnRetryAt_freely_iff]
    simp

/-! ## Scopes -/

namespace ScopeReadings

/-- The scope lets the submission through to its lane. -/
def Admits (readings : ScopeReadings) : Prop :=
  ∃ inner, (readings.world.families readings.family).filter ScopeInner.alive = some inner ∧
    readings.poisoned = false ∧
    readings.world.checkCurrent inner.state readings.generation = none

end ScopeReadings

namespace ScopeGeneration

variable {readings : ScopeReadings} {dropped : List (List ExecutorMutex)}
  {submission : Guarded ExecutorMutex (Except SpawnError Unit)}

theorem submit_of_not_admits (refuses : ¬ readings.Admits) :
    Drops (submit readings submission) [] [] [[]] := by
  unfold submit
  cases upgrade : (readings.world.families readings.family).filter ScopeInner.alive with
  | none => exact ⟨_, .discard _ _⟩
  | some inner =>
    refine .seq (.acquire _ _) ?_
    by_cases poisoned : readings.poisoned = true
    · rw [if_pos poisoned]
      exact .seq (.release _ _) ⟨_, .discard _ _⟩
    · rw [if_neg poisoned]
      cases check : readings.world.checkCurrent inner.state readings.generation with
      | some error => exact .seq (.release _ _) ⟨_, .discard _ _⟩
      | none => exact (refuses ⟨inner, upgrade, Bool.eq_false_iff.2 poisoned, check⟩).elim

theorem submit_of_admits (admits : readings.Admits)
    (submits : Drops submission [.scopeState] [.scopeState] dropped) :
    Drops (submit readings submission) [] [] dropped := by
  obtain ⟨inner, upgrade, poisoned, check⟩ := admits
  obtain ⟨answer, submits⟩ := submits
  unfold submit
  rw [upgrade]
  refine .seq (.acquire _ _) ?_
  rw [if_neg (by simp [poisoned]), check]
  have rest : Runs (submission >>= fun result => release ExecutorMutex.scopeState >>= fun _ =>
      pure (result.mapError ScopeAdmissionError.lane)) [.scopeState]
      (answer.mapError ScopeAdmissionError.lane) [] (dropped ++ []) :=
    submits.bind (.unlock _ _ _)
  rw [List.append_nil] at rest
  exact ⟨_, rest⟩

/-- A submission that is dropped at all is dropped under the state mutex of the scope. -/
theorem submit_freely_iff (readings : ScopeReadings) {quiet : Prop}
    (keeps : quiet → Drops submission [.scopeState] [.scopeState] [])
    (refuses : ¬ quiet → ∃ inside,
      Drops submission [.scopeState] [.scopeState] [inside ++ [.scopeState]]) :
    (∀ held ∈ drops (submit readings submission), held = []) ↔ ¬ readings.Admits ∨ quiet := by
  by_cases admits : readings.Admits
  · by_cases stays : quiet
    · rw [(submit_of_admits admits (keeps stays)).drops_eq]
      simp [stays]
    · obtain ⟨inside, leaves⟩ := refuses stays
      rw [(submit_of_admits admits leaves).drops_eq]
      simp [admits, stays]
  · rw [(submit_of_not_admits admits).drops_eq]
    simp [admits]

end ScopeGeneration

/-- The lane accepts the submission, or what comes of it does not come back. -/
def LaneReadings.Accepts (readings : LaneReadings) : Prop :=
  readings.refusal none = none ∧ readings.Keeps {} none

/-- What `submit_freely_iff` asks of a submission without a deadline. -/
theorem submitStart_under_scope (readings : LaneReadings) :
    (readings.Accepts → Drops (Lane.submitStart readings {} none) [.scopeState] [.scopeState] []) ∧
    (¬ readings.Accepts → ∃ inside, Drops (Lane.submitStart readings {} none) [.scopeState]
      [.scopeState] [inside ++ [.scopeState]]) := by
  constructor
  · rintro ⟨passes, keeps⟩
    exact Lane.submitStart_of_keeps passes keeps _
  · intro refuses
    by_cases passes : readings.refusal none = none
    · have lost : ¬ readings.Keeps {} none := fun keeps => refuses ⟨passes, keeps⟩
      exact ⟨[.admissionOpen], Lane.submitStart_of_not_keeps passes lost _⟩
    · exact ⟨[], Lane.submitStart_of_refused passes _⟩

namespace ScopeReadings

variable (readings : ScopeReadings)

/-- The scope refuses, or its lane accepts. -/
def DropsFreely : Prop := ¬ readings.Admits ∨ readings.lane.Accepts

/-- The same for a retry: its deadline must be reachable, and ahead. -/
def DropsRetryFreely (deadline : Option (Option Instant)) (before : Instant) : Prop :=
  ¬ readings.Admits ∨
    (∃ reached, deadline = some reached ∧ Lane.missed reached before = false) ∧
      readings.lane.Accepts

end ScopeReadings

theorem scope_freely_iff (readings : ScopeReadings) :
    (∀ held ∈ drops (ScopeGeneration.submit readings (Lane.submitStart readings.lane {} none)),
        held = []) ↔ readings.DropsFreely := by
  obtain ⟨keeps, refuses⟩ := submitStart_under_scope readings.lane
  exact ScopeGeneration.submit_freely_iff readings keeps refuses

theorem scope_retry_freely_iff (readings : ScopeReadings) (deadline : Option (Option Instant))
    (before : Instant) :
    (∀ held ∈ drops (ScopeGeneration.trySpawnRetry readings deadline before), held = []) ↔
      readings.DropsRetryFreely deadline before := by
  obtain ⟨keeps, refuses⟩ := submitStart_under_scope readings.lane
  refine ScopeGeneration.submit_freely_iff readings ?_ ?_
  · rintro ⟨⟨reached, rfl, ahead⟩, accepts⟩
    rw [Lane.trySpawnRetryScoped, if_neg (by simp [ahead])]
    exact keeps accepts
  · intro bound
    cases deadline with
    | none => exact ⟨[], _, .discard _ _⟩
    | some reached =>
      rw [Lane.trySpawnRetryScoped]
      by_cases passed : Lane.missed reached before = true
      · rw [if_pos passed]
        exact ⟨[], _, .discard _ _⟩
      · rw [if_neg passed]
        exact refuses fun accepts =>
          bound ⟨⟨reached, rfl, Bool.eq_false_iff.2 passed⟩, accepts⟩

/-! ## Every call -/

/-- When a call drops its submission, if it does, with no mutex held. -/
def AdmissionCall.DropsFreely : AdmissionCall → Prop
  | .spawn readings | .spawnFuture readings | .spawnRecurring readings | .startService readings =>
    readings.DropsFreely
  | .trySpawn readings | .trySpawnFuture readings | .trySpawnRecurring readings =>
    readings.DropsFreely {} none
  | .trySpawnWithOptions readings options | .trySpawnFutureWithOptions readings options
  | .trySpawnRecurringWithOptions readings options => readings.DropsFreely options none
  | .trySpawnWithOptionsFor readings options waiterTicket
  | .trySpawnRecurringWithOptionsFor readings options waiterTicket =>
    readings.DropsFreely options waiterTicket
  | .trySpawnRetry readings deadline before after =>
    ∀ reached, deadline = some reached → readings.DropsRetryFreely reached before after none
  | .trySpawnRetryAt readings deadline before after waiterTicket =>
    readings.DropsRetryFreely deadline before after waiterTicket
  | .scopeTrySpawn readings | .scopeTrySpawnFuture readings | .scopeTrySpawnRecurring readings =>
    readings.DropsFreely
  | .scopeTrySpawnRetry readings deadline before => readings.DropsRetryFreely deadline before

/-- A call drops its submission with no mutex held, so that a destructor gets through whatever
it locks, exactly when the submission is accepted, refused before a guard is kept, or gone to
the dispatcher. -/
theorem drops_freely_iff (call : AdmissionCall) :
    (∀ held ∈ call.drops, held = [] ∧ ∀ wanted, Passes held wanted) ↔ call.DropsFreely := by
  have simpler : (∀ held ∈ call.drops, held = [] ∧ ∀ wanted, Passes held wanted) ↔
      ∀ held ∈ call.drops, held = [] := by
    refine forall₂_congr fun held _ => ?_
    rw [passes_iff, and_self]
  rw [simpler]
  cases call with
  | spawn readings | spawnFuture readings | spawnRecurring readings | startService readings =>
    exact spawnStart_freely_iff readings
  | trySpawn readings | trySpawnFuture readings | trySpawnRecurring readings =>
    exact submitStart_freely_iff readings {} none
  | trySpawnWithOptions readings options | trySpawnFutureWithOptions readings options
  | trySpawnRecurringWithOptions readings options =>
    exact submitStart_freely_iff readings options none
  | trySpawnWithOptionsFor readings options waiterTicket
  | trySpawnRecurringWithOptionsFor readings options waiterTicket =>
    exact submitStart_freely_iff readings options waiterTicket
  | trySpawnRetry readings deadline before after =>
    exact trySpawnRetry_freely_iff readings deadline before after
  | trySpawnRetryAt readings deadline before after waiterTicket =>
    exact trySpawnRetryAt_freely_iff readings deadline before after waiterTicket
  | scopeTrySpawn readings | scopeTrySpawnFuture readings | scopeTrySpawnRecurring readings =>
    exact scope_freely_iff readings
  | scopeTrySpawnRetry readings deadline before =>
    exact scope_retry_freely_iff readings deadline before

/-- A key of one byte. -/
def byteKey (byte : UInt8) : OrderingKey := ⟨[byte], Nat.le_of_ble_eq_true rfl⟩

/-- A lane whose only ordering key is taken by a queued execution. -/
def keyedLane : LaneState :=
  { LaneState.new with
    queue := [0]
    entries :=
      (∅ : AssocMap ExecutionId QueueEntry).insert 0 ⟨{ orderingKey := some (byteKey 0) }, 0⟩
    active := {0}
    nextSequence := 1
    orderingKeyRefcounts := (∅ : AssocMap OrderingKey Nat).insert (byteKey 0) 1 }

/-- A future is submitted to it under another key: it passes the admission check. -/
def keyedCall : AdmissionCall :=
  .trySpawnFutureWithOptions
    { config := narrowLane
      executionId := 1
      admissionOpen := true
      checked := keyedLane
      inserting := keyedLane
      registering := ⟨false, 1, 4⟩
      removing := keyedLane }
    { orderingKey := some (byteKey 1) }

/-- The future is dropped under the admission lock, and its destructor cannot submit. -/
theorem future_dropped_under_admission :
    LaneState.new.insertPrepared narrowLane 0 { orderingKey := some (byteKey 0) } none =
        .ok keyedLane ∧
      keyedCall.drops = [[.admissionOpen]] ∧
      ¬ ∀ held ∈ keyedCall.drops, held = [] ∧ ∀ wanted, Passes held wanted := by
  have dropped : keyedCall.drops = [[.admissionOpen]] := by decide +kernel
  refine ⟨rfl, dropped, fun free => ?_⟩
  rw [dropped] at free
  obtain ⟨absurd, -⟩ := free _ (List.mem_singleton_self _)
  cases absurd

end BusyBeaver
