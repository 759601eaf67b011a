import BusyBeaver.Lib.Recency
import BusyBeaver.Lib.History
import BusyBeaver.Executor.State
import BusyBeaver.Retry.Delay

/-!
# The terminal history

`ExecutionRegistry` keeps the exits of the last executions to finish (`src/execution.rs`).  A
`finish` makes room by count, and every call first drops from the front what has outlived the
ttl.  What a reader sees is the window that the capacity and the ttl describe, whichever calls
came before (`terminal_history_is_window`).

The clock is read under the history mutex, where the calls come one after the other.
-/

namespace BusyBeaver

open Transition

/-- The limits of `ResourceLimits` on the terminal history. -/
structure HistoryLimits : Type where
  terminalHistoryCapacity : Nat
  terminalHistoryTtl : Option Duration
  deriving DecidableEq, Repr

/-- An entry of the history: the execution, its summary, and when it was inserted. -/
structure HistoryEntry : Type where
  executionId : ExecutionId
  summary : TaskExitSummary
  inserted : Instant
  deriving DecidableEq, Repr

structure TerminalRecord : Type where
  executionId : ExecutionId
  summary : TaskExitSummary
  deriving DecidableEq, Repr

def HistoryEntry.record (entry : HistoryEntry) : TerminalRecord where
  executionId := entry.executionId
  summary := entry.summary

/-- The registry without its active executions, which are modelled with the executor. -/
structure ExecutionRegistry : Type where
  limits : HistoryLimits
  history : List HistoryEntry
  /-- What a subscriber received. -/
  events : List (ExecutionId × EventKind)

/-- `now.duration_since(inserted) >= ttl`, where there is a ttl. -/
def HistoryLimits.expired (limits : HistoryLimits) (now : Instant) (entry : HistoryEntry) : Bool :=
  limits.terminalHistoryTtl.any fun ttl => decide (ttl ≤ now - entry.inserted)

namespace ExecutionRegistry

def new (limits : HistoryLimits) : ExecutionRegistry where
  limits := limits
  history := []
  events := []

/-- `evict_expired_locked`. -/
def evictExpired (registry : ExecutionRegistry) (now : Instant) : ExecutionRegistry :=
  match registry.limits.terminalHistoryTtl with
  | none => registry
  | some ttl =>
    { registry with
      history := registry.history.dropWhile fun entry => decide (ttl ≤ now - entry.inserted) }

def emit (registry : ExecutionRegistry) (id : ExecutionId) (kind : EventKind) :
    ExecutionRegistry :=
  { registry with events := registry.events ++ [(id, kind)] }

/-- `finish`: `now` is what the eviction reads and `inserted` what the insertion reads; the
clock stands at them also where there is no ttl or no capacity and nobody looks. -/
def finish (registry : ExecutionRegistry) (id : ExecutionId) (summary : TaskExitSummary)
    (now inserted : Instant) : ExecutionRegistry :=
  let evicted := registry.evictExpired now
  if evicted.limits.terminalHistoryCapacity = 0 then evicted.emit id (.terminal summary)
  else
    let room :=
      if evicted.history.length = evicted.limits.terminalHistoryCapacity then
        evicted.history.tail
      else evicted.history
    let entry : HistoryEntry := ⟨id, summary, inserted⟩
    { evicted with history := room ++ [entry] }.emit id (.terminal summary)

/-- The answer of `history`. -/
def terminalHistory (registry : ExecutionRegistry) (now : Instant) : List TerminalRecord :=
  (registry.evictExpired now).history.map HistoryEntry.record

/-- The answer of `summary`. -/
def summary (registry : ExecutionRegistry) (id : ExecutionId) (now : Instant) :
    Option TaskExitSummary :=
  (registry.evictExpired now).history.reverse.findSome? fun entry =>
    if entry.executionId = id then some entry.summary else none

end ExecutionRegistry

/-! ## Calls, one after the other -/

inductive RegistryCall : Type
  | finish (id : ExecutionId) (summary : TaskExitSummary) (now inserted : Instant)
  | history (now : Instant)
  | summary (id : ExecutionId) (now : Instant)
  deriving DecidableEq, Repr

/-- What the call reads off the clock. -/
def RegistryCall.readings : RegistryCall → List Instant
  | .finish _ _ now inserted => [now, inserted]
  | .history now | .summary _ now => [now]

/-- The execution the call finishes. -/
def RegistryCall.finished : RegistryCall → Option HistoryEntry
  | .finish id exit _ inserted => some ⟨id, exit, inserted⟩
  | .history _ | .summary _ _ => none

/-- The registry after a call. -/
def ExecutionRegistry.call (registry : ExecutionRegistry) : RegistryCall → ExecutionRegistry
  | .finish id exit now inserted => registry.finish id exit now inserted
  | .history now | .summary _ now => registry.evictExpired now

/-- A registry under calls that come one after the other. -/
def executionRegistry (limits : HistoryLimits) : System ExecutionRegistry RegistryCall where
  init := .new limits
  step := fun registry call => some (registry.call call)

/-- The window: those of the last executions to finish that the ttl does not exclude. -/
def HistoryLimits.window (limits : HistoryLimits) (now : Instant) (entries : List HistoryEntry) :
    List HistoryEntry :=
  (entries.rtake limits.terminalHistoryCapacity).filter fun entry =>
    limits.terminalHistoryTtl.all fun ttl => decide (now - entry.inserted < ttl)

namespace ExecutionRegistry

variable {limits : HistoryLimits} {registry : ExecutionRegistry} {calls : List RegistryCall}
  {now : Instant}

/-! ## The history as a bounded record -/

@[simp] theorem evictExpired_limits : (registry.evictExpired now).limits = registry.limits := by
  unfold evictExpired
  split <;> rfl

@[simp] theorem evictExpired_events : (registry.evictExpired now).events = registry.events := by
  unfold evictExpired
  split <;> rfl

theorem evictExpired_history :
    (registry.evictExpired now).history =
      Recency.expire registry.limits.expired now registry.history := by
  unfold evictExpired Recency.expire HistoryLimits.expired
  split
  · rename_i unlimited
    rw [unlimited]
    cases registry.history <;> rfl
  · rename_i ttl limited
    rw [limited]
    rfl

section Finish

variable {id : ExecutionId} {summary : TaskExitSummary} {inserted : Instant}

@[simp] theorem finish_limits :
    (registry.finish id summary now inserted).limits = registry.limits := by
  simp only [finish]
  split <;> exact evictExpired_limits

theorem finish_history :
    (registry.finish id summary now inserted).history =
      Recency.push registry.limits.terminalHistoryCapacity
        (Recency.expire registry.limits.expired now registry.history) ⟨id, summary, inserted⟩ := by
  have evicted := @evictExpired_history registry now
  unfold finish Recency.push
  simp only [evictExpired_limits]
  by_cases none : registry.limits.terminalHistoryCapacity = 0
  · rw [if_pos none, if_pos none]
    exact evicted
  · rw [if_neg none, if_neg none]
    simp only [emit, evicted]

@[simp] theorem finish_events :
    (registry.finish id summary now inserted).events =
      registry.events ++ [(id, .terminal summary)] := by
  simp only [finish]
  split
  · simp only [emit, evictExpired_events]
  · simp only [emit, evictExpired_events]

end Finish

@[simp] theorem call_limits {call : RegistryCall} :
    (registry.call call).limits = registry.limits := by
  cases call with
  | finish id exit now inserted => exact finish_limits
  | history now | summary id now => exact evictExpired_limits

end ExecutionRegistry

/-- What is stale stays so. -/
theorem HistoryLimits.expired_later {limits : HistoryLimits} {now later : Instant}
    {entry : HistoryEntry} (passes : now ≤ later) (expired : limits.expired now entry = true) :
    limits.expired later entry = true := by
  obtain ⟨ttl, limited, old⟩ := (Option.any_eq_true _ _).1 expired
  refine (Option.any_eq_true _ _).2 ⟨ttl, limited, decide_eq_true ?_⟩
  have old : ttl ≤ now - entry.inserted := of_decide_eq_true old
  exact old.trans (Nat.sub_le_sub_right passes _)

/-- On a clock that does not run backwards, older entries are stale first. -/
theorem HistoryLimits.orderly (limits : HistoryLimits) {entries : List HistoryEntry}
    (sorted : entries.Pairwise fun a b => a.inserted ≤ b.inserted) :
    Recency.Orderly limits.expired entries := by
  refine sorted.imp fun {a b} before now expired => ?_
  obtain ⟨ttl, limited, old⟩ := (Option.any_eq_true _ _).1 expired
  refine (Option.any_eq_true _ _).2 ⟨ttl, limited, decide_eq_true ?_⟩
  have old : ttl ≤ now - b.inserted := of_decide_eq_true old
  exact old.trans (Nat.sub_le_sub_left before _)


/-- What the ttl does not exclude is not stale. -/
theorem HistoryLimits.window_eq (limits : HistoryLimits) (now : Instant)
    (entries : List HistoryEntry) :
    limits.window now entries =
      (entries.rtake limits.terminalHistoryCapacity).filter fun entry =>
        !limits.expired now entry := by
  refine congrArg (fun fresh => List.filter fresh _) (funext fun entry => ?_)
  cases limited : limits.terminalHistoryTtl with
  | none => simp [HistoryLimits.expired, limited]
  | some ttl =>
    by_cases old : ttl ≤ now - entry.inserted
    · simp [HistoryLimits.expired, limited, old]
    · simp [HistoryLimits.expired, limited, old, Nat.lt_of_not_le old]

/-! ## Runs -/

/-- The finish times are among the readings. -/
theorem finished_sublist (calls : List RegistryCall) :
    ((calls.filterMap RegistryCall.finished).map HistoryEntry.inserted).Sublist
      (calls.flatMap RegistryCall.readings) := by
  induction calls with
  | nil => exact List.Sublist.refl _
  | cons call calls ih =>
    rw [List.flatMap_cons]
    cases call with
    | finish id exit now inserted => exact (ih.cons_cons inserted).cons now
    | history now => exact ih.cons now
    | summary id now => exact ih.cons now

namespace ExecutionRegistry

variable {limits : HistoryLimits} {registry : ExecutionRegistry} {calls : List RegistryCall}
  {now : Instant}

/-- **Step lemma.**  A call keeps the registry a bounded record of what has finished. -/
theorem keeps_call {all : List HistoryEntry} {call : RegistryCall} {later : Instant}
    (keeps : ∀ first ∈ call.readings.head?, Recency.Keeps registry.limits.expired
      registry.limits.terminalHistoryCapacity first all registry.history)
    (passes : ∀ reading ∈ call.readings, reading ≤ later) :
    Recency.Keeps registry.limits.expired registry.limits.terminalHistoryCapacity later
      (all ++ call.finished.toList) (registry.call call).history := by
  cases call with
  | finish id exit now inserted =>
    have ages := passes now List.mem_cons_self
    rw [call, finish_history]
    exact (keeps now rfl).expire.push.mono fun entry => HistoryLimits.expired_later ages
  | history now | summary id now =>
    have ages := passes now List.mem_cons_self
    rw [call, evictExpired_history, RegistryCall.finished, Option.toList_none, List.append_nil]
    exact (keeps now rfl).expire.mono fun entry => HistoryLimits.expired_later ages

/-- **Run lemma.** -/
theorem keeps_of_exec
    (run : (executionRegistry limits).exec (executionRegistry limits).init calls = some registry)
    (clock : (calls.flatMap RegistryCall.readings).Pairwise (· ≤ ·)) :
    registry.limits = limits ∧
      ∀ later, (∀ reading ∈ calls.flatMap RegistryCall.readings, reading ≤ later) →
        Recency.Keeps limits.expired limits.terminalHistoryCapacity later
          (calls.filterMap RegistryCall.finished) registry.history := by
  revert clock
  refine System.exec_invariant (I := fun calls registry =>
    (calls.flatMap RegistryCall.readings).Pairwise (· ≤ ·) → registry.limits = limits ∧
      ∀ later, (∀ reading ∈ calls.flatMap RegistryCall.readings, reading ≤ later) →
        Recency.Keeps limits.expired limits.terminalHistoryCapacity later
          (calls.filterMap RegistryCall.finished) registry.history) ?_ ?_ run
  · exact fun _ => ⟨rfl, fun later _ => Recency.keeps_nil _ _ later⟩
  · intro calls before after call _ ih step clock
    obtain rfl := Option.some.inj step
    rw [List.flatMap_append, List.flatMap_singleton] at clock
    obtain ⟨earlier, -, order⟩ := List.pairwise_append.1 clock
    obtain ⟨same, keeps⟩ := ih earlier
    refine ⟨by rw [call_limits, same], fun later passes => ?_⟩
    rw [List.flatMap_append, List.flatMap_singleton] at passes
    have finished : [call].filterMap RegistryCall.finished = call.finished.toList := by
      cases call <;> rfl
    rw [List.filterMap_append, finished]
    have kept := @keeps_call before (calls.filterMap RegistryCall.finished) call later
    rw [same] at kept
    refine kept (fun first at_ => ?_) fun reading member =>
      passes reading (List.mem_append_right _ member)
    exact keeps first fun reading member =>
      order reading member first (List.mem_of_mem_head? at_)

/-- Every finish is announced once, in order, also where the history keeps nothing. -/
theorem events_of_exec
    (run : (executionRegistry limits).exec (executionRegistry limits).init calls = some registry) :
    registry.events = (calls.filterMap RegistryCall.finished).map
      fun entry => (entry.executionId, .terminal entry.summary) := by
  refine System.exec_invariant (I := fun calls registry =>
    registry.events = (calls.filterMap RegistryCall.finished).map
      fun entry => (entry.executionId, .terminal entry.summary)) rfl ?_ run
  intro calls before after call _ announced step
  obtain rfl := Option.some.inj step
  rw [List.filterMap_append, List.map_append, ← announced]
  cases call with
  | finish id exit now inserted => exact finish_events
  | history now | summary id now =>
    change (before.evictExpired now).events = before.events ++ []
    rw [evictExpired_events, List.append_nil]

/-- The entries a reader finds are those of the window. -/
theorem evictExpired_eq_window
    (run : (executionRegistry limits).exec (executionRegistry limits).init calls = some registry)
    (clock : (calls.flatMap RegistryCall.readings ++ [now]).Pairwise (· ≤ ·)) :
    (registry.evictExpired now).history =
      limits.window now (calls.filterMap RegistryCall.finished) := by
  obtain ⟨sorted, -, passes⟩ := List.pairwise_append.1 clock
  obtain ⟨same, keeps⟩ := keeps_of_exec run sorted
  have finished : ((calls.filterMap RegistryCall.finished).map HistoryEntry.inserted).Pairwise
      (· ≤ ·) := sorted.sublist (finished_sublist calls)
  have orderly := limits.orderly (List.pairwise_map.1 finished)
  have here := keeps now fun reading member =>
    passes reading member now (List.mem_singleton_self now)
  rw [evictExpired_history, same, here.expire_eq orderly, limits.window_eq]

/-- `summary` answers the last record of the execution in the history. -/
theorem summary_eq_some {id : ExecutionId} {value : TaskExitSummary} :
    registry.summary id now = some value ↔
      ∃ before after, registry.terminalHistory now = before ++ ⟨id, value⟩ :: after ∧
        ∀ record ∈ after, record.executionId ≠ id := by
  have records : registry.summary id now =
      (registry.terminalHistory now).reverse.findSome? fun record : TerminalRecord =>
        if record.executionId = id then some record.summary else none := by
    rw [terminalHistory, ← List.map_reverse, List.findSome?_map]
    rfl
  rw [records, List.findSome?_eq_some_iff]
  constructor
  · rintro ⟨after, record, before, split, found, others⟩
    obtain ⟨rfl, same⟩ := Option.ite_none_right_eq_some.1 found
    obtain rfl := Option.some.inj same
    refine ⟨before.reverse, after.reverse, ?_, fun record member same => ?_⟩
    · rw [← List.reverse_reverse (registry.terminalHistory now), split]
      simp
    · have none := others record (List.mem_reverse.1 member)
      rw [if_pos same] at none
      cases none
  · rintro ⟨before, after, split, others⟩
    refine ⟨after.reverse, ⟨id, value⟩, before.reverse, ?_, if_pos rfl, fun record member => ?_⟩
    · rw [split]
      simp
    · exact if_neg (others record (List.mem_reverse.1 member))

/-- **Main result.**  Whatever calls came before, `history` answers the window, in the order in
which the executions finished, and `summary` the last record of its execution there. -/
theorem terminal_history_is_window {limits : HistoryLimits} {calls : List RegistryCall}
    {registry : ExecutionRegistry} {now : Instant}
    (run : (executionRegistry limits).exec (executionRegistry limits).init calls = some registry)
    (clock : (calls.flatMap RegistryCall.readings ++ [now]).Pairwise (· ≤ ·)) :
    registry.terminalHistory now =
        (limits.window now (calls.filterMap RegistryCall.finished)).map HistoryEntry.record ∧
      ∀ id value, registry.summary id now = some value ↔
        ∃ before after, registry.terminalHistory now = before ++ ⟨id, value⟩ :: after ∧
          ∀ record ∈ after, record.executionId ≠ id :=
  ⟨congrArg (List.map HistoryEntry.record) (evictExpired_eq_window run clock),
    fun _ _ => summary_eq_some⟩

/-- Three executions, one of them twice, under a capacity of two and a ttl of five. -/
theorem terminal_history_is_window_crowded :
    ∃ registry : ExecutionRegistry,
      (executionRegistry ⟨2, some 5⟩).exec (executionRegistry ⟨2, some 5⟩).init
          [.finish 1 .completed 0 0, .finish 2 .failed 1 2, .history 3, .finish 1 .failed 4 4] =
        some registry ∧
      registry.terminalHistory 7 = [⟨1, .failed⟩] ∧
      ∀ id value, registry.summary id 7 = some value ↔
        ∃ before after, registry.terminalHistory 7 = before ++ ⟨id, value⟩ :: after ∧
          ∀ record ∈ after, record.executionId ≠ id := by
  obtain ⟨window, last⟩ := @terminal_history_is_window ⟨2, some 5⟩
    [.finish 1 .completed 0 0, .finish 2 .failed 1 2, .history 3, .finish 1 .failed 4 4] _ 7 rfl
    (by decide)
  exact ⟨_, rfl, window, last⟩

end ExecutionRegistry

end BusyBeaver
