import BusyBeaver.Lib.RefCount
import BusyBeaver.Lib.Select
import BusyBeaver.Lane.State
import Mathlib.Data.List.Nodup

/-!
# The lane's bookkeeping

`LaneState.Inv` couples the ten fields the lane's sections update: the queue with
its entries, the entries with the active set, the running counter with both, the
ordering keys of running executions with the set of held keys, the reference
counts with queued and running holders, and the waiter counter with its queue.
One lemma per section says that the section keeps it and logs none of the codes
that stand for a broken coupling.
-/

namespace BusyBeaver

open Checked

namespace LaneState

/-! ## The invariant -/

/-- The queue lists the entries, each once, oldest first. -/
structure QueueInv (queue : List ExecutionId) (entries : AssocMap ExecutionId QueueEntry)
    (nextSequence : Nat) : Prop where
  nodup : queue.Nodup
  mem : ∀ id, id ∈ queue ↔ id ∈ entries
  sorted : queue.Pairwise fun a b => ∀ x y, entries.lookup a = some x →
    entries.lookup b = some y → x.sequence < y.sequence
  bounded : ∀ id x, entries.lookup id = some x → x.sequence < nextSequence

/-- The entry is queued under this ordering key. -/
def hasKey (key : OrderingKey) (entry : QueueEntry) : Bool := entry.options.orderingKey == some key

/-- Queued plus running executions with this ordering key. -/
def holders (entries : AssocMap ExecutionId QueueEntry)
    (runningOrderingKeys : AssocMap ExecutionId OrderingKey) (key : OrderingKey) : Nat :=
  entries.count (hasKey key) + runningOrderingKeys.count fun held => held == key

structure Inv (config : LaneConfig) (state : LaneState) : Prop where
  queue : QueueInv state.queue state.entries state.nextSequence
  entries_active : ∀ id ∈ state.entries, id ∈ state.active
  running : state.running + state.entries.size = state.active.card
  running_le : state.running ≤ config.concurrency
  entries_le : state.entries.size ≤ config.capacity
  keys_injective : ∀ a b key, state.runningOrderingKeys.lookup a = some key →
    state.runningOrderingKeys.lookup b = some key → a = b
  keys_running : ∀ id ∈ state.runningOrderingKeys, id ∈ state.active ∧ id ∉ state.entries
  keys_active : ∀ key, key ∈ state.activeOrderingKeys ↔
    ∃ id, state.runningOrderingKeys.lookup id = some key
  refcounts : RefCount.Represents state.orderingKeyRefcounts
    (holders state.entries state.runningOrderingKeys)
  refcounts_le : state.orderingKeyRefcounts.size ≤ config.maxOrderingKeys
  waiting : state.waitingProducers = state.waitingQueue.card
  waiting_le : state.waitingProducers ≤ config.maxWaitingProducers
  waiting_lt : ∀ ticket ∈ state.waitingQueue, ticket < state.nextWaiterSequence

theorem Inv.new (config : LaneConfig) : Inv config .new where
  queue := ⟨List.nodup_nil, fun _ => by simp [LaneState.new], List.Pairwise.nil,
    fun _ _ absurd => by cases absurd⟩
  entries_active := fun _ absurd => by cases absurd
  running := rfl
  running_le := Nat.zero_le _
  entries_le := Nat.zero_le _
  keys_injective := fun _ _ _ absurd => by cases absurd
  keys_running := fun _ absurd => by cases absurd
  keys_active := fun _ => by simp [LaneState.new]
  refcounts := .empty
  refcounts_le := Nat.zero_le _
  waiting := rfl
  waiting_le := Nat.zero_le _
  waiting_lt := fun _ absurd => by cases absurd

/-! ## The queue and its entries -/

section Queue

variable {queue : List ExecutionId} {entries : AssocMap ExecutionId QueueEntry}
  {nextSequence : Nat} {id : ExecutionId} {options : SpawnOptions}

theorem QueueInv.push (inv : QueueInv queue entries nextSequence) (fresh : id ∉ entries) :
    QueueInv (queue ++ [id]) (entries.insert id ⟨options, nextSequence⟩) (nextSequence + 1) := by
  have absent : id ∉ queue := fun member => fresh ((inv.mem id).1 member)
  refine ⟨?_, ?_, ?_, ?_⟩
  · rw [List.nodup_append]
    refine ⟨inv.nodup, by simp, fun a member b last => ?_⟩
    simp only [List.mem_singleton] at last
    subst last
    intro same
    subst same
    exact absent member
  · intro a
    simp only [List.mem_append, List.mem_singleton, AList.mem_insert, inv.mem]
    exact or_comm
  · rw [List.pairwise_append]
    refine ⟨?_, by simp, ?_⟩
    · refine inv.sorted.imp_of_mem fun {a b} left right less x y => ?_
      have ne : ∀ c ∈ queue, c ≠ id := fun c member same => absent (same ▸ member)
      rw [AssocMap.lookup_insert_eq, AssocMap.lookup_insert_eq, if_neg (ne a left),
        if_neg (ne b right)]
      exact less x y
    · intro a member b last x y
      simp only [List.mem_singleton] at last
      subst last
      have other : a ≠ b := fun same => absent (same ▸ member)
      rw [AssocMap.lookup_insert_eq, AssocMap.lookup_insert_eq, if_neg other, if_pos rfl]
      intro found last
      have older := inv.bounded a x found
      simp only [Option.some.injEq] at last
      subst last
      exact older
  · intro a x
    rw [AssocMap.lookup_insert_eq]
    by_cases same : a = id
    · simp only [same, ↓reduceIte, Option.some.injEq]
      intro here
      subst here
      exact Nat.lt_succ_self _
    · simp only [same, ↓reduceIte]
      intro found
      exact Nat.lt_succ_of_lt (inv.bounded a x found)

/-- Taking an id out of the queue and its entry out of the map. -/
theorem QueueInv.remove (inv : QueueInv queue entries nextSequence) (id : ExecutionId) :
    QueueInv (queue.filter fun other => other != id) (entries.erase id) nextSequence := by
  refine ⟨inv.nodup.filter _, ?_, ?_, ?_⟩
  · intro a
    simp only [List.mem_filter, bne_iff_ne, ne_eq, AList.mem_erase, inv.mem]
    exact and_comm
  · refine (inv.sorted.filter _).imp_of_mem fun {a b} left right less x y => ?_
    simp only [List.mem_filter, bne_iff_ne, ne_eq] at left right
    rw [AssocMap.lookup_erase_eq, AssocMap.lookup_erase_eq, if_neg left.2, if_neg right.2]
    exact less x y
  · intro a x
    rw [AssocMap.lookup_erase_eq]
    by_cases same : a = id
    · simp [same]
    · simpa [same] using inv.bounded a x

/-- Removing by position is removing by id. -/
theorem QueueInv.eraseIdx (inv : QueueInv queue entries nextSequence) {index : Nat}
    (at_index : queue[index]? = some id) :
    queue.eraseIdx index = queue.filter fun other => other != id := by
  obtain ⟨inside, value⟩ := List.getElem?_eq_some_iff.1 at_index
  rw [← inv.nodup.erase_getElem index inside, value, inv.nodup.erase_eq_filter]

theorem QueueInv.length (inv : QueueInv queue entries nextSequence) :
    queue.length = entries.size := by
  have perm : queue.Perm entries.keys := by
    refine (List.perm_ext_iff_of_nodup inv.nodup entries.keys_nodup).2 fun a => ?_
    rw [inv.mem, AList.mem_keys]
  rw [perm.length_eq]
  simp [AssocMap.size, AList.keys, List.keys]

end Queue

/-! ## Reference counts -/

section Refcounts

variable {config : LaneConfig} {state : LaneState} {f : OrderingKey → Nat}
  {refcounts : AssocMap OrderingKey Nat} {key : OrderingKey}

/-- Giving back a reference that is counted logs nothing and keeps the table exact. -/
theorem decrementOrderingKeyRefcount_spec (represents : RefCount.Represents refcounts f)
    (counted : 0 < f key) :
    ∃ after, decrementOrderingKeyRefcount refcounts key = (after, []) ∧
      RefCount.Represents after (fun k => if k = key then f k - 1 else f k) ∧
      after.size ≤ refcounts.size := by
  have found := represents.lookup_of_pos counted
  by_cases last : f key = 1
  · refine ⟨refcounts.erase key, ?_, represents.dropLast last, ?_⟩
    · simp [decrementOrderingKeyRefcount, found, last, sub]
    · have erased := AssocMap.size_erase (AssocMap.mem_of_lookup found)
      omega
  · have more : 1 < f key := by omega
    refine ⟨refcounts.insert key (f key - 1), ?_, represents.dropOne more, ?_⟩
    · obtain ⟨next, eq⟩ : ∃ next, f key = next + 2 := ⟨f key - 2, by omega⟩
      simp [decrementOrderingKeyRefcount, found, eq, sub]
    · exact (AssocMap.size_insert_of_mem _ (AssocMap.mem_of_lookup found)).le

/-- The same for an entry or a running execution that may have no key. -/
theorem releaseKey_spec {orderingKey : Option OrderingKey}
    (represents : RefCount.Represents refcounts f)
    (counted : ∀ key, orderingKey = some key → 0 < f key) :
    ∃ after, releaseKey refcounts orderingKey = (after, []) ∧
      RefCount.Represents after (fun k => if orderingKey = some k then f k - 1 else f k) ∧
      after.size ≤ refcounts.size := by
  cases orderingKey with
  | none => exact ⟨refcounts, rfl, represents.congr fun _ => by simp, le_refl _⟩
  | some key =>
    obtain ⟨after, eq, exact_, size⟩ := decrementOrderingKeyRefcount_spec represents
      (counted key rfl)
    exact ⟨after, eq, exact_.congr fun k => by simp [eq_comm], size⟩

/-- The count `insert_prepared` stores takes one reference more for the key it is for. -/
theorem storeKeyRefcount_spec {orderingKey : Option OrderingKey}
    {next : Option (OrderingKey × Nat)}
    (represents : RefCount.Represents state.orderingKeyRefcounts f)
    (size : state.orderingKeyRefcounts.size ≤ config.maxOrderingKeys)
    (admitted : state.nextKeyRefcount config orderingKey = .ok next) :
    RefCount.Represents (storeKeyRefcount state.orderingKeyRefcounts next)
        (fun k => if orderingKey = some k then f k + 1 else f k) ∧
      (storeKeyRefcount state.orderingKeyRefcounts next).size ≤ config.maxOrderingKeys := by
  cases orderingKey with
  | none =>
    simp only [nextKeyRefcount, Except.ok.injEq] at admitted
    subst admitted
    exact ⟨represents.congr fun _ => by simp, size⟩
  | some key =>
    have step : ∀ {n}, f key = n →
        RefCount.Represents (storeKeyRefcount state.orderingKeyRefcounts (some (key, n + 1)))
          fun k => if some key = some k then f k + 1 else f k := by
      intro n value
      subst value
      exact represents.take.congr fun k => by simp [eq_comm]
    simp only [nextKeyRefcount] at admitted
    cases found : state.orderingKeyRefcounts.lookup key with
    | some count =>
      simp only [found] at admitted
      split at admitted
      · cases admitted
      · next n fits =>
        simp only [Except.ok.injEq] at admitted
        subst admitted
        obtain ⟨-, value⟩ := add_eq_some.1 fits
        subst value
        refine ⟨step (represents.lookup found), ?_⟩
        rw [storeKeyRefcount, AssocMap.size_insert_of_mem _ (AssocMap.mem_of_lookup found)]
        exact size
    | none =>
      simp only [found] at admitted
      split at admitted
      · cases admitted
      · next room =>
        simp only [Except.ok.injEq] at admitted
        subst admitted
        have unused : f key = 0 := by
          rw [← represents.value key, found]
          rfl
        refine ⟨step unused, ?_⟩
        rw [storeKeyRefcount, AssocMap.size_insert _ (AssocMap.notMem_of_lookup found)]
        omega

end Refcounts

/-! ## Admission -/

section Admission

variable {config : LaneConfig} {state after : LaneState} {id : ExecutionId}
  {options : SpawnOptions} {ticket : Option Nat}

/-- Everything a successful `insert_prepared` section checked and wrote. -/
structure Inserted (config : LaneConfig) (state : LaneState) (id : ExecutionId)
    (options : SpawnOptions) (ticket : Option Nat) (after : LaneState) : Prop where
  admitted : state.admissionError config ticket = none
  key : ∃ next, state.nextKeyRefcount config options.orderingKey = .ok next ∧
    after.orderingKeyRefcounts = storeKeyRefcount state.orderingKeyRefcounts next
  sequence : state.nextSequence + 1 ≤ u64Max
  eq : after =
    { state with
      nextSequence := state.nextSequence + 1
      orderingKeyRefcounts := after.orderingKeyRefcounts
      active := insert id state.active
      entries := state.entries.insert id ⟨options, state.nextSequence⟩
      queue := state.queue ++ [id] }

theorem Inserted.of_ok (ok : state.insertPrepared config id options ticket = .ok after) :
    Inserted config state id options ticket after := by
  simp only [insertPrepared] at ok
  split at ok
  · cases ok
  · next admitted =>
    split at ok
    · cases ok
    · next next key =>
      split at ok
      · cases ok
      · next nextSequence fits =>
        obtain ⟨bound, value⟩ := add_eq_some.1 fits
        subst value
        simp only [Except.ok.injEq] at ok
        subst ok
        exact ⟨admitted, ⟨next, key, rfl⟩, bound, rfl⟩

theorem not_closing_of_admissionError (admitted : state.admissionError config ticket = none) :
    state.runtimeUnavailable = false ∧ state.closing = false ∧
      state.entries.size < config.capacity := by
  simp only [admissionError] at admitted
  split at admitted
  · cases admitted
  · next available =>
    split at admitted
    · cases admitted
    · next opened =>
      split at admitted
      · cases admitted
      · next room => exact ⟨by simpa using available, by simpa using opened, by omega⟩

theorem Inv.insert (inv : Inv config state) (fresh : id ∉ state.active)
    (inserted : Inserted config state id options ticket after) : Inv config after := by
  have unqueued : id ∉ state.entries := fun queued => fresh (inv.entries_active id queued)
  have unkeyed : id ∉ state.runningOrderingKeys := fun keyed => fresh (inv.keys_running id keyed).1
  have room := (not_closing_of_admissionError inserted.admitted).2.2
  obtain ⟨next, admitted, stored⟩ := inserted.key
  have counts := storeKeyRefcount_spec inv.refcounts inv.refcounts_le admitted
  rw [← stored] at counts
  rw [inserted.eq]
  constructor
  case queue => exact inv.queue.push unqueued
  case entries_active =>
    intro a queued
    rw [AList.mem_insert] at queued
    exact Finset.mem_insert.2 (queued.imp (fun same => same) (inv.entries_active a))
  case running =>
    have running := inv.running
    show state.running + AssocMap.size (state.entries.insert id ⟨options, state.nextSequence⟩) =
      (Insert.insert id state.active).card
    rw [Finset.card_insert_of_notMem fresh, AssocMap.size_insert _ unqueued]
    omega
  case running_le => exact inv.running_le
  case entries_le =>
    show AssocMap.size (state.entries.insert id ⟨options, state.nextSequence⟩) ≤ config.capacity
    rw [AssocMap.size_insert _ unqueued]
    exact room
  case keys_injective => exact inv.keys_injective
  case keys_running =>
    intro a keyed
    obtain ⟨active, running⟩ := inv.keys_running a keyed
    refine ⟨Finset.mem_insert_of_mem active, ?_⟩
    rw [AList.mem_insert, not_or]
    exact ⟨fun same => unkeyed (same ▸ keyed), running⟩
  case keys_active => exact inv.keys_active
  case refcounts =>
    refine counts.1.congr fun key => ?_
    simp only [holders, AssocMap.count_insert _ unqueued, hasKey, beq_iff_eq]
    split <;> omega
  case refcounts_le => exact counts.2
  case waiting => exact inv.waiting
  case waiting_le => exact inv.waiting_le
  case waiting_lt => exact inv.waiting_lt

end Admission

/-! ## Removal and completion -/

section Removal

variable {config : LaneConfig} {state : LaneState} {id : ExecutionId}

theorem removeQueued_of_notMem (absent : id ∉ state.entries) :
    state.removeQueued id = (state, none, []) := by
  rw [← AList.lookup_eq_none] at absent
  simp [removeQueued, absent]

/-- A queued execution holds a reference to its key. -/
theorem holders_pos {entry : QueueEntry} {key : OrderingKey}
    (queued : state.entries.lookup id = some entry) (keyed : entry.options.orderingKey = some key) :
    0 < holders state.entries state.runningOrderingKeys key := by
  have counted := AssocMap.count_pos (hasKey key) queued (by simp [hasKey, keyed])
  simp only [holders]
  omega

/-- Taking a queued execution out gives its reference back. -/
theorem holders_erase {entry : QueueEntry} {key : OrderingKey}
    {running : AssocMap ExecutionId OrderingKey} {entries : AssocMap ExecutionId QueueEntry}
    (queued : entries.lookup id = some entry) :
    holders (entries.erase id) running key =
      if entry.options.orderingKey = some key then holders entries running key - 1
      else holders entries running key := by
  have erased := AssocMap.count_erase (hasKey key) queued
  have test : hasKey key entry = true ↔ entry.options.orderingKey = some key := by
    rw [hasKey, beq_iff_eq]
  unfold holders
  by_cases keyed : entry.options.orderingKey = some key
  · rw [if_pos (test.2 keyed)] at erased
    rw [if_pos keyed]
    omega
  · rw [if_neg (fun holds => keyed (test.1 holds))] at erased
    rw [if_neg keyed]
    omega

/-- What `remove_queued` does to a queued execution. -/
theorem Inv.removeQueued_spec (inv : Inv config state) {entry : QueueEntry}
    (queued : state.entries.lookup id = some entry) :
    ∃ refcounts, state.removeQueued id =
      ({ state with
          entries := state.entries.erase id
          queue := state.queue.filter fun other => other != id
          active := state.active.erase id
          orderingKeyRefcounts := refcounts },
        some entry, []) ∧
      RefCount.Represents refcounts
        (holders (state.entries.erase id) state.runningOrderingKeys) ∧
      refcounts.size ≤ state.orderingKeyRefcounts.size := by
  obtain ⟨refcounts, eq, exact_, size⟩ := releaseKey_spec inv.refcounts
    fun key keyed => holders_pos queued keyed
  refine ⟨refcounts, ?_, ?_, size⟩
  · simp [removeQueued, queued, eq]
  · refine exact_.congr fun key => ?_
    rw [holders_erase queued]

theorem Inv.removeQueued (inv : Inv config state) (id : ExecutionId) :
    Inv config (state.removeQueued id).1 ∧ (state.removeQueued id).2.2 = [] := by
  cases queued : state.entries.lookup id with
  | none =>
    rw [removeQueued_of_notMem (AssocMap.notMem_of_lookup queued)]
    exact ⟨inv, rfl⟩
  | some entry =>
    obtain ⟨refcounts, eq, represents, size⟩ := inv.removeQueued_spec queued
    rw [eq]
    have present := AssocMap.mem_of_lookup queued
    have active := inv.entries_active id present
    have entriesSize := AssocMap.size_erase present
    have activeCard := Finset.card_erase_of_mem active
    have activePos := Finset.card_pos.2 ⟨id, active⟩
    have running := inv.running
    refine ⟨?_, rfl⟩
    constructor
    case queue => exact inv.queue.remove id
    case entries_active =>
      intro a queued'
      rw [AList.mem_erase] at queued'
      exact Finset.mem_erase.2 ⟨queued'.1, inv.entries_active a queued'.2⟩
    case running =>
      show state.running + AssocMap.size (state.entries.erase id) = (state.active.erase id).card
      omega
    case running_le => exact inv.running_le
    case entries_le =>
      have bound := inv.entries_le
      show AssocMap.size (state.entries.erase id) ≤ config.capacity
      omega
    case keys_injective => exact inv.keys_injective
    case keys_running =>
      intro a keyed
      obtain ⟨held, unqueued⟩ := inv.keys_running a keyed
      refine ⟨Finset.mem_erase.2 ⟨fun same => unqueued (same ▸ present), held⟩, ?_⟩
      rw [AList.mem_erase, not_and]
      exact fun _ => unqueued
    case keys_active => exact inv.keys_active
    case refcounts => exact represents
    case refcounts_le => exact size.trans inv.refcounts_le
    case waiting => exact inv.waiting
    case waiting_le => exact inv.waiting_le
    case waiting_lt => exact inv.waiting_lt

/-- An execution that is active and not queued is one of the running ones. -/
theorem Inv.running_pos (inv : Inv config state) (active : id ∈ state.active)
    (unqueued : id ∉ state.entries) : 0 < state.running := by
  have inside : ∀ a ∈ state.entries, a ∈ state.active.erase id := by
    intro a queued
    exact Finset.mem_erase.2 ⟨fun same => unqueued (same ▸ queued), inv.entries_active a queued⟩
  have size := AssocMap.size_le_card inside
  have card := Finset.card_erase_of_mem active
  have pos := Finset.card_pos.2 ⟨id, active⟩
  have running := inv.running
  omega

/-- A running execution holds a reference to its key. -/
theorem holders_pos_of_running {key : OrderingKey}
    (held : state.runningOrderingKeys.lookup id = some key) :
    0 < holders state.entries state.runningOrderingKeys key := by
  have counted := AssocMap.count_pos (fun k => k == key) held (beq_self_eq_true key)
  unfold holders
  omega

/-- Retiring a running execution gives its reference back. -/
theorem holders_retire {key : OrderingKey} {entries : AssocMap ExecutionId QueueEntry}
    {running : AssocMap ExecutionId OrderingKey} :
    holders entries (running.erase id) key =
      if running.lookup id = some key then holders entries running key - 1
      else holders entries running key := by
  unfold holders
  cases held : running.lookup id with
  | none =>
    rw [AssocMap.erase_of_notMem (AssocMap.notMem_of_lookup held)]
    simp
  | some own =>
    have erased := AssocMap.count_erase (fun k => k == key) held
    simp only [beq_iff_eq] at erased
    simp only [Option.some.injEq]
    by_cases same : own = key
    · rw [if_pos same] at erased
      rw [if_pos same]
      omega
    · rw [if_neg same] at erased
      rw [if_neg same]
      omega

/-- What `execution_finished` does to a running execution. -/
structure Retired (state : LaneState) (id : ExecutionId) (after : LaneState) : Prop where
  eq : after =
    { state with
      active := state.active.erase id
      running := state.running - 1
      runningOrderingKeys := state.runningOrderingKeys.erase id
      activeOrderingKeys := after.activeOrderingKeys
      orderingKeyRefcounts := after.orderingKeyRefcounts }
  keys : ∀ key, key ∈ after.activeOrderingKeys ↔
    key ∈ state.activeOrderingKeys ∧ state.runningOrderingKeys.lookup id ≠ some key
  refcounts : RefCount.Represents after.orderingKeyRefcounts
    (holders state.entries (state.runningOrderingKeys.erase id))
  size : after.orderingKeyRefcounts.size ≤ state.orderingKeyRefcounts.size

theorem executionFinished_of_notMem (inactive : id ∉ state.active)
    (unheld : id ∉ state.runningOrderingKeys) : state.executionFinished id = (state, []) := by
  rw [← AList.lookup_eq_none] at unheld
  simp [executionFinished, inactive, unheld]

theorem Inv.executionFinished_spec (inv : Inv config state) (active : id ∈ state.active)
    (unqueued : id ∉ state.entries) :
    Retired state id (state.executionFinished id).1 ∧ (state.executionFinished id).2 = [] := by
  have running := inv.running_pos active unqueued
  have counter : sub state.running 1 = some (state.running - 1) := sub_eq_some.2 ⟨running, rfl⟩
  cases held : state.runningOrderingKeys.lookup id with
  | none =>
    have eq : state.executionFinished id =
        ({ state with active := state.active.erase id, running := state.running - 1 }, []) := by
      simp [executionFinished, active, counter, held]
    have unheld := AssocMap.erase_of_notMem (AssocMap.notMem_of_lookup held)
    rw [eq]
    refine ⟨⟨?_, fun key => ?_, ?_, le_refl _⟩, rfl⟩
    · rw [unheld]
    · simp [held]
    · rw [unheld]
      exact inv.refcounts
  | some key =>
    obtain ⟨refcounts, released, represents, size⟩ :=
      decrementOrderingKeyRefcount_spec inv.refcounts (holders_pos_of_running held)
    have eq : state.executionFinished id =
        ({ state with
            active := state.active.erase id
            running := state.running - 1
            runningOrderingKeys := state.runningOrderingKeys.erase id
            activeOrderingKeys := state.activeOrderingKeys.erase key
            orderingKeyRefcounts := refcounts }, []) := by
      simp [executionFinished, active, counter, held, released]
    rw [eq]
    refine ⟨⟨rfl, fun other => ?_, ?_, size⟩, rfl⟩
    · rw [Finset.mem_erase, held, and_comm, ne_comm]
      simp
    · refine represents.congr fun other => ?_
      rw [holders_retire, held]
      simp only [Option.some.injEq, eq_comm]

theorem Inv.executionFinished (inv : Inv config state) (unqueued : id ∉ state.entries) :
    Inv config (state.executionFinished id).1 ∧ (state.executionFinished id).2 = [] := by
  by_cases active : id ∈ state.active
  case neg =>
    rw [executionFinished_of_notMem active fun held => active (inv.keys_running id held).1]
    exact ⟨inv, rfl⟩
  obtain ⟨retired, silent⟩ := inv.executionFinished_spec active unqueued
  refine ⟨?_, silent⟩
  generalize (state.executionFinished id).1 = after at retired
  have activeCard := Finset.card_erase_of_mem active
  have running := inv.running
  have pos := inv.running_pos active unqueued
  have keys := retired.keys
  have refcounts := retired.refcounts
  have size := retired.size
  rw [retired.eq]
  constructor
  case queue => exact inv.queue
  case entries_active =>
    intro a queued
    exact Finset.mem_erase.2 ⟨fun same => unqueued (same ▸ queued), inv.entries_active a queued⟩
  case running =>
    show state.running - 1 + state.entries.size = (state.active.erase id).card
    omega
  case running_le =>
    have bound := inv.running_le
    show state.running - 1 ≤ config.concurrency
    omega
  case entries_le => exact inv.entries_le
  case keys_injective =>
    intro a b key left right
    rw [AssocMap.lookup_erase_eq] at left right
    split at left
    · cases left
    · split at right
      · cases right
      · exact inv.keys_injective a b key left right
  case keys_running =>
    intro a keyed
    rw [AList.mem_erase] at keyed
    obtain ⟨held, unqueued'⟩ := inv.keys_running a keyed.2
    exact ⟨Finset.mem_erase.2 ⟨keyed.1, held⟩, unqueued'⟩
  case keys_active =>
    intro key
    rw [keys key, inv.keys_active key]
    constructor
    · intro ⟨⟨a, held⟩, other⟩
      refine ⟨a, ?_⟩
      rw [AssocMap.lookup_erase_eq, if_neg (fun same : a = id => other (same ▸ held))]
      exact held
    · intro ⟨a, held⟩
      rw [AssocMap.lookup_erase_eq] at held
      split at held
      · cases held
      · next ne => exact ⟨⟨a, held⟩, fun own => ne (inv.keys_injective a id key held own)⟩
  case refcounts => exact refcounts
  case refcounts_le => exact size.trans inv.refcounts_le
  case waiting => exact inv.waiting
  case waiting_le => exact inv.waiting_le
  case waiting_lt => exact inv.waiting_lt

end Removal

/-! ## Dispatch -/

section Dispatch

variable {config : LaneConfig} {state after : LaneState} {id : ExecutionId}

theorem mem_readyCandidates {candidate : ReadyCandidate}
    (member : candidate ∈ state.readyCandidates) :
    state.queue[candidate.queueIndex]? = some candidate.executionId ∧
      ∃ entry, state.entries.lookup candidate.executionId = some entry ∧
        state.blocked entry = false := by
  obtain ⟨⟨queued, index⟩, at_index, offered⟩ := List.mem_filterMap.1 member
  rw [List.mk_mem_zipIdx_iff_getElem?] at at_index
  simp only at offered
  cases found : state.entries.lookup queued with
  | none =>
    rw [found] at offered
    cases offered
  | some entry =>
    rw [found] at offered
    simp only at offered
    split at offered
    · cases offered
    · next free =>
      cases offered
      exact ⟨at_index, entry, found, by simpa using free⟩

/-- The selection is a pass that keeps the best candidate so far. -/
theorem selectReadyCandidate_eq_choose (dispatchCount : Nat) (candidates : List ReadyCandidate) :
    selectReadyCandidate dispatchCount candidates =
      Select.choose (ReadyCandidate.replaces (dispatchCount % 8 == 7)) none candidates := by
  unfold selectReadyCandidate Select.choose
  refine congrArg (fun pass => candidates.foldl pass none) (funext fun selected => ?_)
  funext candidate
  cases selected with
  | none => rfl
  | some current => rfl

/-- The selection answers one of the candidates it was offered. -/
theorem mem_of_selectReadyCandidate {dispatchCount : Nat} {candidates : List ReadyCandidate}
    {candidate : ReadyCandidate}
    (selected : selectReadyCandidate dispatchCount candidates = some candidate) :
    candidate ∈ candidates := by
  rw [selectReadyCandidate_eq_choose] at selected
  exact Select.mem_of_choose selected

/-- The state after one iteration of `take_startable` that starts `id`. -/
def started (state : LaneState) (id : ExecutionId) (entry : QueueEntry) : LaneState :=
  { state.holdKey id entry.options.orderingKey with
    queue := state.queue.filter fun other => other != id
    entries := state.entries.erase id
    running := state.running + 1
    dispatchCount := (nextDispatchCount state.dispatchCount).1 }

section Fields

variable {orderingKey : Option OrderingKey} {entry : QueueEntry}

/-- Fields `holdKey` leaves alone. -/
@[simp] theorem holdKey_active : (state.holdKey id orderingKey).active = state.active := by
  cases orderingKey <;> rfl

@[simp] theorem holdKey_closing : (state.holdKey id orderingKey).closing = state.closing := by
  cases orderingKey <;> rfl

@[simp] theorem holdKey_runtimeUnavailable :
    (state.holdKey id orderingKey).runtimeUnavailable = state.runtimeUnavailable := by
  cases orderingKey <;> rfl

@[simp] theorem holdKey_nextSequence :
    (state.holdKey id orderingKey).nextSequence = state.nextSequence := by
  cases orderingKey <;> rfl

@[simp] theorem holdKey_orderingKeyRefcounts :
    (state.holdKey id orderingKey).orderingKeyRefcounts = state.orderingKeyRefcounts := by
  cases orderingKey <;> rfl

@[simp] theorem holdKey_waitingProducers :
    (state.holdKey id orderingKey).waitingProducers = state.waitingProducers := by
  cases orderingKey <;> rfl

@[simp] theorem holdKey_waitingQueue :
    (state.holdKey id orderingKey).waitingQueue = state.waitingQueue := by
  cases orderingKey <;> rfl

@[simp] theorem holdKey_nextWaiterSequence :
    (state.holdKey id orderingKey).nextWaiterSequence = state.nextWaiterSequence := by
  cases orderingKey <;> rfl

theorem mem_holdKey_activeOrderingKeys {key : OrderingKey} :
    key ∈ (state.holdKey id orderingKey).activeOrderingKeys ↔
      orderingKey = some key ∨ key ∈ state.activeOrderingKeys := by
  cases orderingKey with
  | none => simp [holdKey]
  | some own =>
    simp only [holdKey, Finset.mem_insert, Option.some.injEq]
    rw [eq_comm]

/-- The holder of a key after `holdKey`: the new one, or one from before. -/
theorem lookup_holdKey_runningOrderingKeys (unheld : id ∉ state.runningOrderingKeys)
    {a : ExecutionId} {key : OrderingKey} :
    (state.holdKey id orderingKey).runningOrderingKeys.lookup a = some key ↔
      a = id ∧ orderingKey = some key ∨ state.runningOrderingKeys.lookup a = some key := by
  have fresh : state.runningOrderingKeys.lookup id = none := AList.lookup_eq_none.2 unheld
  cases orderingKey with
  | none => simp [holdKey]
  | some own =>
    simp only [holdKey, AssocMap.lookup_insert_eq, Option.some.injEq]
    by_cases here : a = id
    · subst here
      simp [fresh]
    · simp [here]

end Fields

theorem nextDispatchCount_logged (dispatchCount : Nat) :
    ∀ code ∈ (nextDispatchCount dispatchCount).2, code = .dispatchCountOverflow := by
  unfold nextDispatchCount
  split <;> simp

/-- No error branch of the loop is taken under the invariant. -/
theorem Inv.dispatchOne_cases (inv : Inv config state) :
    dispatchOne config state = .idle ∨
      ∃ id entry logged, dispatchOne config state = .started (state.started id entry) id logged ∧
        state.running < config.concurrency ∧ state.entries.lookup id = some entry ∧
        state.blocked entry = false ∧ ∀ code ∈ logged, code = .dispatchCountOverflow := by
  unfold dispatchOne
  split
  case isFalse => exact .inl rfl
  next room =>
    cases selected : selectReadyCandidate state.dispatchCount state.readyCandidates with
    | none => exact .inl rfl
    | some candidate =>
      obtain ⟨at_index, entry, found, free⟩ :=
        mem_readyCandidates (mem_of_selectReadyCandidate selected)
      have fits : add usizeMax state.running 1 = some (state.running + 1) :=
        add_eq_some.2 ⟨Nat.le_trans room config.concurrency_le, rfl⟩
      have erased := inv.queue.eraseIdx at_index
      refine .inr ⟨candidate.executionId, entry, (nextDispatchCount state.dispatchCount).2, ?_,
        room, found, free, nextDispatchCount_logged state.dispatchCount⟩
      simp only [fits, at_index, bne_self_eq_false, Bool.false_eq_true, ↓reduceIte, found, erased,
        LaneState.started]
      cases entry.options.orderingKey <;> rfl

/-- The unblocked key of a queued execution is not held by a running one. -/
theorem Inv.unheld_of_free (inv : Inv config state) {entry : QueueEntry} {key : OrderingKey}
    (free : state.blocked entry = false) (keyed : entry.options.orderingKey = some key)
    (other : ExecutionId) : state.runningOrderingKeys.lookup other ≠ some key := by
  intro held
  have active := (inv.keys_active key).2 ⟨other, held⟩
  rw [blocked, keyed] at free
  simp only [Option.any_some, decide_eq_false_iff_not] at free
  exact free active

/-- The key of a started execution is counted as running instead of as queued. -/
theorem holders_started {entry : QueueEntry} (queued : state.entries.lookup id = some entry)
    (unheld : id ∉ state.runningOrderingKeys) (key : OrderingKey) :
    holders (state.entries.erase id)
        (state.holdKey id entry.options.orderingKey).runningOrderingKeys key =
      holders state.entries state.runningOrderingKeys key := by
  have erased := AssocMap.count_erase (hasKey key) queued
  have test : hasKey key entry = true ↔ entry.options.orderingKey = some key := by
    rw [hasKey, beq_iff_eq]
  unfold holders
  cases keyed : entry.options.orderingKey with
  | none =>
    rw [if_neg (fun holds => by simp [test.1 holds] at keyed)] at erased
    simp only [holdKey]
    omega
  | some own =>
    simp only [holdKey]
    rw [AssocMap.count_insert _ unheld]
    simp only [test, keyed, Option.some.injEq] at erased
    simp only [beq_iff_eq]
    omega

theorem Inv.started (inv : Inv config state) {entry : QueueEntry}
    (room : state.running < config.concurrency) (queued : state.entries.lookup id = some entry)
    (free : state.blocked entry = false) : Inv config (state.started id entry) := by
  have present := AssocMap.mem_of_lookup queued
  have unheld : id ∉ state.runningOrderingKeys := fun held => (inv.keys_running id held).2 present
  have size := AssocMap.size_erase present
  have running := inv.running
  have entriesLe := inv.entries_le
  have holds : ∀ {a key}, (state.started id entry).runningOrderingKeys.lookup a = some key ↔
      a = id ∧ entry.options.orderingKey = some key ∨
        state.runningOrderingKeys.lookup a = some key := by
    intro a key
    simp only [LaneState.started]
    exact lookup_holdKey_runningOrderingKeys unheld
  constructor
  case queue => simpa [LaneState.started] using inv.queue.remove id
  case entries_active =>
    intro a queued'
    simp only [LaneState.started, AList.mem_erase] at queued'
    simpa [LaneState.started] using inv.entries_active a queued'.2
  case running =>
    simp only [LaneState.started, holdKey_active]
    omega
  case running_le => exact room
  case entries_le =>
    simp only [LaneState.started]
    omega
  case keys_injective =>
    intro a b key left right
    rcases holds.1 left with ⟨here, own⟩ | left
    · rcases holds.1 right with ⟨here', _⟩ | right
      · exact here.trans here'.symm
      · exact (inv.unheld_of_free free own b right).elim
    · rcases holds.1 right with ⟨_, own⟩ | right
      · exact (inv.unheld_of_free free own a left).elim
      · exact inv.keys_injective a b key left right
  case keys_running =>
    intro a held
    obtain ⟨key, held⟩ := AssocMap.mem_iff_lookup.1 held
    simp only [LaneState.started, holdKey_active, AList.mem_erase, not_and]
    rcases holds.1 held with ⟨here, _⟩ | held
    · subst here
      exact ⟨inv.entries_active a present, fun other => (other rfl).elim⟩
    · obtain ⟨active, unqueued⟩ := inv.keys_running a (AssocMap.mem_of_lookup held)
      exact ⟨active, fun _ => unqueued⟩
  case keys_active =>
    intro key
    simp only [holds]
    simp only [LaneState.started, mem_holdKey_activeOrderingKeys, inv.keys_active key]
    constructor
    · intro held
      rcases held with own | ⟨a, held⟩
      · exact ⟨id, .inl ⟨rfl, own⟩⟩
      · exact ⟨a, .inr held⟩
    · intro ⟨a, held⟩
      rcases held with ⟨_, own⟩ | held
      · exact .inl own
      · exact .inr ⟨a, held⟩
  case refcounts =>
    simp only [LaneState.started, holdKey_orderingKeyRefcounts]
    exact inv.refcounts.congr fun key => (holders_started queued unheld key).symm
  case refcounts_le => simpa [LaneState.started] using inv.refcounts_le
  case waiting => simpa [LaneState.started] using inv.waiting
  case waiting_le => simpa [LaneState.started] using inv.waiting_le
  case waiting_lt => simpa [LaneState.started] using inv.waiting_lt

/-- What the loop of `take_startable` did to the state it started from. -/
structure Loop (config : LaneConfig) (start : LaneState) (taken : Taken) : Prop where
  inv : Inv config taken.state
  logged : ∀ code ∈ taken.logged, code = .dispatchCountOverflow
  nodup : taken.starts.Nodup
  started : ∀ id ∈ taken.starts, id ∈ start.entries
  entries : ∀ id, id ∈ taken.state.entries ↔ id ∈ start.entries ∧ id ∉ taken.starts
  active : taken.state.active = start.active
  closing : taken.state.closing = start.closing
  runtimeUnavailable : taken.state.runtimeUnavailable = start.runtimeUnavailable
  waitingQueue : taken.state.waitingQueue = start.waitingQueue
  length : taken.state.queue.length + taken.starts.length = start.queue.length

theorem Loop.refl (inv : Inv config state) : Loop config state ⟨state, [], []⟩ where
  inv := inv
  logged := by simp
  nodup := List.nodup_nil
  started := by simp
  entries := by simp
  active := rfl
  closing := rfl
  runtimeUnavailable := rfl
  waitingQueue := rfl
  length := rfl

/-- Starting one more queued execution. -/
theorem Loop.start {taken : Taken} {entry : QueueEntry} {logged : List LaneCode}
    (loop : Loop config state taken) (room : taken.state.running < config.concurrency)
    (queued : taken.state.entries.lookup id = some entry)
    (free : taken.state.blocked entry = false)
    (silent : ∀ code ∈ logged, code = .dispatchCountOverflow) :
    Loop config state
      ⟨taken.state.started id entry, taken.starts ++ [id], taken.logged ++ logged⟩ := by
  have present := AssocMap.mem_of_lookup queued
  have inside := (loop.entries id).1 present
  have inv := loop.inv.started room queued free
  constructor
  case inv => exact inv
  case logged =>
    intro code member
    rcases List.mem_append.1 member with earlier | new
    · exact loop.logged code earlier
    · exact silent code new
  case nodup =>
    rw [List.nodup_append]
    refine ⟨loop.nodup, by simp, fun a member b last => ?_⟩
    rw [List.mem_singleton] at last
    subst last
    intro same
    exact inside.2 (same ▸ member)
  case started =>
    intro a member
    rcases List.mem_append.1 member with earlier | new
    · exact loop.started a earlier
    · rw [List.mem_singleton] at new
      exact new ▸ inside.1
  case entries =>
    intro a
    simp only [LaneState.started, AList.mem_erase, loop.entries a, List.mem_append,
      List.mem_singleton, not_or]
    constructor
    · intro ⟨other, queued, fresh⟩
      exact ⟨queued, fresh, other⟩
    · intro ⟨queued, fresh, other⟩
      exact ⟨other, queued, fresh⟩
  case active => simpa [LaneState.started] using loop.active
  case closing => simpa [LaneState.started] using loop.closing
  case runtimeUnavailable => simpa [LaneState.started] using loop.runtimeUnavailable
  case waitingQueue => simpa [LaneState.started] using loop.waitingQueue
  case length =>
    have entriesSize := AssocMap.size_erase present
    have before := loop.inv.queue.length
    have after := inv.queue.length
    have total := loop.length
    simp only [LaneState.started, List.length_append, List.length_singleton] at after ⊢
    omega

theorem Loop.takeLoop {taken : Taken} (fuel : Nat) (loop : Loop config state taken) :
    Loop config state (takeLoop config fuel taken) := by
  induction fuel generalizing taken with
  | zero => exact loop
  | succ fuel ih =>
    unfold LaneState.takeLoop
    rcases loop.inv.dispatchOne_cases with
      idle | ⟨id, entry, logged, eq, room, queued, free, silent⟩
    · rw [idle]
      exact loop
    · rw [eq]
      exact ih (loop.start room queued free silent)

/-- The cut-off is never felt: when the loop stops, its condition fails. -/
theorem Loop.idle {taken : Taken} (fuel : Nat) (loop : Loop config state taken)
    (enough : taken.state.queue.length < fuel) :
    dispatchOne config (LaneState.takeLoop config fuel taken).state = .idle := by
  induction fuel generalizing taken with
  | zero => omega
  | succ fuel ih =>
    unfold LaneState.takeLoop
    rcases loop.inv.dispatchOne_cases with
      idle | ⟨id, entry, logged, eq, room, queued, free, silent⟩
    · rw [idle]
      exact idle
    · rw [eq]
      have next := loop.start room queued free silent
      have before := loop.length
      have after := next.length
      simp only [List.length_append, List.length_singleton] at after
      refine ih next ?_
      simp only
      omega

theorem Inv.takeStartable (inv : Inv config state) :
    Loop config state (takeStartable config state) :=
  Loop.takeLoop _ (.refl inv)

theorem Inv.takeStartable_idle (inv : Inv config state) :
    dispatchOne config (LaneState.takeStartable config state).state = .idle :=
  Loop.idle _ (.refl inv) (Nat.lt_succ_self _)

end Dispatch

/-! ## Closing and waiting producers -/

section Waiting

variable {config : LaneConfig} {state : LaneState} {ticket : Nat}

/-- The invariant does not read the flags or the counters of dispatches. -/
theorem Inv.requestClose (inv : Inv config state) : Inv config state.requestClose where
  __ := inv

theorem Inv.dispatcherStopped (inv : Inv config state) : Inv config state.dispatcherStopped where
  queue := ⟨List.nodup_nil, fun _ => by simp [LaneState.dispatcherStopped], List.Pairwise.nil,
    fun _ _ absurd => by cases absurd⟩
  entries_active := fun _ absurd => by cases absurd
  running := rfl
  running_le := Nat.zero_le _
  entries_le := Nat.zero_le _
  keys_injective := fun _ _ _ absurd => by cases absurd
  keys_running := fun _ absurd => by cases absurd
  keys_active := fun _ => by simp [LaneState.dispatcherStopped]
  refcounts := .empty
  refcounts_le := Nat.zero_le _
  waiting := inv.waiting
  waiting_le := inv.waiting_le
  waiting_lt := inv.waiting_lt

/-- Everything `WaitingProducer::new` can do. -/
theorem newWaitingProducer_cases (config : LaneConfig) (state : LaneState) :
    (∃ error next, state.newWaitingProducer config =
        ({ state with nextWaiterSequence := next }, .error error) ∧
      state.nextWaiterSequence ≤ next) ∨
      state.waitingProducers < config.maxWaitingProducers ∧
      state.newWaitingProducer config =
        ({ state with
            nextWaiterSequence := state.nextWaiterSequence + 1
            waitingProducers := state.waitingProducers + 1
            waitingQueue := insert state.nextWaiterSequence state.waitingQueue },
          .ok state.nextWaiterSequence) := by
  unfold newWaitingProducer
  split
  · exact .inl ⟨_, state.nextWaiterSequence, rfl, le_refl _⟩
  · next room =>
    simp only
    split
    · exact .inl ⟨_, state.nextWaiterSequence, rfl, le_refl _⟩
    · next sequence fits =>
      obtain ⟨_, value⟩ := add_eq_some.1 fits
      subst value
      split
      · exact .inl ⟨_, state.nextWaiterSequence + 1, rfl, Nat.le_succ _⟩
      · next producers fits =>
        obtain ⟨_, value⟩ := add_eq_some.1 fits
        subst value
        exact .inr ⟨by omega, rfl⟩

theorem Inv.newWaitingProducer (inv : Inv config state) :
    Inv config (state.newWaitingProducer config).1 := by
  rcases newWaitingProducer_cases config state with ⟨error, next, eq, later⟩ | ⟨room, eq⟩
  · rw [eq]
    exact { inv with
      waiting_lt := fun ticket member => (inv.waiting_lt ticket member).trans_le later }
  · rw [eq]
    have fresh : state.nextWaiterSequence ∉ state.waitingQueue :=
      fun member => (inv.waiting_lt _ member).ne rfl
    have card := Finset.card_insert_of_notMem fresh
    have waiting := inv.waiting
    refine { inv with waiting := ?_, waiting_le := room, waiting_lt := ?_ }
    · show state.waitingProducers + 1 =
      (Insert.insert state.nextWaiterSequence state.waitingQueue).card
      omega
    · intro ticket member
      rcases Finset.mem_insert.1 member with new | earlier
      · exact new ▸ Nat.lt_succ_self _
      · exact (inv.waiting_lt ticket earlier).trans (Nat.lt_succ_self _)

theorem Inv.finishWaitingProducer (inv : Inv config state) (live : ticket ∈ state.waitingQueue) :
    Inv config (state.finishWaitingProducer config ticket).1 ∧
      (state.finishWaitingProducer config ticket).2.logged = [] ∧
      (state.finishWaitingProducer config ticket).1.waitingQueue =
        state.waitingQueue.erase ticket := by
  have card := Finset.card_erase_of_mem live
  have pos := Finset.card_pos.2 ⟨ticket, live⟩
  have waiting := inv.waiting
  have waitingLe := inv.waiting_le
  have counter : sub state.waitingProducers 1 = some (state.waitingProducers - 1) :=
    sub_eq_some.2 ⟨by omega, rfl⟩
  have eq : (state.finishWaitingProducer config ticket).1 =
      { state with
        waitingQueue := state.waitingQueue.erase ticket
        waitingProducers := state.waitingProducers - 1 } := by
    simp [LaneState.finishWaitingProducer, live, counter]
  refine ⟨?_, by simp [LaneState.finishWaitingProducer, live, counter], by rw [eq]⟩
  rw [eq]
  refine { inv with waiting := ?_, waiting_le := ?_, waiting_lt := ?_ }
  · show state.waitingProducers - 1 = (state.waitingQueue.erase ticket).card
    omega
  · show state.waitingProducers - 1 ≤ config.maxWaitingProducers
    omega
  · intro other member
    exact inv.waiting_lt other (Finset.mem_of_mem_erase member)

/-- The subtraction of `stats` never goes below zero. -/
theorem Inv.availableQueueCapacity (inv : Inv config state) :
    state.availableQueueCapacity config = (config.capacity - state.entries.size, []) := by
  have fits := sub_eq_some.2 ⟨inv.entries_le, rfl⟩
  rw [LaneState.availableQueueCapacity, fits]

end Waiting

end LaneState

end BusyBeaver
