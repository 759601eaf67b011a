import BusyBeaver.Lib.Select
import BusyBeaver.Lib.History
import Mathlib.Data.Finset.Card

/-!
# A bounded queue with priorities and exclusive keys

Jobs wait in the order they came.  A waiting job is free when no running job holds its key.
A start takes the first of the highest priority among the free jobs, and the first of all of
them in one turn of every `period`.  At most `capacity` jobs wait and `concurrency` run.

`next` is the job a start takes, `arrivals` what a run knows of each job; `Sound.of_exec` says
what holds in every run, and `exec_without` that a job that is never started leaves no trace.
-/

namespace KeyedQueue

open Transition

variable {ι π κ : Type}

structure Job (ι π κ : Type) : Type where
  id : ι
  priority : π
  key : Option κ
  deriving DecidableEq

structure Limits : Type where
  capacity : Nat
  concurrency : Nat
  period : Nat

structure Queue (ι π κ : Type) : Type where
  isOpen : Bool
  waiting : List (Job ι π κ)
  running : Finset ι
  /-- The key that a running job holds. -/
  held : ι → Option κ
  turn : Nat

inductive Action (ι π κ : Type) : Type
  | arrive (job : Job ι π κ)
  | withdraw (id : ι)
  | start (id : ι)
  | finish (id : ι)
  | close
  | clear

/-- The action that a start of each of `ids` is. -/
def Action.starts (ids : List ι) : List (Action ι π κ) := ids.map .start

section Arrivals

variable [DecidableEq ι]

/-- The action is about this job. -/
def Action.concerns (id : ι) : Action ι π κ → Bool
  | .arrive job => decide (job.id = id)
  | .withdraw other | .start other | .finish other => decide (other = id)
  | .close | .clear => false

/-- The jobs that are known once the action is taken. -/
def Action.record (known : ι → Option (Job ι π κ)) : Action ι π κ → ι → Option (Job ι π κ)
  | .arrive job => Function.update known job.id (some job)
  | _ => known

/-- The job that came last under each id. -/
def arrivals (actions : List (Action ι π κ)) : ι → Option (Job ι π κ) :=
  actions.foldl Action.record fun _ => none

theorem arrivals_append (before after : List (Action ι π κ)) :
    arrivals (before ++ after) = after.foldl Action.record (arrivals before) :=
  List.foldl_append

theorem foldl_record_starts (known : ι → Option (Job ι π κ)) (ids : List ι) :
    (Action.starts ids : List (Action ι π κ)).foldl Action.record known = known := by
  induction ids with
  | nil => rfl
  | cons id rest ih => exact ih

end Arrivals

namespace Queue

def empty : Queue ι π κ where
  isOpen := true
  waiting := []
  running := ∅
  held := fun _ => none
  turn := 0

variable [DecidableEq ι] [DecidableEq κ]

/-- No running job holds the key. -/
def free (queue : Queue ι π κ) (job : Job ι π κ) : Bool :=
  job.key.all fun key => decide (∀ id ∈ queue.running, queue.held id ≠ some key)

variable [LT π] [DecidableLT π]

/-- The job that the next start takes. -/
def next (period : Nat) (queue : Queue ι π κ) : Option (Job ι π κ) :=
  let candidates := queue.waiting.filter queue.free
  if queue.turn + 1 = period then candidates.head?
  else Select.choose (fun job current => decide (current.priority < job.priority)) none candidates

def started (period : Nat) (queue : Queue ι π κ) (job : Job ι π κ) : Queue ι π κ :=
  { queue with
    waiting := queue.waiting.filter fun other => decide (other.id ≠ job.id)
    running := insert job.id queue.running
    held := Function.update queue.held job.id job.key
    turn := (queue.turn + 1) % period }

def step (limits : Limits) (queue : Queue ι π κ) : Action ι π κ → Option (Queue ι π κ)
  | .arrive job =>
    if queue.isOpen = true ∧ queue.waiting.length < limits.capacity ∧ job.id ∉ queue.running ∧
        ∀ other ∈ queue.waiting, other.id ≠ job.id then
      some { queue with waiting := queue.waiting ++ [job] }
    else none
  | .withdraw id =>
    if ∃ job ∈ queue.waiting, job.id = id then
      some { queue with waiting := queue.waiting.filter fun job => decide (job.id ≠ id) }
    else none
  | .start id =>
    if queue.running.card < limits.concurrency then
      (queue.next limits.period).bind fun job =>
        if job.id = id then some (queue.started limits.period job) else none
    else none
  | .finish id =>
    if id ∈ queue.running then
      some
        { queue with
          running := queue.running.erase id
          held := Function.update queue.held id none }
    else none
  | .close => some { queue with isOpen := false }
  | .clear => some { empty with isOpen := false, turn := queue.turn }

/-- Nothing more can be started. -/
def Saturated (limits : Limits) (queue : Queue ι π κ) : Prop :=
  queue.running.card < limits.concurrency → ∀ job ∈ queue.waiting, queue.free job = false

end Queue

/-- All runs of a queue. -/
def keyedQueue (ι π κ : Type) [DecidableEq ι] [DecidableEq κ] [LT π] [DecidableLT π]
    (limits : Limits) : System (Queue ι π κ) (Action ι π κ) where
  init := .empty
  step := Queue.step limits

namespace Queue

variable {queue after : Queue ι π κ} {limits : Limits}

/-! ## What every run keeps -/

/-- No job is in two places, the bounds are kept, every job is the one that arrived, and no two
running jobs hold one key. -/
structure Sound (limits : Limits) (arrived : ι → Option (Job ι π κ)) (queue : Queue ι π κ) :
    Prop where
  waiting_le : queue.waiting.length ≤ limits.capacity
  running_le : queue.running.card ≤ limits.concurrency
  nodup : (queue.waiting.map Job.id).Nodup
  apart : ∀ job ∈ queue.waiting, job.id ∉ queue.running
  waits : ∀ job ∈ queue.waiting, arrived job.id = some job
  holds : ∀ id ∈ queue.running, ∃ job, arrived id = some job ∧ queue.held id = job.key
  exclusive : ∀ a ∈ queue.running, ∀ b ∈ queue.running, ∀ key, queue.held a = some key →
    queue.held b = some key → a = b

variable {arrived : ι → Option (Job ι π κ)}

theorem Sound.empty : Sound limits arrived (.empty : Queue ι π κ) where
  waiting_le := Nat.zero_le _
  running_le := Nat.zero_le _
  nodup := List.nodup_nil
  apart := fun _ absurd => by cases absurd
  waits := fun _ absurd => by cases absurd
  holds := fun _ absurd => by cases absurd
  exclusive := fun _ absurd => by cases absurd

/-- What is left of the waiting jobs once some are taken out. -/
theorem Sound.filter (sound : Sound limits arrived queue) (keep : Job ι π κ → Bool) :
    Sound limits arrived { queue with waiting := queue.waiting.filter keep } where
  waiting_le := (List.length_filter_le ..).trans sound.waiting_le
  running_le := sound.running_le
  nodup := sound.nodup.sublist (List.filter_sublist.map _)
  apart := fun job member => sound.apart job (List.mem_of_mem_filter member)
  waits := fun job member => sound.waits job (List.mem_of_mem_filter member)
  holds := sound.holds
  exclusive := sound.exclusive

theorem Sound.finish [DecidableEq ι] (sound : Sound limits arrived queue) (id : ι) :
    Sound limits arrived
      { queue with
        running := queue.running.erase id
        held := Function.update queue.held id none } where
  waiting_le := sound.waiting_le
  running_le := (Finset.card_le_card (Finset.erase_subset ..)).trans sound.running_le
  nodup := sound.nodup
  apart := fun job member inside => sound.apart job member (Finset.mem_of_mem_erase inside)
  waits := sound.waits
  holds := by
    intro a member
    obtain ⟨other, runs⟩ := Finset.mem_erase.1 member
    simp only [Function.update_of_ne other]
    exact sound.holds a runs
  exclusive := by
    intro a inA b inB key holdsA holdsB
    obtain ⟨otherA, runsA⟩ := Finset.mem_erase.1 inA
    obtain ⟨otherB, runsB⟩ := Finset.mem_erase.1 inB
    simp only [Function.update_of_ne otherA] at holdsA
    simp only [Function.update_of_ne otherB] at holdsB
    exact sound.exclusive a runsA b runsB key holdsA holdsB

theorem filter_comm (jobs : List (Job ι π κ)) (first second : Job ι π κ → Bool) :
    (jobs.filter first).filter second = (jobs.filter second).filter first := by
  rw [List.filter_filter, List.filter_filter]
  exact List.filter_congr fun job _ => Bool.and_comm ..

section Without

variable [DecidableEq ι] {id : ι}

/-- The queue without the job, if it waits in it. -/
def without (queue : Queue ι π κ) (id : ι) : Queue ι π κ :=
  { queue with waiting := queue.waiting.filter fun job => decide (job.id ≠ id) }

theorem without_eq_self (absent : ∀ job ∈ queue.waiting, job.id ≠ id) :
    queue.without id = queue := by
  have same : (queue.waiting.filter fun job => decide (job.id ≠ id)) = queue.waiting := by
    rw [List.filter_eq_self]
    exact fun job member => decide_eq_true (absent job member)
  rw [without, same]

end Without

/-! ## Starts -/

variable [DecidableEq κ]

theorem free_iff {job : Job ι π κ} :
    queue.free job = true ↔
      ∀ key, job.key = some key → ∀ id ∈ queue.running, queue.held id ≠ some key := by
  unfold free
  cases job.key with
  | none => simp
  | some key => simp

/-- Nothing waits in a queue that could start something and runs nothing. -/
theorem Saturated.waiting_eq_nil (saturated : Saturated limits queue)
    (room : 0 < limits.concurrency) (idle : queue.running = ∅) : queue.waiting = [] := by
  refine List.eq_nil_iff_forall_not_mem.2 fun job member => ?_
  have blocked := saturated (by rw [idle]; exact room) job member
  have free : queue.free job = true := by
    rw [free_iff, idle]
    simp
  rw [free] at blocked
  cases blocked

variable [LT π] [DecidableLT π]

/-- A start takes a free job that waits. -/
theorem of_next {period : Nat} {job : Job ι π κ} (due : queue.next period = some job) :
    job ∈ queue.waiting ∧ queue.free job = true := by
  refine List.mem_filter.1 ?_
  unfold next at due
  split at due
  · exact List.mem_of_head? due
  · exact Select.mem_of_choose due

theorem next_eq_none {period : Nat} :
    queue.next period = none ↔ ∀ job ∈ queue.waiting, queue.free job = false := by
  have none_left : queue.waiting.filter queue.free = [] ↔
      ∀ job ∈ queue.waiting, queue.free job = false := by
    simp [List.filter_eq_nil_iff]
  rw [← none_left]
  unfold next
  split
  · exact List.head?_eq_none_iff
  · exact Select.choose_eq_none

variable [DecidableEq ι]

theorem step_start {job : Job ι π κ} (room : queue.running.card < limits.concurrency)
    (due : queue.next limits.period = some job) :
    queue.step limits (.start job.id) = some (queue.started limits.period job) := by
  simp [step, room, due]

/-! ## Runs -/

theorem Sound.started (sound : Sound limits arrived queue) {job : Job ι π κ}
    (room : queue.running.card < limits.concurrency)
    (due : queue.next limits.period = some job) :
    Sound limits arrived (queue.started limits.period job) := by
  obtain ⟨member, free⟩ := of_next due
  have outside := sound.apart job member
  have rest := sound.filter fun other => decide (other.id ≠ job.id)
  have other : ∀ {a : ι}, a ∈ queue.running → a ≠ job.id := by
    rintro a running rfl
    exact outside running
  constructor
  case waiting_le => exact rest.waiting_le
  case running_le =>
    show (insert job.id queue.running).card ≤ _
    rw [Finset.card_insert_of_notMem outside]
    exact room
  case nodup => exact rest.nodup
  case apart =>
    intro waiting left running
    rcases Finset.mem_insert.1 running with same | earlier
    · have distinct := of_decide_eq_true (List.mem_filter.1 left).2
      exact distinct same
    · exact rest.apart waiting left earlier
  case waits => exact rest.waits
  case holds =>
    intro a running
    simp only [Queue.started]
    rcases Finset.mem_insert.1 running with rfl | earlier
    · exact ⟨job, sound.waits job member, Function.update_self ..⟩
    · rw [Function.update_of_ne (other earlier)]
      exact sound.holds a earlier
  case exclusive =>
    intro a inA b inB key holdsA holdsB
    simp only [Queue.started] at holdsA holdsB
    rcases Finset.mem_insert.1 inA with rfl | runsA
    · rcases Finset.mem_insert.1 inB with rfl | runsB
      · rfl
      · rw [Function.update_self] at holdsA
        rw [Function.update_of_ne (other runsB)] at holdsB
        exact (free_iff.1 free key holdsA b runsB holdsB).elim
    · rcases Finset.mem_insert.1 inB with rfl | runsB
      · rw [Function.update_of_ne (other runsA)] at holdsA
        rw [Function.update_self] at holdsB
        exact (free_iff.1 free key holdsB a runsA holdsA).elim
      · rw [Function.update_of_ne (other runsA)] at holdsA
        rw [Function.update_of_ne (other runsB)] at holdsB
        exact sound.exclusive a runsA b runsB key holdsA holdsB

/-- **Step lemma.** -/
theorem Sound.step (sound : Sound limits arrived queue) {action : Action ι π κ}
    (step : queue.step limits action = some after) :
    Sound limits (action.record arrived) after := by
  cases action with
  | arrive job =>
    obtain ⟨⟨-, room, idle, fresh⟩, eq⟩ := Option.ite_none_right_eq_some.1 step
    obtain rfl := Option.some.inj eq
    constructor
    case waiting_le => simpa using Nat.succ_le_of_lt room
    case running_le => exact sound.running_le
    case nodup =>
      rw [List.map_append, List.nodup_append]
      refine ⟨sound.nodup, List.nodup_singleton _, ?_⟩
      rintro a inside b last rfl
      obtain ⟨other, member, same⟩ := List.mem_map.1 inside
      exact fresh other member (same.trans (List.mem_singleton.1 last))
    case apart =>
      intro waiting member
      rcases List.mem_append.1 member with earlier | last
      · exact sound.apart waiting earlier
      · rw [List.mem_singleton.1 last]
        exact idle
    case waits =>
      intro waiting member
      rcases List.mem_append.1 member with earlier | last
      · exact (Function.update_of_ne (fresh waiting earlier) ..).trans (sound.waits waiting earlier)
      · rw [List.mem_singleton.1 last]
        exact Function.update_self ..
    case holds =>
      intro a running
      have other : a ≠ job.id := by
        rintro rfl
        exact idle running
      obtain ⟨held, came, own⟩ := sound.holds a running
      exact ⟨held, (Function.update_of_ne other ..).trans came, own⟩
    case exclusive => exact sound.exclusive
  | withdraw id =>
    obtain ⟨-, eq⟩ := Option.ite_none_right_eq_some.1 step
    obtain rfl := Option.some.inj eq
    exact sound.filter _
  | start id =>
    obtain ⟨room, eq⟩ := Option.ite_none_right_eq_some.1 step
    obtain ⟨job, due, eq⟩ := Option.bind_eq_some_iff.1 eq
    obtain ⟨-, eq⟩ := Option.ite_none_right_eq_some.1 eq
    obtain rfl := Option.some.inj eq
    exact sound.started room due
  | finish id =>
    obtain ⟨-, eq⟩ := Option.ite_none_right_eq_some.1 step
    obtain rfl := Option.some.inj eq
    exact sound.finish id
  | close =>
    obtain rfl := Option.some.inj step
    exact { sound with }
  | clear =>
    obtain rfl := Option.some.inj step
    exact { (Sound.empty : Sound limits arrived (.empty : Queue ι π κ)) with }

/-- **The queue and its history**, in every run. -/
theorem Sound.of_exec {actions : List (Action ι π κ)}
    (run : (keyedQueue ι π κ limits).exec .empty actions = some queue) :
    Sound limits (arrivals actions) queue := by
  refine System.exec_invariant (I := fun actions queue => Sound limits (arrivals actions) queue)
    .empty (fun _ sound step => ?_) run
  rw [arrivals_append]
  exact sound.step step

/-! ## A job that is never started -/

section Without

variable {id : ι} {action : Action ι π κ}
variable (irrefl : ∀ a : π, ¬ a < a) (trans : ∀ a b c : π, a < b → b < c → a < c)
  (weak : ∀ a b c : π, a < c → ¬ a < b → b < c)

include irrefl trans weak in
/-- What is taken before the job is taken without it. -/
theorem next_without {period : Nat} {job : Job ι π κ} (due : queue.next period = some job)
    (other : job.id ≠ id) : (queue.without id).next period = some job := by
  have kept : decide (job.id ≠ id) = true := decide_eq_true other
  have rest : (queue.without id).waiting.filter (queue.without id).free =
      (queue.waiting.filter queue.free).filter fun job => decide (job.id ≠ id) :=
    filter_comm ..
  have same : (queue.without id).turn = queue.turn := rfl
  simp only [next, rest, same] at due ⊢
  by_cases turn : queue.turn + 1 = period
  · rw [if_pos turn] at due ⊢
    cases candidates : queue.waiting.filter queue.free with
    | nil =>
      rw [candidates] at due
      cases due
    | cons first later =>
      rw [candidates] at due
      obtain rfl := Option.some.inj due
      simp [other]
  · rw [if_neg turn] at due ⊢
    refine Select.choose_filter ?_ ?_ ?_ due kept
    · exact fun job => decide_eq_false (irrefl job.priority)
    · intro a b c first second
      exact decide_eq_true (trans _ _ _ (of_decide_eq_true second) (of_decide_eq_true first))
    · intro a b c first second
      exact decide_eq_true (weak _ _ _ (of_decide_eq_true first) (of_decide_eq_false second))

include irrefl trans weak in
/-- Actions on the other jobs do to the rest of the queue what they do with the job in it. -/
theorem step_without (step : queue.step limits action = some after)
    (apart : action.concerns id = false) :
    (queue.without id).step limits action = some (after.without id) := by
  cases action with
  | arrive job =>
    have other : job.id ≠ id := of_decide_eq_false apart
    obtain ⟨⟨isOpen, room, idle, fresh⟩, eq⟩ := Option.ite_none_right_eq_some.1 step
    obtain rfl := Option.some.inj eq
    have fits : (queue.without id).waiting.length < limits.capacity :=
      lt_of_le_of_lt (List.length_filter_le ..) room
    have new : ∀ waiting ∈ (queue.without id).waiting, waiting.id ≠ job.id :=
      fun waiting member => fresh waiting (List.mem_of_mem_filter member)
    refine Option.ite_none_right_eq_some.2 ⟨⟨isOpen, fits, idle, new⟩, ?_⟩
    simp [without, List.filter_append, other]
  | withdraw left =>
    have other : left ≠ id := of_decide_eq_false apart
    obtain ⟨⟨job, member, same⟩, eq⟩ := Option.ite_none_right_eq_some.1 step
    obtain rfl := Option.some.inj eq
    have kept : job ∈ (queue.without id).waiting :=
      List.mem_filter.2 ⟨member, decide_eq_true (same ▸ other)⟩
    refine Option.ite_none_right_eq_some.2 ⟨⟨job, kept, same⟩, ?_⟩
    simp only [without, filter_comm]
  | start taken =>
    have other : taken ≠ id := of_decide_eq_false apart
    obtain ⟨room, eq⟩ := Option.ite_none_right_eq_some.1 step
    obtain ⟨job, due, eq⟩ := Option.bind_eq_some_iff.1 eq
    obtain ⟨same, last⟩ := Option.ite_none_right_eq_some.1 eq
    obtain rfl := same
    obtain rfl := Option.some.inj last
    have space : (queue.without id).running.card < limits.concurrency := room
    rw [step_start space (next_without irrefl trans weak due other)]
    simp only [started, without, filter_comm]
  | finish ended =>
    obtain ⟨runs, eq⟩ := Option.ite_none_right_eq_some.1 step
    obtain rfl := Option.some.inj eq
    exact Option.ite_none_right_eq_some.2 ⟨runs, rfl⟩
  | close =>
    obtain rfl := Option.some.inj step
    rfl
  | clear =>
    obtain rfl := Option.some.inj step
    rfl

/-- An action on the job, other than its start or its end, leaves the rest alone. -/
theorem without_of_concerns (step : queue.step limits action = some after)
    (own : action.concerns id = true) (unstarted : action ≠ .start id)
    (unfinished : action ≠ .finish id) : after.without id = queue.without id := by
  cases action with
  | arrive job =>
    have same : job.id = id := of_decide_eq_true own
    obtain ⟨-, eq⟩ := Option.ite_none_right_eq_some.1 step
    obtain rfl := Option.some.inj eq
    simp [without, List.filter_append, same]
  | withdraw left =>
    obtain rfl : left = id := of_decide_eq_true own
    obtain ⟨-, eq⟩ := Option.ite_none_right_eq_some.1 step
    obtain rfl := Option.some.inj eq
    simp [without, List.filter_filter]
  | start taken =>
    obtain rfl : taken = id := of_decide_eq_true own
    exact (unstarted rfl).elim
  | finish ended =>
    obtain rfl : ended = id := of_decide_eq_true own
    exact (unfinished rfl).elim
  | close | clear => cases own

include irrefl trans weak in
/-- **A job that is never started is invisible**: the run without everything that concerns it
leads to the same queue, less the job. -/
theorem exec_without {actions : List (Action ι π κ)}
    (run : (keyedQueue ι π κ limits).exec queue actions = some after)
    (unstarted : .start id ∉ actions) (unfinished : .finish id ∉ actions) :
    (keyedQueue ι π κ limits).exec (queue.without id)
      (actions.filter fun action => !action.concerns id) = some (after.without id) := by
  induction actions generalizing queue with
  | nil =>
    obtain rfl := Option.some.inj run
    rfl
  | cons action rest ih =>
    simp only [System.exec] at run
    cases step : (keyedQueue ι π κ limits).step queue action with
    | none => simp [step] at run
    | some between =>
      simp only [step] at run
      have later := ih run (fun member => unstarted (List.mem_cons_of_mem _ member))
        fun member => unfinished (List.mem_cons_of_mem _ member)
      have step : queue.step limits action = some between := step
      cases own : action.concerns id with
      | false =>
        rw [List.filter_cons_of_pos (by simp [own])]
        simp only [System.exec]
        rw [show (keyedQueue ι π κ limits).step (queue.without id) action = _ from
          step_without irrefl trans weak step own]
        exact later
      | true =>
        rw [List.filter_cons_of_neg (by simp [own])]
        have same := without_of_concerns step own
          (fun eq => unstarted (eq ▸ List.mem_cons_self))
          fun eq => unfinished (eq ▸ List.mem_cons_self)
        rw [same] at later
        exact later

end Without

end Queue

end KeyedQueue
