import Mathlib.Tactic.Common
import Mathlib.Data.List.Basic
import Mathlib.Data.List.Count

/-!
# A notification cell

A cell on which waiters register and are woken one at a time, oldest first, or all at
once.  A single notification that finds nobody leaves a permit for the next to register.
A waiter that was chosen by a single notification and is dropped before it takes it
hands it to the next.  `Lone` is the cell of one task, whose future is created before it
is registered: only a notification of all is noticed in between.

`ones` counts the single notifications on their way; the lemmas say what each operation
does to that count and to the list of those still asleep.
-/

namespace Wakeup

universe u

/-- How a waiter was notified. -/
inductive Wake : Type
  | one
  | all
  deriving DecidableEq, Repr

/-- The waiters not notified, oldest first, and those notified that have not looked. -/
structure Notify (ι : Type u) : Type u where
  permit : Bool
  waiting : List ι
  notified : List (ι × Wake)
  deriving DecidableEq, Repr

namespace Notify

variable {ι : Type u}

def new : Notify ι := ⟨false, [], []⟩

/-- Notify the oldest waiter, or leave a permit. -/
def notifyOne (n : Notify ι) : Notify ι :=
  match n.waiting with
  | [] => { n with permit := true }
  | w :: rest => { n with waiting := rest, notified := (w, .one) :: n.notified }

/-- Notify every waiter; the permit stays as it is. -/
def notifyWaiters (n : Notify ι) : Notify ι :=
  { n with waiting := [], notified := n.waiting.map (fun w => (w, Wake.all)) ++ n.notified }

/-- Register, or take the permit and be ready at once. -/
def enable (n : Notify ι) (w : ι) : Notify ι × Bool :=
  if n.permit then ({ n with permit := false }, true)
  else ({ n with waiting := n.waiting ++ [w] }, false)

/-- A notified waiter takes its notification. -/
def poll [DecidableEq ι] (n : Notify ι) (w : ι) : Option (Notify ι × Wake) :=
  if (w, Wake.one) ∈ n.notified then
    some ({ n with notified := n.notified.erase (w, .one) }, .one)
  else if (w, Wake.all) ∈ n.notified then
    some ({ n with notified := n.notified.erase (w, .all) }, .all)
  else none

/-- A waiter goes away; a single notification it did not take goes to the next. -/
def drop [DecidableEq ι] (n : Notify ι) (w : ι) : Notify ι :=
  if w ∈ n.waiting then { n with waiting := n.waiting.erase w }
  else if (w, Wake.one) ∈ n.notified then
    { n with notified := n.notified.erase (w, .one) }.notifyOne
  else { n with notified := n.notified.erase (w, .all) }

/-- The waiters chosen by a single notification they have not taken. -/
def ones (n : Notify ι) : Nat := n.notified.countP fun entry => decide (entry.2 = Wake.one)

/-- Those waiting, and those notified and not gone. -/
def keys (n : Notify ι) : List ι := n.waiting ++ n.notified.map Prod.fst

variable {n n' : Notify ι} {w v : ι} {wake : Wake}

/-! ## What becomes of those asleep, and of the count -/

/-- Nobody is left to notify, or one more single notification is on its way. -/
theorem notifyOne_ones (n : Notify ι) :
    (n.notifyOne.waiting = [] ∧ n.notifyOne.ones = n.ones) ∨
      n.notifyOne.ones = n.ones + 1 := by
  unfold notifyOne
  split
  · next empty => exact .inl ⟨empty, rfl⟩
  · exact .inr (by simp [ones])

theorem mem_notifyOne_waiting (member : v ∈ n.notifyOne.waiting) : v ∈ n.waiting := by
  unfold notifyOne at member
  split at member
  · exact member
  · next w rest eq =>
    rw [eq]
    exact List.mem_cons_of_mem w member

@[simp] theorem notifyWaiters_waiting (n : Notify ι) : n.notifyWaiters.waiting = [] := rfl

@[simp] theorem enable_ones (n : Notify ι) (w : ι) : (n.enable w).1.ones = n.ones := by
  unfold enable
  split <;> rfl

theorem mem_enable_waiting (member : v ∈ (n.enable w).1.waiting) : v ∈ n.waiting ∨ v = w := by
  unfold enable at member
  split at member
  · exact .inl member
  · simpa using member

/-! ## Who is registered -/

theorem keys_notifyOne (n : Notify ι) : n.notifyOne.keys.Perm n.keys := by
  unfold notifyOne keys
  split
  · exact .refl _
  · next w rest eq =>
    rw [eq]
    exact List.perm_middle

theorem keys_notifyWaiters (n : Notify ι) : n.notifyWaiters.keys.Perm n.keys := by
  simp [notifyWaiters, keys, Function.comp_def]

/-- Who enables is ready, or registers. -/
theorem keys_enable (n : Notify ι) (w : ι) :
    ((n.enable w).2 = true ∧ (n.enable w).1.keys = n.keys) ∨
      ((n.enable w).2 = false ∧ (n.enable w).1.keys.Perm (w :: n.keys)) := by
  unfold enable
  split
  · exact .inl ⟨rfl, rfl⟩
  · refine .inr ⟨rfl, ?_⟩
    unfold keys
    rw [List.append_assoc]
    exact List.perm_middle

/-! ## Taking a notification and going away -/

variable [DecidableEq ι]

theorem ones_erase_one (member : (w, Wake.one) ∈ n.notified) :
    { n with notified := n.notified.erase (w, .one) }.ones + 1 = n.ones := by
  have perm := List.perm_cons_erase member
  have counted := perm.countP_eq fun entry => decide (entry.2 = Wake.one)
  simpa [ones, eq_comm] using counted

theorem ones_erase_all (n : Notify ι) (w : ι) :
    { n with notified := n.notified.erase (w, .all) }.ones = n.ones := by
  by_cases member : (w, Wake.all) ∈ n.notified
  · have perm := List.perm_cons_erase member
    have counted := perm.countP_eq fun entry => decide (entry.2 = Wake.one)
    simpa [ones, eq_comm] using counted
  · rw [List.erase_of_not_mem member]

theorem poll_cases (eq : n.poll w = some (n', wake)) :
    n'.waiting = n.waiting ∧ (w, wake) ∈ n.notified ∧
      n'.notified = n.notified.erase (w, wake) := by
  unfold poll at eq
  split at eq
  · next member =>
    obtain ⟨rfl, rfl⟩ := Prod.mk.inj (Option.some.inj eq)
    exact ⟨rfl, member, rfl⟩
  split at eq
  · next member =>
    obtain ⟨rfl, rfl⟩ := Prod.mk.inj (Option.some.inj eq)
    exact ⟨rfl, member, rfl⟩
  · cases eq

/-- A poll takes a single notification off the count, and no other. -/
theorem poll_ones (eq : n.poll w = some (n', wake)) :
    n'.ones + (if wake = .one then 1 else 0) = n.ones := by
  obtain ⟨_, member, notified⟩ := poll_cases eq
  unfold ones
  rw [notified]
  cases wake with
  | one => exact ones_erase_one member
  | all => exact ones_erase_all n w

theorem mem_drop_waiting (member : v ∈ (n.drop w).waiting) : v ∈ n.waiting := by
  unfold drop at member
  split at member
  · exact List.mem_of_mem_erase member
  split at member
  · exact mem_notifyOne_waiting (n := { n with notified := n.notified.erase (w, .one) }) member
  · exact member

/-- A waiter that goes away takes no single notification with it, unless nobody is left
asleep. -/
theorem drop_ones (n : Notify ι) (w : ι) :
    (n.drop w).waiting = [] ∨ (n.drop w).ones = n.ones := by
  unfold drop
  split
  · exact .inr rfl
  split
  · next member =>
    have erased := ones_erase_one member
    rcases notifyOne_ones { n with notified := n.notified.erase (w, .one) } with
      ⟨empty, _⟩ | raised
    · exact .inl empty
    · exact .inr (by omega)
  · exact .inr (ones_erase_all n w)

theorem map_erase_perm {l : List (ι × Wake)} (member : (w, wake) ∈ l) :
    ((l.erase (w, wake)).map Prod.fst).Perm ((l.map Prod.fst).erase w) := by
  have perm := ((List.perm_cons_erase member).map Prod.fst).erase w
  rw [List.map_cons, List.erase_cons_head] at perm
  exact perm.symm

theorem keys_poll (once : n.keys.Nodup) (eq : n.poll w = some (n', wake)) :
    n'.keys.Perm (n.keys.erase w) := by
  obtain ⟨waiting, member, notified⟩ := poll_cases eq
  have asleep : w ∉ n.waiting := by
    intro both
    exact (List.nodup_append.1 once).2.2 w both w (List.mem_map_of_mem member) rfl
  unfold keys
  rw [waiting, notified, List.erase_append_right _ asleep]
  exact (map_erase_perm member).append_left _

/-- Who goes away is not registered any more. -/
theorem keys_drop (n : Notify ι) (w : ι) : (n.drop w).keys.Perm (n.keys.erase w) := by
  unfold drop
  split
  · next asleep =>
    unfold keys
    rw [List.erase_append_left _ asleep]
  next awake =>
  split
  · next member =>
    refine (keys_notifyOne _).trans ?_
    unfold keys
    rw [List.erase_append_right _ awake]
    exact (map_erase_perm member).append_left _
  · next other =>
    unfold keys
    rw [List.erase_append_right _ awake]
    by_cases member : (w, Wake.all) ∈ n.notified
    · exact (map_erase_perm member).append_left _
    · rw [List.erase_of_not_mem member, List.erase_of_not_mem]
      intro absurd
      obtain ⟨⟨v, wake⟩, inside, rfl⟩ := List.mem_map.1 absurd
      cases wake with
      | one => exact other inside
      | all => exact member inside

theorem nodup_keys_drop (once : n.keys.Nodup) (w : ι) : (n.drop w).keys.Nodup :=
  (n.keys_drop w).nodup_iff.2 (once.erase w)

theorem mem_keys_drop (once : n.keys.Nodup) : v ∈ (n.drop w).keys ↔ v ≠ w ∧ v ∈ n.keys := by
  rw [(n.keys_drop w).mem_iff, once.mem_erase_iff]

theorem nodup_keys_poll (once : n.keys.Nodup) (eq : n.poll w = some (n', wake)) :
    n'.keys.Nodup :=
  (keys_poll once eq).nodup_iff.2 (once.erase w)

theorem mem_keys_poll (once : n.keys.Nodup) (eq : n.poll w = some (n', wake)) :
    v ∈ n'.keys ↔ v ≠ w ∧ v ∈ n.keys := by
  rw [(keys_poll once eq).mem_iff, once.mem_erase_iff]

end Notify

/-! ## A cell that one task waits on -/

/-- The future of the task: not there, created, created and overtaken by a notification of
all, registered, notified. -/
inductive Future : Type
  | absent
  | created
  | called
  | asleep
  | woken
  deriving DecidableEq, Repr

structure Lone : Type where
  permit : Bool
  future : Future
  deriving DecidableEq, Repr

namespace Lone

def new : Lone := ⟨false, .absent⟩

def create (c : Lone) : Lone := { c with future := .created }

/-- Register, by `enable` or by the first poll; a permit is taken, and a notification of
all that came since the creation is noticed. -/
def enable (c : Lone) : Lone :=
  match c.future with
  | .created => if c.permit then ⟨false, .woken⟩ else { c with future := .asleep }
  | .called => { c with future := .woken }
  | _ => c

def notifyOne (c : Lone) : Lone :=
  match c.future with
  | .asleep => { c with future := .woken }
  | _ => { c with permit := true }

def notifyWaiters (c : Lone) : Lone :=
  match c.future with
  | .created => { c with future := .called }
  | .asleep => { c with future := .woken }
  | _ => c

/-- The await is over. -/
def take (c : Lone) : Lone := { c with future := .absent }

def ready (c : Lone) : Bool := decide (c.future = .woken)

/-- The future is registered. -/
def Listens (c : Lone) : Prop := c.future = .asleep ∨ c.future = .woken

/-- The future is created, and not polled yet. -/
def Watches (c : Lone) : Prop := c.future = .created ∨ c.future = .called

/-- The future is going to be ready when it is registered. -/
def Roused (c : Lone) : Prop := c.permit = true ∨ c.future = .called

variable {c : Lone}

theorem Listens.of_enable (watches : c.Watches) : c.enable.Listens := by
  rcases watches with created | called
  · cases permit : c.permit <;> simp [enable, Listens, created, permit]
  · simp [enable, Listens, called]

/-- A roused future does not sleep. -/
theorem Roused.ready_enable (roused : c.Roused) (watches : c.Watches) :
    c.enable.ready = true := by
  rcases watches with created | called
  · rcases roused with permit | called
    · simp [enable, ready, created, permit]
    · exact absurd (created.symm.trans called) (by simp)
  · simp [enable, ready, called]

theorem Listens.notifyOne (listens : c.Listens) :
    c.notifyOne.Listens ∧ c.notifyOne.ready = true := by
  rcases listens with asleep | woken
  · simp [Lone.notifyOne, Listens, ready, asleep]
  · simp [Lone.notifyOne, Listens, ready, woken]

theorem Listens.notifyWaiters (listens : c.Listens) :
    c.notifyWaiters.Listens ∧ c.notifyWaiters.ready = true := by
  rcases listens with asleep | woken
  · simp [Lone.notifyWaiters, Listens, ready, asleep]
  · simp [Lone.notifyWaiters, Listens, ready, woken]

theorem Watches.notifyOne (watches : c.Watches) :
    c.notifyOne.Watches ∧ c.notifyOne.Roused := by
  rcases watches with created | called
  · simp [Lone.notifyOne, Watches, Roused, created]
  · simp [Lone.notifyOne, Watches, Roused, called]

theorem Watches.notifyWaiters (watches : c.Watches) :
    c.notifyWaiters.Watches ∧ c.notifyWaiters.Roused := by
  rcases watches with created | called
  · simp [Lone.notifyWaiters, Watches, Roused, created]
  · simp [Lone.notifyWaiters, Watches, Roused, called]

theorem Watches.create (c : Lone) : c.create.Watches := .inl rfl

end Lone

end Wakeup
