import Mathlib.Tactic.Common

/-!
# The mutexes a thread holds when it drops what it owns

A piece of code of one thread locks and unlocks mutexes (`acquire`, `release`), and drops a
value it was given (`destroy`).  A mutex is not reentrant: a destructor gets through, whatever
it locks, when none is held (`passes_iff`).  `Runs` says what a piece of code does under what
its caller holds, and has a rule for each way such code is put together.
-/

/-- The mutexes held now, and those that were held at each drop of the value. -/
structure Guards (L : Type) : Type where
  held : List L
  drops : List (List L)

/-- Code of one thread. -/
abbrev Guarded (L : Type) : Type → Type := StateM (Guards L)

namespace Guarded

variable {L α β : Type}

def acquire (lock : L) : Guarded L Unit :=
  modify fun guards => { guards with held := lock :: guards.held }

def release [DecidableEq L] (lock : L) : Guarded L Unit :=
  modify fun guards => { guards with held := guards.held.erase lock }

/-- The value is dropped. -/
def destroy : Guarded L Unit :=
  modify fun guards => { guards with drops := guards.drops ++ [guards.held] }

/-- `body`, under a guard that lives as long. -/
def locking [DecidableEq L] (lock : L) (body : Guarded L α) : Guarded L α := do
  acquire lock
  let answer ← body
  release lock
  return answer

/-- What is held at the drops of a thread that holds nothing at first. -/
def drops (code : Guarded L α) : List (List L) := (code.run ⟨[], []⟩).2.drops

/-- A destructor that locks `wanted` under `held` is not blocked by its own thread. -/
def Passes (held wanted : List L) : Prop := ∀ lock ∈ wanted, lock ∉ held

theorem passes_iff {held : List L} : (∀ wanted, Passes held wanted) ↔ held = [] := by
  constructor
  · intro passes
    refine List.eq_nil_iff_forall_not_mem.2 fun lock => ?_
    exact passes [lock] lock (List.mem_singleton_self lock)
  · rintro rfl wanted lock -
    exact List.not_mem_nil

/-- Called under `held`, the code answers `answer`, leaves `after` locked, and drops the value
under each of `dropped`. -/
def Runs (code : Guarded L α) (held : List L) (answer : α) (after : List L)
    (dropped : List (List L)) : Prop :=
  ∀ before, code.run ⟨held, before⟩ = (answer, ⟨after, before ++ dropped⟩)

/-- Called under `held`, the code leaves `after` locked and drops the value under each of
`dropped`, whatever it answers. -/
def Drops (code : Guarded L α) (held after : List L) (dropped : List (List L)) : Prop :=
  ∃ answer, Runs code held answer after dropped

section Rules

variable {code : Guarded L α} {next : α → Guarded L β} {held between after : List L} {lock : L}
  {answer : α} {last : β} {dropped later : List (List L)}

theorem Drops.drops_eq (leaves : Drops code [] after dropped) : drops code = dropped := by
  obtain ⟨answer, runs⟩ := leaves
  rw [drops, runs []]
  rfl

/-- Code that drops nothing, and then the rest. -/
theorem Drops.seq (first : Runs code held answer between [])
    (rest : Drops (next answer) between after later) : Drops (code >>= next) held after later := by
  obtain ⟨last, rest⟩ := rest
  refine ⟨last, fun before => ?_⟩
  rw [StateT.run_bind, first before, List.append_nil]
  exact rest before

namespace Runs

theorem pure (answer : α) (held : List L) :
    Runs (Pure.pure answer : Guarded L α) held answer held [] := by
  intro before
  rw [List.append_nil]
  rfl

theorem bind (first : Runs code held answer between dropped)
    (second : Runs (next answer) between last after later) :
    Runs (code >>= next) held last after (dropped ++ later) := by
  intro before
  rw [StateT.run_bind, first before]
  show (next answer).run ⟨between, before ++ dropped⟩ = _
  rw [second, List.append_assoc]

theorem seq (first : Runs code held answer between [])
    (second : Runs (next answer) between last after later) :
    Runs (code >>= next) held last after later :=
  first.bind second

theorem acquire (lock : L) (held : List L) :
    Runs (Guarded.acquire lock) held () (lock :: held) [] := by
  intro before
  rw [List.append_nil]
  rfl

theorem release [DecidableEq L] (lock : L) (held : List L) :
    Runs (Guarded.release lock) (lock :: held) () held [] := by
  intro before
  rw [List.append_nil, Guarded.release, StateT.run_modify, List.erase_cons_head]
  rfl

theorem destroy (held : List L) : Runs Guarded.destroy held () held [held] :=
  fun _ => rfl

/-- The value is dropped, and the code answers. -/
theorem discard (answer : α) (held : List L) :
    Runs (Guarded.destroy >>= fun _ => (Pure.pure answer : Guarded L α)) held answer held [held] :=
  (destroy held).bind (pure answer held)

/-- A mutex is unlocked, and then the code answers. -/
theorem unlock [DecidableEq L] (answer : α) (lock : L) (held : List L) :
    Runs (Guarded.release lock >>= fun _ => (Pure.pure answer : Guarded L α)) (lock :: held) answer
      held [] :=
  (release lock held).seq (pure answer held)

theorem locking [DecidableEq L]
    (body : Runs code (lock :: held) answer (lock :: held) dropped) :
    Runs (Guarded.locking lock code) held answer held dropped := by
  have rest : Runs (code >>= fun answer => Guarded.release lock >>= fun _ => Pure.pure answer)
      (lock :: held) answer held (dropped ++ []) :=
    body.bind (unlock answer lock held)
  rw [List.append_nil] at rest
  exact (acquire lock held).seq rest

end Runs

end Rules

end Guarded
