import BusyBeaver.Lib.Checked
import BusyBeaver.Lib.Pool
import BusyBeaver.Lib.Transition
import BusyBeaver.Lib.Watch
import BusyBeaver.Execution.State
import Mathlib.Data.Finset.Basic
import Mathlib.Data.Nat.ModEq

/-!
# Resume notifications

`Beaver::notify_resumed` moves the resume epoch of every active execution on by one, and
`resumed_after` waits until the epoch of its execution is not the one that was observed, or
the execution is cancelled.  A notification reads the epoch and then sends its successor,
two sections with no lock around them.  Where no notification of an execution begins
between the two sections of another, the epoch counts the notifications modulo 2⁶⁴, and
nothing is missed (`resume_not_missed`); where one does, an older epoch may be sent last,
and a call sleeps through what it waited for.  How a receiver waits is a parameter, with what is
documented of it.
-/

namespace BusyBeaver

open Transition Wakeup

/-! ## One call of `resumed_after` -/

/-- `Cancelled`. -/
inductive Cancelled : Type
  | cancelled
  deriving DecidableEq, Repr

/-- Where `resumed_after` stands: in its loop, or in the select, where `cancelled` is polled
before the receiver of the epoch. -/
inductive ResumeStage : Type
  | looping (epoch : Waiter Nat)
  | selecting (epoch : Waiter Nat) (cancellation : Waiter Unit)
  | changing (epoch : Waiter Nat) (cancellation : Waiter Unit)
  | asleep (epoch : Waiter Nat) (cancellation : Waiter Unit)
  | cancelled
  deriving DecidableEq, Repr

namespace ResumeStage

/-- `current != observed`, and `Ok(current)` then. -/
def accept (observed current : Nat) : Option Nat :=
  if current = observed then none else some current

/-- What `ExecutionCore::cancelled` waits for. -/
def acceptCancelled (flag : Bool) : Option Unit := if flag then some () else none

/-- What the call does next; `none` if it has returned or sleeps. -/
def poll (changed : Changed) (flag : Watch Bool) (epochs : Watch Nat) (observed : Nat) :
    ResumeStage → Option ResumeStage
  | .looping epoch =>
    (epochs.poll changed false (accept observed) epoch).map fun
      | .answered current => .looping (.answered current)
      | waiting => .selecting waiting flag.subscribe
  | .selecting epoch cancellation =>
    match flag.poll changed true acceptCancelled cancellation with
    | some (.answered ()) => some .cancelled
    | some waiting => some (.selecting epoch waiting)
    | none => some (.changing epoch cancellation)
  | .changing epoch cancellation =>
    match epochs.poll changed false (accept observed) epoch with
    | some woken => some (.looping woken)
    | none => some (.asleep epoch cancellation)
  -- either branch wakes the task, and the select is polled from its first branch
  | .asleep epoch cancellation =>
    if (flag.poll changed true acceptCancelled cancellation).isSome ∨
        (epochs.poll changed false (accept observed) epoch).isSome then
      some (.selecting epoch cancellation)
    else none
  | .cancelled => none

def result : ResumeStage → Option (Except Cancelled Nat)
  | .looping (.answered current) => some (.ok current)
  | .cancelled => some (.error .cancelled)
  | _ => none

end ResumeStage

structure ResumeCall : Type where
  execution : ExecutionId
  observed : Nat
  stage : ResumeStage
  deriving DecidableEq, Repr

/-! ## The notifications -/

/-- A call of `ExecutionRegistry::notify_resumed`, between the cores and between the two
sections of one. -/
inductive Notifier : Type
  | reading (cores : List ExecutionId) (count : Nat)
  | sending (current : Nat) (core : ExecutionId) (cores : List ExecutionId) (count : Nat)
  | returned (count : Nat)
  deriving DecidableEq, Repr

/-- The call has read the epoch of the execution, and not sent its successor. -/
def Notifier.Crosses (i : ExecutionId) : Notifier → Prop
  | .sending _ core _ _ => core = i
  | _ => False

/-- The successor of an epoch; past `u64::MAX` it is 0, and `BB-RESUME-EPOCH-OVERFLOW` is
logged. -/
def nextEpoch (current : Nat) : Nat := (Checked.add Checked.u64Max current 1).getD 0

/-- The registry's executions with their two channels, and the calls.  `crossed` lists the
executions whose epoch is read and not sent yet, once for each call. -/
structure Resumes : Type where
  active : Finset ExecutionId
  epochs : ExecutionId → Watch Nat
  cancellation : ExecutionId → Watch Bool
  notifiers : Pool Notifier
  calls : Pool ResumeCall
  crossed : List ExecutionId

inductive ResumesAction : Type
  | register (i : ExecutionId)
  | finish (i : ExecutionId)
  /-- An accepted `request_stop` sends `true`. -/
  | requestStop (i : ExecutionId)
  /-- `notify_resumed` takes the active executions, in the order the map yields them. -/
  | notifyResumed (caller : Nat) (cores : List ExecutionId)
  | notify (caller : Nat)
  | resumedAfter (caller : Nat) (i : ExecutionId) (observed : Nat)
  | poll (caller : Nat)
  deriving DecidableEq, Repr

namespace Resumes

def new : Resumes where
  active := ∅
  epochs := fun _ => .new 0
  cancellation := fun _ => .new false
  notifiers := fun _ => none
  calls := fun _ => none
  crossed := []

/-- The next section of `notify_resumed`. -/
def notify (s : Resumes) (caller : Nat) : Notifier → Option Resumes
  | .reading [] count => some { s with notifiers := s.notifiers.set caller (.returned count) }
  | .reading (core :: cores) count =>
    some { s with
      notifiers := s.notifiers.set caller (.sending (s.epochs core).value core cores count)
      crossed := core :: s.crossed }
  | .sending current core cores count =>
    some { s with
      epochs := Function.update s.epochs core ((s.epochs core).send (nextEpoch current))
      notifiers := s.notifiers.set caller (.reading cores count)
      crossed := s.crossed.erase core }
  | .returned _ => none

/-- The next step of a call of `resumed_after`. -/
def pollCall (changed : Changed) (s : Resumes) (call : ResumeCall) : Option ResumeCall :=
  (call.stage.poll changed (s.cancellation call.execution) (s.epochs call.execution)
    call.observed).map
    fun stage => { call with stage := stage }

def step (changed : Changed) (s : Resumes) : ResumesAction → Option Resumes
  | .register i => some { s with active := insert i s.active }
  | .finish i => some { s with active := s.active.erase i }
  | .requestStop i =>
    some { s with
      cancellation := Function.update s.cancellation i ((s.cancellation i).send true) }
  | .notifyResumed caller cores =>
    if s.notifiers caller = none ∧ cores.Nodup ∧ cores.toFinset = s.active then
      some { s with notifiers := s.notifiers.set caller (.reading cores cores.length) }
    else none
  | .notify caller => (s.notifiers caller).bind (s.notify caller)
  | .resumedAfter caller i observed =>
    if s.calls caller = none then
      some { s with
        calls := s.calls.set caller ⟨i, observed, .looping (s.epochs i).subscribe⟩ }
    else none
  | .poll caller =>
    (s.calls caller).bind fun call =>
      (s.pollCall changed call).map fun next => { s with calls := s.calls.set caller next }

/-- No notification of an execution begins between the two sections of another. -/
def Apart (s : Resumes) : ResumesAction → Prop
  | .notify caller =>
    match s.notifiers caller with
    | some (.reading (core :: _) _) => core ∉ s.crossed
    | _ => True
  | _ => True

instance (s : Resumes) : ∀ action, Decidable (s.Apart action)
  | .notify caller =>
    match eq : s.notifiers caller with
    | some (.reading (core :: _) _) =>
      decidable_of_iff (core ∉ s.crossed) (by simp only [Apart, eq])
    | some (.reading [] _) | some (.sending _ _ _ _) | some (.returned _) | none =>
      decidable_of_iff True (by simp only [Apart, eq])
  | .register _ | .finish _ | .requestStop _ | .notifyResumed _ _ | .resumedAfter _ _ _
  | .poll _ => inferInstanceAs (Decidable True)

end Resumes

/-- All runs of the notifications and the calls that wait for them, whose receivers wait with
`changed`. -/
def resumes (changed : Changed) : System Resumes ResumesAction := ⟨.new, Resumes.step changed⟩

/-! ## What a call may rely on -/

namespace ResumeStage

variable {flag : Watch Bool} {epochs : Watch Nat} {observed : Nat} {stage next : ResumeStage}
  {epoch : Waiter Nat} {cancellation : Waiter Unit} {changed : Changed}

/-- Inside the select the receiver of the epoch is asleep, and `cancelled` has not returned. -/
structure InSelect (flag : Watch Bool) (epochs : Watch Nat) (observed : Nat)
    (epoch : Waiter Nat) (cancellation : Waiter Unit) : Prop where
  heard : epoch.Listens epochs (accept observed)
  cancels : cancellation.Listens flag acceptCancelled
  asleep : ∃ seen, epoch = .asleep seen
  pending : ∀ answer, cancellation ≠ .answered answer

/-- Neither channel is slept through, and what the call has returned is right. -/
def Listens (flag : Watch Bool) (epochs : Watch Nat) (observed : Nat) : ResumeStage → Prop
  | .looping epoch =>
    epoch.Listens epochs (accept observed) ∧ (∀ seen, epoch ≠ .asleep seen) ∧
      ∀ current, epoch = .answered current → current ≠ observed
  | .selecting epoch cancellation | .changing epoch cancellation
  | .asleep epoch cancellation => InSelect flag epochs observed epoch cancellation
  | .cancelled => flag.value = true

theorem accept_eq_some {current answer : Nat} :
    accept observed current = some answer ↔ current ≠ observed ∧ current = answer := by
  unfold accept
  split <;> simp_all

theorem accept_eq_none {current : Nat} : accept observed current = none ↔ current = observed := by
  simp [accept]

theorem acceptCancelled_eq_none {value : Bool} :
    acceptCancelled value = none ↔ value = false := by
  cases value <;> simp [acceptCancelled]

theorem InSelect.sendEpoch (inSelect : InSelect flag epochs observed epoch cancellation)
    (value : Nat) : InSelect flag (epochs.send value) observed epoch cancellation :=
  ⟨inSelect.heard.send value, inSelect.cancels, inSelect.asleep, inSelect.pending⟩

theorem InSelect.cancel (inSelect : InSelect flag epochs observed epoch cancellation) :
    InSelect (flag.send true) epochs observed epoch cancellation :=
  ⟨inSelect.heard, inSelect.cancels.send true, inSelect.asleep, inSelect.pending⟩

theorem Listens.sendEpoch (listens : stage.Listens flag epochs observed) (value : Nat) :
    stage.Listens flag (epochs.send value) observed := by
  cases stage with
  | looping epoch => exact ⟨listens.1.send value, listens.2⟩
  | selecting epoch cancellation => exact InSelect.sendEpoch listens value
  | changing epoch cancellation => exact InSelect.sendEpoch listens value
  | asleep epoch cancellation => exact InSelect.sendEpoch listens value
  | cancelled => exact listens

theorem Listens.cancel (listens : stage.Listens flag epochs observed) :
    stage.Listens (flag.send true) epochs observed := by
  cases stage with
  | looping epoch => exact listens
  | selecting epoch cancellation => exact InSelect.cancel listens
  | changing epoch cancellation => exact InSelect.cancel listens
  | asleep epoch cancellation => exact InSelect.cancel listens
  | cancelled => rfl

/-- The first look, and the look after a wake. -/
theorem Listens.look (listens : (looping epoch).Listens flag epochs observed)
    (documented : changed.Documented)
    (step : (looping epoch).poll changed flag epochs observed = some next) :
    next.Listens flag epochs observed := by
  obtain ⟨heard, awake, -⟩ := listens
  obtain ⟨woken, polled, rfl⟩ := Option.map_eq_some_iff.1 step
  have after := heard.poll documented polled
  cases woken with
  | answered current =>
    refine ⟨trivial, fun _ absurd => (by cases absurd), fun answer same => ?_⟩
    cases same
    obtain ⟨differs, rfl⟩ := accept_eq_some.1 (Waiter.accept_of_poll polled)
    exact differs
  | asleep seen =>
    exact ⟨after, Waiter.Listens.subscribe, ⟨seen, rfl⟩, fun _ absurd => (by cases absurd)⟩
  | looking seen marks =>
    cases epoch with
    | asleep older => exact absurd rfl (awake older)
    | answered current => cases polled
    | looking older marking =>
      simp only [Watch.poll] at polled
      split at polled <;> cases polled

theorem Listens.poll (listens : stage.Listens flag epochs observed)
    (documented : changed.Documented)
    (step : stage.poll changed flag epochs observed = some next) :
    next.Listens flag epochs observed := by
  cases stage with
  | looping epoch => exact listens.look documented step
  | selecting epoch cancellation =>
    obtain ⟨heard, cancels, asleep, pending⟩ := listens
    simp only [ResumeStage.poll] at step
    split at step
    · next polled =>
      obtain rfl := Option.some.inj step
      have flagged := Waiter.accept_of_poll polled
      by_contra unset
      rw [acceptCancelled_eq_none.2 (Bool.eq_false_iff.2 unset)] at flagged
      cases flagged
    · next waiting other polled =>
      obtain rfl := Option.some.inj step
      refine ⟨heard, cancels.poll documented polled, asleep, ?_⟩
      rintro ⟨⟩ rfl
      exact other rfl
    · obtain rfl := Option.some.inj step
      exact ⟨heard, cancels, asleep, pending⟩
  | changing epoch cancellation =>
    obtain ⟨heard, cancels, ⟨seen, rfl⟩, pending⟩ := listens
    simp only [ResumeStage.poll] at step
    split at step
    · next woken polled =>
      obtain rfl := Option.some.inj step
      have after := heard.poll documented polled
      obtain ⟨now, -, rfl⟩ := Option.map_eq_some_iff.1 polled
      exact ⟨after, fun _ absurd => (by cases absurd), fun _ absurd => (by cases absurd)⟩
    · obtain rfl := Option.some.inj step
      exact ⟨heard, cancels, ⟨seen, rfl⟩, pending⟩
  | asleep epoch cancellation =>
    simp only [ResumeStage.poll] at step
    split at step
    · obtain rfl := Option.some.inj step
      exact listens
    · cases step
  | cancelled => cases step

/-- What a call returns is the newest epoch. -/
theorem eq_of_poll_answered {current : Nat}
    (step : stage.poll changed flag epochs observed = some (.looping (.answered current))) :
    epochs.value = current := by
  cases stage with
  | looping epoch =>
    obtain ⟨woken, polled, same⟩ := Option.map_eq_some_iff.1 step
    cases woken with
    | answered answer =>
      cases same
      exact (accept_eq_some.1 (Waiter.accept_of_poll polled)).2
    | looking seen marks => cases same
    | asleep seen => cases same
  | selecting epoch cancellation =>
    simp only [ResumeStage.poll] at step
    split at step <;> cases step
  | changing epoch cancellation =>
    simp only [ResumeStage.poll] at step
    split at step
    · next woken polled =>
      cases step
      exact (accept_eq_some.1 (Waiter.accept_of_poll polled)).2
    · cases step
  | asleep epoch cancellation =>
    simp only [ResumeStage.poll] at step
    split at step <;> cases step
  | cancelled => cases step

theorem stage_of_result_ok {current : Nat} (returned : stage.result = some (.ok current)) :
    stage = .looping (.answered current) := by
  unfold result at returned
  split at returned <;> simp_all

theorem stage_of_result_error (returned : stage.result = some (.error .cancelled)) :
    stage = .cancelled := by
  unfold result at returned
  split at returned <;> simp_all

/-- **A call sleeps for a reason.**  A call that has not returned and cannot go on has seen
neither a cancellation nor another epoch than the one observed, and there is none. -/
theorem Listens.asleep (listens : stage.Listens flag epochs observed)
    (documented : changed.Documented)
    (waiting : stage.result = none) (stuck : stage.poll changed flag epochs observed = none) :
    flag.value = false ∧ epochs.value = observed := by
  cases stage with
  | looping epoch =>
    obtain ⟨heard, awake, -⟩ := listens
    rcases (Waiter.poll_eq_none documented).1 (Option.map_eq_none_iff.1 stuck) with
      ⟨current, rfl⟩ | rfl
    · cases waiting
    · exact absurd rfl (awake _)
  | selecting epoch cancellation =>
    simp only [ResumeStage.poll] at stuck
    split at stuck <;> cases stuck
  | changing epoch cancellation =>
    simp only [ResumeStage.poll] at stuck
    split at stuck <;> cases stuck
  | asleep epoch cancellation =>
    obtain ⟨heard, cancels, ⟨seen, rfl⟩, pending⟩ := listens
    simp only [ResumeStage.poll] at stuck
    split at stuck
    · cases stuck
    · next quiet =>
      rw [not_or] at quiet
      have silent := cancels.eq_none documented (Option.not_isSome_iff_eq_none.1 quiet.1) pending
      have same := heard.eq_none documented (Option.not_isSome_iff_eq_none.1 quiet.2)
        fun _ absurd => by cases absurd
      exact ⟨acceptCancelled_eq_none.1 silent, accept_eq_none.1 same⟩
  | cancelled => cases waiting

end ResumeStage

/-! ## The epochs -/

theorem nextEpoch_mod (version : Nat) :
    nextEpoch (version % 2 ^ 64) = (version + 1) % 2 ^ 64 := by
  unfold nextEpoch Checked.add Checked.u64Max
  split
  · simp only [Option.getD_some]
    omega
  · simp only [Option.getD_none]
    omega

namespace Resumes

variable {s t u : Resumes} {action : ResumesAction} {caller : Nat} {i : ExecutionId}
  {call : ResumeCall} {n : Notifier} {changed : Changed}

/-- Who has read an epoch holds the newest one, alone, and the newest counts what was sent. -/
structure Counting (s : Resumes) : Prop where
  listed : ∀ caller n, s.notifiers caller = some n → ∀ i, n.Crosses i → i ∈ s.crossed
  alone : ∀ caller other n m, s.notifiers caller = some n → s.notifiers other = some m →
    ∀ i, n.Crosses i → m.Crosses i → caller = other
  newest : ∀ caller current core cores count,
    s.notifiers caller = some (.sending current core cores count) →
      current = (s.epochs core).value
  counts : ∀ i, (s.epochs i).value = (s.epochs i).version % 2 ^ 64

/-- The calls sleep through nothing. -/
def Listening (s : Resumes) : Prop :=
  ∀ caller call, s.calls caller = some call →
    call.stage.Listens (s.cancellation call.execution) (s.epochs call.execution) call.observed

/-- A step that leaves the notifications alone leaves the epochs and their readers alone. -/
theorem notify_frame (step : s.step changed action = some t)
    (other : ∀ caller, action ≠ .notify caller) :
    t.epochs = s.epochs ∧ t.crossed = s.crossed ∧
      (t.notifiers = s.notifiers ∨ ∃ caller cores, s.notifiers caller = none ∧
        t.notifiers = s.notifiers.set caller (.reading cores cores.length)) := by
  cases action with
  | notify caller => exact absurd rfl (other caller)
  | register i | finish i | requestStop i =>
    obtain rfl := Option.some.inj step
    exact ⟨rfl, rfl, Or.inl rfl⟩
  | notifyResumed caller cores =>
    obtain ⟨guard, same⟩ := Option.ite_none_right_eq_some.1 step
    obtain rfl := Option.some.inj same
    exact ⟨rfl, rfl, Or.inr ⟨caller, cores, guard.1, rfl⟩⟩
  | resumedAfter caller i observed =>
    obtain ⟨-, same⟩ := Option.ite_none_right_eq_some.1 step
    obtain rfl := Option.some.inj same
    exact ⟨rfl, rfl, Or.inl rfl⟩
  | poll caller =>
    obtain ⟨call, -, step⟩ := Option.bind_eq_some_iff.1 step
    obtain ⟨after, -, rfl⟩ := Option.map_eq_some_iff.1 step
    exact ⟨rfl, rfl, Or.inl rfl⟩

/-- A notifier that crosses nothing takes the place of another. -/
theorem Counting.put (counting : s.Counting) (clear : ∀ i, ¬ n.Crosses i)
    (sent : t.epochs = s.epochs) (same : t.crossed = s.crossed)
    (notifiers : t.notifiers = s.notifiers.set caller n) : t.Counting := by
  have stays : ∀ other m i, t.notifiers other = some m → m.Crosses i →
      s.notifiers other = some m := by
    intro other m i found crosses
    rw [notifiers] at found
    rcases Pool.of_set_eq_some found with ⟨-, rfl⟩ | ⟨-, before⟩
    · exact absurd crosses (clear i)
    · exact before
  constructor
  · intro other m found i crosses
    rw [same]
    exact counting.listed other m (stays other m i found crosses) i crosses
  · intro first second m m' found found' i crosses crosses'
    exact counting.alone first second m m' (stays first m i found crosses)
      (stays second m' i found' crosses') i crosses crosses'
  · intro other current core cores count found
    rw [sent]
    exact counting.newest other current core cores count (stays other _ core found rfl)
  · rw [sent]
    exact counting.counts

/-- A notifier reads an epoch that nobody else has read. -/
theorem Counting.read (counting : s.Counting) {core : ExecutionId} {cores : List ExecutionId}
    {count : Nat} (apart : core ∉ s.crossed) :
    Counting { s with
      notifiers := s.notifiers.set caller (.sending (s.epochs core).value core cores count)
      crossed := core :: s.crossed } := by
  have stays : ∀ other m i, m.Crosses i →
      s.notifiers.set caller (.sending (s.epochs core).value core cores count) other = some m →
      (other = caller ∧ i = core) ∨ (s.notifiers other = some m ∧ i ≠ core) := by
    intro other m i crosses found
    rcases Pool.of_set_eq_some found with ⟨rfl, rfl⟩ | ⟨-, before⟩
    · exact Or.inl ⟨rfl, Eq.symm crosses⟩
    · refine Or.inr ⟨before, fun same => apart ?_⟩
      exact same ▸ counting.listed other m before i crosses
  constructor
  · intro other m found i crosses
    rcases stays other m i crosses found with ⟨-, rfl⟩ | ⟨before, -⟩
    · exact List.mem_cons_self
    · exact List.mem_cons_of_mem _ (counting.listed other m before i crosses)
  · intro first second m m' found found' i crosses crosses'
    rcases stays first m i crosses found with ⟨rfl, rfl⟩ | ⟨before, distinct⟩
    · rcases stays second m' _ crosses' found' with ⟨rfl, -⟩ | ⟨-, distinct⟩
      · rfl
      · exact absurd rfl distinct
    · rcases stays second m' i crosses' found' with ⟨-, same⟩ | ⟨before', -⟩
      · exact absurd same distinct
      · exact counting.alone first second m m' before before' i crosses crosses'
  · intro other current core' cores' count' found
    rcases Pool.of_set_eq_some found with ⟨-, same⟩ | ⟨-, before⟩
    · cases same
      rfl
    · exact counting.newest other current core' cores' count' before
  · exact counting.counts

/-- A notifier sends the successor of what it has read. -/
theorem Counting.sent (counting : s.Counting) {current : Nat} {core : ExecutionId}
    {cores : List ExecutionId} {count : Nat}
    (found : s.notifiers caller = some (.sending current core cores count)) :
    Counting { s with
      epochs := Function.update s.epochs core ((s.epochs core).send (nextEpoch current))
      notifiers := s.notifiers.set caller (.reading cores count)
      crossed := s.crossed.erase core } := by
  have stays : ∀ other m i, m.Crosses i →
      s.notifiers.set caller (.reading cores count) other = some m →
      s.notifiers other = some m ∧ i ≠ core := by
    intro other m i crosses there
    rcases Pool.of_set_eq_some there with ⟨-, rfl⟩ | ⟨distinct, before⟩
    · exact crosses.elim
    · refine ⟨before, ?_⟩
      rintro rfl
      exact distinct (counting.alone other caller m _ before found _ crosses rfl)
  constructor
  · intro other m there i crosses
    obtain ⟨before, distinct⟩ := stays other m i crosses there
    exact (List.mem_erase_of_ne distinct).2 (counting.listed other m before i crosses)
  · intro first second m m' there there' i crosses crosses'
    exact counting.alone first second m m' (stays first m i crosses there).1
      (stays second m' i crosses' there').1 i crosses crosses'
  · intro other current' core' cores' count' there
    obtain ⟨before, distinct⟩ :=
      stays other (.sending current' core' cores' count') core' rfl there
    dsimp only
    rw [Function.update_of_ne distinct]
    exact counting.newest other current' core' cores' count' before
  · intro i
    by_cases same : i = core
    · subst same
      have read := counting.newest caller current i cores count found
      dsimp only
      rw [Function.update_self, read, counting.counts i]
      exact nextEpoch_mod _
    · dsimp only
      rw [Function.update_of_ne same]
      exact counting.counts i

theorem Counting.step (counting : s.Counting) (apart : s.Apart action)
    (step : s.step changed action = some t) : t.Counting := by
  by_cases notifies : ∃ caller, action = .notify caller
  · obtain ⟨caller, rfl⟩ := notifies
    obtain ⟨n, found, step⟩ := Option.bind_eq_some_iff.1 step
    cases n with
    | reading cores count =>
      cases cores with
      | nil =>
        obtain rfl := Option.some.inj step
        exact counting.put (n := .returned count) (fun _ crosses => crosses) rfl rfl rfl
      | cons core cores =>
        obtain rfl := Option.some.inj step
        simp only [Apart, found] at apart
        exact counting.read apart
    | sending current core cores count =>
      obtain rfl := Option.some.inj step
      exact counting.sent found
    | returned count => cases step
  · obtain ⟨sent, same, unmoved | ⟨caller, cores, -, moved⟩⟩ :=
      notify_frame step fun caller eq => notifies ⟨caller, eq⟩
    · exact ⟨unmoved ▸ same ▸ counting.listed, unmoved ▸ counting.alone,
        unmoved ▸ sent ▸ counting.newest, sent ▸ counting.counts⟩
    · exact counting.put (n := .reading cores cores.length) (fun _ crosses => crosses) sent same
        moved

theorem counting_of_reaches
    (run : (resumes changed).Reaches Apart (resumes changed).init s) : s.Counting := by
  refine run.invariant ⟨?_, ?_, ?_, fun _ => rfl⟩ fun counting apart step =>
    counting.step apart step
  · intro caller n absurd
    cases absurd
  · intro caller other n m absurd
    cases absurd
  · intro caller current core cores count absurd
    cases absurd

/-! ## The calls -/

/-- What a step does to the channels of an execution. -/
theorem channels (step : s.step changed action = some t) (i : ExecutionId) :
    (t.epochs i = s.epochs i ∨ ∃ value, t.epochs i = (s.epochs i).send value) ∧
      (t.cancellation i = s.cancellation i ∨
        t.cancellation i = (s.cancellation i).send true) := by
  by_cases notifies : ∃ caller, action = .notify caller
  · obtain ⟨caller, rfl⟩ := notifies
    obtain ⟨n, -, step⟩ := Option.bind_eq_some_iff.1 step
    cases n with
    | reading cores count =>
      cases cores <;> obtain rfl := Option.some.inj step <;> exact ⟨Or.inl rfl, Or.inl rfl⟩
    | sending current core cores count =>
      obtain rfl := Option.some.inj step
      refine ⟨?_, Or.inl rfl⟩
      by_cases same : i = core
      · subst same
        exact Or.inr ⟨_, Function.update_self ..⟩
      · exact Or.inl (Function.update_of_ne same ..)
    | returned count => cases step
  · have sent := (notify_frame step fun caller eq => notifies ⟨caller, eq⟩).1
    refine ⟨Or.inl (congrFun sent i), ?_⟩
    cases action with
    | notify caller => exact absurd ⟨caller, rfl⟩ notifies
    | register j | finish j =>
      obtain rfl := Option.some.inj step
      exact Or.inl rfl
    | requestStop j =>
      obtain rfl := Option.some.inj step
      by_cases same : i = j
      · subst same
        exact Or.inr (Function.update_self ..)
      · exact Or.inl (Function.update_of_ne same ..)
    | notifyResumed caller cores | resumedAfter caller j observed =>
      obtain ⟨-, same⟩ := Option.ite_none_right_eq_some.1 step
      obtain rfl := Option.some.inj same
      exact Or.inl rfl
    | poll caller =>
      obtain ⟨call, -, step⟩ := Option.bind_eq_some_iff.1 step
      obtain ⟨after, -, rfl⟩ := Option.map_eq_some_iff.1 step
      exact Or.inl rfl

/-- Where the calls after a step come from. -/
theorem calls_cases (step : s.step changed action = some t) (found : t.calls caller = some call) :
    s.calls caller = some call ∨
      (s.calls caller = none ∧ call.stage = .looping (s.epochs call.execution).subscribe) ∨
      ∃ before, s.calls caller = some before ∧ s.pollCall changed before = some call := by
  cases action with
  | resumedAfter other i observed =>
    obtain ⟨free, same⟩ := Option.ite_none_right_eq_some.1 step
    obtain rfl := Option.some.inj same
    rcases Pool.of_set_eq_some found with ⟨rfl, rfl⟩ | ⟨-, before⟩
    · exact Or.inr (Or.inl ⟨free, rfl⟩)
    · exact Or.inl before
  | poll other =>
    obtain ⟨before, there, step⟩ := Option.bind_eq_some_iff.1 step
    obtain ⟨after, polled, rfl⟩ := Option.map_eq_some_iff.1 step
    rcases Pool.of_set_eq_some found with ⟨rfl, rfl⟩ | ⟨-, old⟩
    · exact Or.inr (Or.inr ⟨before, there, polled⟩)
    · exact Or.inl old
  | notify other =>
    obtain ⟨n, -, step⟩ := Option.bind_eq_some_iff.1 step
    cases n with
    | reading cores count =>
      cases cores <;> obtain rfl := Option.some.inj step <;> exact Or.inl found
    | sending current core cores count =>
      obtain rfl := Option.some.inj step
      exact Or.inl found
    | returned count => cases step
  | register i | finish i | requestStop i =>
    obtain rfl := Option.some.inj step
    exact Or.inl found
  | notifyResumed other cores =>
    obtain ⟨-, same⟩ := Option.ite_none_right_eq_some.1 step
    obtain rfl := Option.some.inj same
    exact Or.inl found

theorem version_le (step : s.step changed action = some t) (i : ExecutionId) :
    (s.epochs i).version ≤ (t.epochs i).version := by
  rcases (channels step i).1 with same | ⟨value, sent⟩
  · rw [same]
  · rw [sent]
    exact Nat.le_succ _

/-- What a call listens to is carried through a step. -/
theorem listens_of_step {stage : ResumeStage} {observed : Nat}
    (listens : stage.Listens (s.cancellation i) (s.epochs i) observed)
    (step : s.step changed action = some t) :
    stage.Listens (t.cancellation i) (t.epochs i) observed := by
  obtain ⟨epochs, cancels⟩ := channels step i
  have heard : stage.Listens (s.cancellation i) (t.epochs i) observed := by
    rcases epochs with same | ⟨value, sent⟩
    · rw [same]
      exact listens
    · rw [sent]
      exact listens.sendEpoch value
  rcases cancels with same | sent
  · rw [same]
    exact heard
  · rw [sent]
    exact heard.cancel

theorem Listening.step (listening : s.Listening) (documented : changed.Documented)
    (step : s.step changed action = some t) :
    t.Listening := by
  intro caller call found
  apply listens_of_step _ step
  rcases calls_cases step found with before | ⟨-, begun⟩ | ⟨before, there, polled⟩
  · exact listening caller call before
  · rw [begun]
    exact ⟨Waiter.Listens.subscribe, fun _ absurd => (by cases absurd),
      fun _ absurd => (by cases absurd)⟩
  · obtain ⟨stage, moved, rfl⟩ := Option.map_eq_some_iff.1 polled
    exact (listening caller before there).poll documented moved

theorem listening_of_reaches {ok : Resumes → ResumesAction → Prop}
    (documented : changed.Documented)
    (run : (resumes changed).Reaches ok (resumes changed).init s) : s.Listening := by
  refine run.invariant ?_ fun listening _ step => listening.step documented step
  intro caller call absurd
  cases absurd

/-- The epoch a call has returned was the newest at a moment since `s`. -/
def Returned (s t : Resumes) (call : ResumeCall) : Prop :=
  ∀ current, call.stage = .looping (.answered current) →
    ∃ version, (s.epochs call.execution).version ≤ version ∧
      version ≤ (t.epochs call.execution).version ∧ current = version % 2 ^ 64

/-- The versions only grow, and what is returned since `s` was sent since `s`. -/
theorem returned_of_reaches (reached : (resumes changed).Reaches Apart (resumes changed).init s)
    (fresh : s.calls caller = none) (run : (resumes changed).Reaches Apart s t) :
    (∀ i, (s.epochs i).version ≤ (t.epochs i).version) ∧
      ∀ call, t.calls caller = some call → Returned s t call := by
  induction run with
  | refl =>
    refine ⟨fun i => Nat.le_refl _, fun call found => ?_⟩
    rw [fresh] at found
    cases found
  | @tail t u action run apart step ih =>
    obtain ⟨grown, returned⟩ := ih
    have grows := version_le step
    refine ⟨fun i => Nat.le_trans (grown i) (grows i), fun call found current answered => ?_⟩
    rcases calls_cases step found with before | ⟨-, begun⟩ | ⟨before, there, polled⟩
    · obtain ⟨version, lower, upper, same⟩ := returned call before current answered
      exact ⟨version, lower, Nat.le_trans upper (grows _), same⟩
    · rw [begun] at answered
      cases answered
    · obtain ⟨stage, moved, rfl⟩ := Option.map_eq_some_iff.1 polled
      have counts := (counting_of_reaches (reached.trans run)).counts before.execution
      dsimp only at answered
      rw [answered] at moved
      have newest := ResumeStage.eq_of_poll_answered moved
      exact ⟨_, grown _, grows _, newest ▸ counts⟩

end Resumes

/-! ## Results -/

section Results

variable {s t : Resumes} {changed : Changed}

/-- The notifications of the execution that were completed between two states. -/
def Resumes.notified (s t : Resumes) (i : ExecutionId) : Nat :=
  (t.epochs i).version - (s.epochs i).version

/-- **No notification is missed.**  Where no notification of an execution begins between the
two sections of another: a call of `resumed_after` with the epoch of an earlier state sleeps
only while the execution is not cancelled and, up to a multiple of 2⁶⁴, no notification has
been completed since; it answers with an epoch only after one was, and with `Cancelled` only
after the execution was cancelled. -/
theorem resume_not_missed (documented : changed.Documented)
    (reached : (resumes changed).Reaches Resumes.Apart (resumes changed).init s) {caller : Nat}
    (fresh : s.calls caller = none) (run : (resumes changed).Reaches Resumes.Apart s t)
    {call : ResumeCall}
    (found : t.calls caller = some call)
    (observed : call.observed = (s.epochs call.execution).value) :
    (call.stage.result = none → t.pollCall changed call = none →
      (t.cancellation call.execution).value = false ∧ 2 ^ 64 ∣ s.notified t call.execution) ∧
    (∀ current, call.stage.result = some (.ok current) → 0 < s.notified t call.execution) ∧
    (call.stage.result = some (.error .cancelled) →
      (t.cancellation call.execution).value = true) := by
  have listens := Resumes.listening_of_reaches documented (reached.trans run) caller call found
  have before := (Resumes.counting_of_reaches reached).counts call.execution
  have after := (Resumes.counting_of_reaches (reached.trans run)).counts call.execution
  obtain ⟨grown, returned⟩ := Resumes.returned_of_reaches reached fresh run
  refine ⟨fun waiting stuck => ?_, fun current answered => ?_, fun cancelled => ?_⟩
  · obtain ⟨running, same⟩ := listens.asleep documented waiting (Option.map_eq_none_iff.1 stuck)
    refine ⟨running, (Nat.modEq_iff_dvd' (grown _)).1 ?_⟩
    unfold Nat.ModEq
    rw [← before, ← after, same, observed]
  · have stage := ResumeStage.stage_of_result_ok answered
    obtain ⟨version, lower, upper, same⟩ := returned call found current stage
    have differs : current ≠ call.observed := by
      rw [stage] at listens
      exact listens.2.2 current rfl
    have moved : version ≠ (s.epochs call.execution).version := by
      rintro rfl
      exact differs (by rw [same, observed, before])
    unfold Resumes.notified
    omega
  · rw [ResumeStage.stage_of_result_error cancelled] at listens
    exact listens

/-- A call that has observed epoch 0 falls asleep, is notified, and looks again. -/
def resumedRun : List ResumesAction :=
  List.flatten [[.register 0, .resumedAfter 0 0 0], List.replicate 4 (.poll 0),
    [.notifyResumed 0 [0]], List.replicate 3 (.notify 0), List.replicate 4 (.poll 0)]

theorem resume_not_missed_once :
    ∃ t call, (resumes .comparing).exec (resumes .comparing).init resumedRun = some t ∧
      t.calls 0 = some call ∧
      call.stage.result = some (.ok 1) ∧
      0 < (resumes .comparing).init.notified t call.execution := by
  have ends :
      ((resumes .comparing).exec (resumes .comparing).init resumedRun).map (fun t => t.calls 0) =
      some (some ⟨0, 0, .looping (.answered 1)⟩) := by decide +kernel
  obtain ⟨t, run, found⟩ := Option.map_eq_some_iff.1 ends
  have meets :
      (resumes .comparing).Meets Resumes.Apart (resumes .comparing).init resumedRun := by
    decide +kernel
  exact ⟨t, _, run, found, rfl,
    (resume_not_missed Changed.documented_comparing .refl rfl (.of_exec run meets) found
      rfl).2.1 1 rfl⟩

/-- Call 0 of `notify_resumed` has read epoch 0 when call 1 sends 1.  Then call 2 sends 2, and call
0 sends 1. -/
def crossedNotifications : List ResumesAction :=
  List.flatten [[.register 0, .notifyResumed 0 [0], .notify 0, .notifyResumed 1 [0], .notify 1,
      .notify 1], [.resumedAfter 0 0 1, .notifyResumed 2 [0], .notify 2, .notify 2, .notify 0],
    List.replicate 8 (.poll 0)]

/-- Notifications that cross are missed: epoch 1 is observed, two more notifications are completed,
and the call sleeps at epoch 1. -/
example : ((resumes .comparing).exec (resumes .comparing).init crossedNotifications).map
    (fun s => (s.calls 0, s.epochs 0, (s.calls 0).bind (s.pollCall .comparing))) =
      some (some ⟨0, 1, .asleep (.asleep 3) (.asleep 0)⟩, ⟨1, 3⟩, none) := by decide +kernel

end Results

end BusyBeaver
