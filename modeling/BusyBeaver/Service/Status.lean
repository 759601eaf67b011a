import BusyBeaver.Service.Hook
import BusyBeaver.Service.Stopped

/-!
# The order of the published statuses

`run_service` publishes its statuses in the order of its generations, and in each of them
`Starting` before `Restarting` or `Stopping` before `Stopped`.  A context publishes `Ready`
after a check that is not repeated, and that compares the generation only.
`published_in_order_iff` says that the order is lost exactly by the first `Ready` whose
generation the status in place does not serve.
-/

namespace BusyBeaver

open Transition

variable {T E : Type}

/-! ## The statement -/

namespace ServiceStatus

def generation : ServiceStatus → Nat
  | .starting generation | .ready generation _ | .stopping generation
  | .restarting generation _ | .stopped generation _ => generation

/-- The generation is declared over. -/
def isOver : ServiceStatus → Bool
  | .stopping _ | .restarting _ _ | .stopped _ _ => true
  | _ => false

def isReady : ServiceStatus → Bool
  | .ready _ _ => true
  | _ => false

/-- A context of the generation may publish. -/
def serves (status : ServiceStatus) (generation : Nat) : Bool :=
  status.generation == generation && !status.isOver

/-- `later` may be published at some time after `earlier`. -/
def Precedes (earlier later : ServiceStatus) : Prop :=
  earlier.isStopped = false ∧ earlier.generation ≤ later.generation ∧
    (earlier.isOver = true → later.isReady = true → earlier.generation ≠ later.generation)

instance : DecidableRel Precedes := fun _ _ => inferInstanceAs (Decidable (_ ∧ _ ∧ _))

end ServiceStatus

namespace ServiceRun

/-- What a restart publishes before its sleep, or instead of it. -/
def restartStatus (spec : ServiceSpec) (run : ServiceRun T E) (generation : Nat)
    (cause : RestartCause E) (now : Instant) : Option ServiceStatus :=
  match admitRestart spec run now with
  | .backoff _ restartCount => some (.restarting generation restartCount)
  | _ => refusedStatus generation cause

def panickedStatus (spec : ServiceSpec) (run : ServiceRun T E) (generation : Nat)
    (cause : RestartCause E) (message : String) (now : Instant) : Option ServiceStatus :=
  if isTimerUnavailableMessage message ∨ spec.restartTrigger.panic = false then
    some (.stopped generation .notRequired)
  else run.restartStatus spec generation cause now

def bodyStatus (spec : ServiceSpec) (run : ServiceRun T E) (generation : Nat) (now : Instant)
    (result : JobResult T E) : Option ServiceStatus :=
  if run.isCancelled then some (.stopped generation .notRequired)
  else
    match result with
    | .returned _ => some (.stopped generation .notRequired)
    | .failed error =>
      if spec.restartTrigger.failure then run.restartStatus spec generation (.failure error) now
      else some (.stopped generation .notRequired)
    | .panicked message => run.panickedStatus spec generation .panic message now
    | .lost => none

/-- What `run_service` publishes in a step, by the phase it is in. -/
def phaseStatus (spec : ServiceSpec) (run : ServiceRun T E) (phase : Phase) :
    ServiceAction T E → Option ServiceStatus
  | .enter =>
    match phase with
    | .entering (.generation generation _) => some (.starting generation)
    | _ => none
  | .factory (some message) now =>
    match phase with
    | .begun (.generation generation _) =>
      run.panickedStatus spec generation .factory message now
    | _ => none
  | .cancelled =>
    match phase with
    | .driving (.generation generation _) _ => some (.stopping generation)
    | _ => none
  | .decide now =>
    match phase, run.joined with
    | .decided (.generation generation true), some _ => some (.stopped generation run.hook)
    | .decided (.generation generation false), some result =>
      run.bodyStatus spec generation now result
    | _, _ => none
  | .wake true =>
    match phase, run.cause with
    | .sleeping (.generation generation _), some cause => refusedStatus generation cause
    | _, _ => none
  | _ => none

/-- What a step publishes. -/
def publishes (spec : ServiceSpec) (run : ServiceRun T E) (action : ServiceAction T E) :
    Option ServiceStatus :=
  match action, run.execution.body with
  | .report status, _ => some status
  | action, .running phase => run.phaseStatus spec phase action
  | _, _ => none

/-- A context publishes, and the status in place does not serve its generation. -/
def Late (run : ServiceRun T E) : ServiceAction T E → Prop
  | .report (.ready generation _) => run.status.serves generation = false
  | _ => False

end ServiceRun

/-- The statuses of a run, with the one the channel was made with. -/
def published (spec : ServiceSpec) (maximumChildren : Nat) (actions : List (ServiceAction T E)) :
    List ServiceStatus :=
  (service T E spec maximumChildren).init.status ::
    (service T E spec maximumChildren).outputs (ServiceRun.publishes spec)
      (service T E spec maximumChildren).init actions

/-! ## The status in place -/

namespace ServiceRun

variable {spec : ServiceSpec} {run after : ServiceRun T E} {phase : Phase} {generation : Nat}
  {choice : Choice T E} {cause : RestartCause E} {now : Instant} {action : ServiceAction T E}
  {published : Option ServiceStatus}

theorem status_of_proceed (step : run.proceed choice = some after) :
    after.status = run.status := by
  obtain ⟨execution, -, rfl⟩ := Option.map_eq_some_iff.1 step
  rfl

theorem status_of_finish {exit : Returned T E} (step : run.finish published exit = some after) :
    after.status = published.getD run.status :=
  status_of_proceed step

theorem status_of_restart (step : run.restart spec generation cause now = some after) :
    after.status = (run.restartStatus spec generation cause now).getD run.status := by
  unfold restart at step
  unfold restartStatus
  cases admitted : run.admitRestart spec now with
  | rejected =>
    rw [admitted] at step
    exact status_of_finish step
  | counterOverflow =>
    rw [admitted] at step
    exact status_of_finish step
  | backoff restartTimes restartCount =>
    rw [admitted] at step
    exact status_of_proceed step

theorem status_of_panicked {source : PanicSource} {message : String}
    (step : run.panicked spec generation source cause message now = some after) :
    after.status = (run.panickedStatus spec generation cause message now).getD run.status := by
  unfold panicked at step
  unfold panickedStatus
  split at step
  · rename_i refused
    rw [if_pos refused]
    exact status_of_finish step
  · rename_i restarts
    rw [if_neg restarts]
    exact status_of_restart step

theorem status_of_afterBody {result : JobResult T E}
    (step : run.afterBody spec generation now result = some after) :
    after.status = (run.bodyStatus spec generation now result).getD run.status := by
  unfold afterBody at step
  unfold bodyStatus
  split at step
  · rename_i cancelled
    rw [if_pos cancelled]
    exact status_of_finish step
  · rename_i goesOn
    rw [if_neg goesOn]
    cases result with
    | returned value => exact status_of_finish step
    | failed error =>
      simp only at step ⊢
      split at step
      · rename_i restarts
        rw [if_pos restarts]
        exact status_of_restart step
      · rename_i refused
        rw [if_neg refused]
        exact status_of_finish step
    | panicked message => exact status_of_panicked step
    | lost => exact status_of_finish step

theorem Goes.status_eq {written : ServiceRun T E} {next : Phase}
    (goes : Goes written choice next after) : after.status = written.status :=
  status_of_proceed goes.proceeds

theorem BodyMoved.status_eq (moved : BodyMoved spec run after phase action) :
    after.status = (run.phaseStatus spec phase action).getD run.status := by
  cases moved with
  | enter goes | bodyJoined goes | cancelled goes | callHook _ goes | hookPanics goes
  | awaitHook goes | join goes => exact goes.status_eq.trans rfl
  | launch goes => exact goes.status_eq
  | unwind unwinds => exact status_of_panicked unwinds
  | stopped known returns | interrupted known returns =>
    simp only [phaseStatus, known]
    exact status_of_finish returns
  | decide known decides =>
    simp only [phaseStatus, known]
    exact status_of_afterBody decides
  | wake _ _ goes => exact goes.status_eq
  | overflow _ _ returns => exact status_of_finish returns

theorem BodyMoved.not_late (moved : BodyMoved spec run after phase action) :
    ¬ run.Late action := by
  cases moved <;> exact id

/-- What is neither a report nor a move of `run_service` publishes nothing. -/
theorem publishes_eq_none (silent : ∀ phase, run.phaseStatus spec phase action = none)
    (unreported : ∀ status, action ≠ .report status) : run.publishes spec action = none := by
  unfold publishes
  split
  · exact absurd rfl (unreported _)
  · exact silent _
  · rfl

theorem BodyMoved.publishes_eq (here : run.execution.body = .running phase)
    (moved : BodyMoved spec run after phase action) :
    run.publishes spec action = run.phaseStatus spec phase action := by
  cases moved <;> simp only [publishes, here]

/-- A step leaves what it publishes, and a step that publishes nothing what it finds. -/
theorem status_of_step (step : run.step spec action = some after) :
    after.status = (run.publishes spec action).getD run.status := by
  cases Moved.of_step step with
  | check | execution => rw [publishes_eq_none (fun _ => rfl) (by simp), Option.getD_none]
  | report => rfl
  | body here moved =>
    rw [moved.publishes_eq here]
    exact moved.status_eq

end ServiceRun

/-! ## The order -/

namespace ServiceStatus

variable {status next : ServiceStatus} {log : List ServiceStatus}

/-- Where a status stands in the life of its service. -/
def rank : ServiceStatus → Nat
  | .starting generation => 4 * generation
  | .ready generation _ => 4 * generation + 1
  | .stopping generation | .restarting generation _ => 4 * generation + 2
  | .stopped generation _ => 4 * generation + 3

theorem generation_le_of_rank (le : status.rank ≤ next.rank) :
    status.generation ≤ next.generation := by
  cases status <;> cases next <;> simp only [rank] at le <;> simp only [generation] <;> omega

theorem le_rank_of_isOver (isOver : status.isOver = true) :
    4 * status.generation + 2 ≤ status.rank := by
  cases status with
  | starting generation => cases isOver
  | ready generation health => cases isOver
  | stopping generation => exact Nat.le_refl _
  | restarting generation restart => exact Nat.le_refl _
  | stopped generation hook => exact Nat.le_succ _

theorem Precedes.of_rank (goesOn : status.isStopped = false) (le : status.rank ≤ next.rank) :
    status.Precedes next := by
  refine ⟨goesOn, generation_le_of_rank le, ?_⟩
  intro isOver isReady same
  cases next with
  | ready generation health =>
    obtain rfl : status.generation = generation := same
    have above := le_rank_of_isOver isOver
    have below : status.rank ≤ 4 * status.generation + 1 := le
    omega
  | _ => cases isReady

/-- A status that serves the generation ranks below its `Ready`. -/
theorem rank_le_of_serves {generation : Nat} (serves : status.serves generation = true)
    (health : HealthStatus) :
    status.isStopped = false ∧ status.rank ≤ (ready generation health).rank := by
  obtain ⟨same, goesOn⟩ := Bool.and_eq_true_iff.1 serves
  obtain rfl := eq_of_beq same
  cases status with
  | starting generation => exact ⟨rfl, Nat.le_succ _⟩
  | ready generation health => exact ⟨rfl, Nat.le_refl _⟩
  | _ => cases goesOn

/-- A status of the generation that does not serve it, or one of a later generation, is not
followed by its `Ready`. -/
theorem not_precedes_of_late {generation : Nat} {health : HealthStatus}
    (unserved : status.serves generation = false) (reached : generation ≤ status.generation) :
    ¬ status.Precedes (.ready generation health) := by
  rintro ⟨-, le, apart⟩
  obtain rfl : status.generation = generation := Nat.le_antisymm le reached
  have isOver : status.isOver = true := by simpa [serves] using unserved
  exact apart isOver rfl rfl

/-- The log ends with the status in place, and every status in it came in order. -/
structure InOrder (log : List ServiceStatus) (status : ServiceStatus) : Prop where
  member : status ∈ log
  pairwise : log.Pairwise Precedes
  below : ∀ earlier ∈ log, earlier.rank ≤ status.rank
  goesOn : status.isStopped = false → ∀ earlier ∈ log, earlier.isStopped = false

theorem InOrder.start (status : ServiceStatus) : InOrder [status] status where
  member := List.mem_singleton_self status
  pairwise := List.pairwise_singleton _ _
  below := fun _ member => (List.mem_singleton.1 member) ▸ Nat.le_refl _
  goesOn := fun goesOn _ member => (List.mem_singleton.1 member) ▸ goesOn

theorem InOrder.snoc (inOrder : InOrder log status) (goesOn : status.isStopped = false)
    (le : status.rank ≤ next.rank) : InOrder (log ++ [next]) next where
  member := List.mem_append_right _ (List.mem_singleton_self next)
  pairwise := by
    refine List.pairwise_append.2 ⟨inOrder.pairwise, List.pairwise_singleton _ _, ?_⟩
    intro earlier member later last
    obtain rfl := List.mem_singleton.1 last
    exact .of_rank (inOrder.goesOn goesOn earlier member) ((inOrder.below earlier member).trans le)
  below := by
    intro earlier member
    rcases List.mem_append.1 member with before | last
    · exact (inOrder.below earlier before).trans le
    · exact (List.mem_singleton.1 last) ▸ Nat.le_refl _
  goesOn := by
    intro nextGoesOn earlier member
    rcases List.mem_append.1 member with before | last
    · exact inOrder.goesOn goesOn earlier before
    · exact (List.mem_singleton.1 last) ▸ nextGoesOn

end ServiceStatus

/-! ## What the body finds in place -/

namespace Iteration

/-- The generation of a service, zero for the other kinds. -/
def served : Iteration → Nat
  | .generation number _ => number
  | _ => 0

/-- The highest rank of a status that its body leaves. -/
def leaves : Iteration → Nat
  | .generation number stops => 4 * number + if stops then 2 else 1
  | _ => 1

theorem le_leaves (turn : Iteration) : 4 * turn.served + 1 ≤ turn.leaves := by
  cases turn with
  | generation number stops =>
    cases stops with
    | false => exact Nat.le_refl _
    | true => exact Nat.le_succ _
  | _ => exact Nat.le_refl _

end Iteration

namespace Phase

/-- The rank that the status in place does not exceed. -/
def highest : Phase → Nat
  | .spawned => 4
  | .entering turn => 4 * turn.served
  | .begun turn => 4 * turn.served + 1
  | .driving turn _ => 4 * turn.served + 1
  | .stopping turn _ | .hooking turn _ _ | .joining turn _ | .leaving turn | .closing turn _
  | .decided turn => turn.leaves
  | .sleeping turn => 4 * turn.served + 2
  | _ => 0

/-- The last generation whose context may have been handed out. -/
def handed : Phase → Nat
  | .entering turn => turn.served - 1
  | .begun turn | .driving turn _ | .stopping turn _ | .hooking turn _ _ | .joining turn _
  | .leaving turn | .closing turn _ | .decided turn | .sleeping turn => turn.served
  | _ => 0

/-- A generation that was handed out may be ready. -/
theorem ready_le_highest {phase : Phase} {generation : Nat} (positive : 0 < generation)
    (handedOut : generation ≤ phase.handed) : 4 * generation + 1 ≤ phase.highest := by
  cases phase with
  | spawned | user | delaying | reaping => exact absurd handedOut (Nat.not_le.2 positive)
  | entering turn | begun turn | driving turn | sleeping turn =>
    simp only [handed] at handedOut
    simp only [highest]
    omega
  | stopping turn | hooking turn | joining turn | leaving turn | closing turn | decided turn =>
    have below : generation ≤ turn.served := handedOut
    exact (by omega : 4 * generation + 1 ≤ 4 * turn.served + 1).trans turn.le_leaves

end Phase

namespace Supervised

/-- A runner that is still early was, and has not spawned its body. -/
theorem RunnerMoved.early {state after : Supervised T E} (moved : RunnerMoved state after)
    (early : after.runner.early = true) :
    state.runner.early = true ∧ after.body = state.body := by
  cases moved with
  | claim here => exact ⟨by rw [here]; rfl, rfl⟩
  | refuse here => exact ⟨by rw [here]; rfl, rfl⟩
  | _ => cases early

end Supervised

namespace ServiceRun

variable {spec : ServiceSpec} {run after : ServiceRun T E} {phase phase' : Phase}
  {generation : Nat} {choice : Choice T E} {cause : RestartCause E} {now : Instant}
  {action : ServiceAction T E} {published : Option ServiceStatus}

/-- The status in place, and the contexts, of a service whose body runs. -/
structure Stands (run : ServiceRun T E) (highest handed : Nat) : Prop where
  goesOn : run.status.isStopped = false
  rank : run.status.rank ≤ highest
  contexts : run.contexts ≤ handed

theorem Stands.mono {highest highest' handed handed' : Nat} (stands : run.Stands highest handed)
    (rank : highest ≤ highest') (contexts : handed ≤ handed') :
    run.Stands highest' handed' :=
  ⟨stands.goesOn, stands.rank.trans rank, stands.contexts.trans contexts⟩

/-- A step of the body that publishes in order. -/
structure Advances (run after : ServiceRun T E) (published : Option ServiceStatus) : Prop where
  kind : after.execution.kind = run.execution.kind
  reports : after.reports = run.reports
  order : ∀ status, published = some status →
    run.status.isStopped = false ∧ run.status.rank ≤ status.rank ∧
      after.contexts ≤ status.generation
  silent : published = none → after.contexts = run.contexts
  grows : run.contexts ≤ after.contexts
  running : ∀ phase, after.execution.body = .running phase →
    after.Stands phase.highest phase.handed
  absent : after.execution.body ≠ .absent

/-- The body goes on and publishes nothing. -/
theorem Advances.goes (kind : after.execution.kind = run.execution.kind)
    (reports : after.reports = run.reports) (status : after.status = run.status)
    (contexts : after.contexts = run.contexts) (body : after.execution.body = .running phase')
    (stands : run.Stands phase'.highest phase'.handed) : run.Advances after none where
  kind := kind
  reports := reports
  order := by
    intro published absurd
    cases absurd
  silent := fun _ => contexts
  grows := contexts.ge
  running := by
    intro other here
    obtain rfl := BodyTask.running.inj (body.symm.trans here)
    exact ⟨status ▸ stands.goesOn, status ▸ stands.rank, contexts ▸ stands.contexts⟩
  absent := by
    rw [body]
    rintro ⟨⟩

/-- The body publishes and goes on. -/
theorem Advances.publishes {status : ServiceStatus} {highest handed : Nat}
    (kind : after.execution.kind = run.execution.kind) (reports : after.reports = run.reports)
    (stands : run.Stands highest handed) (rank : highest ≤ status.rank)
    (contexts : run.contexts ≤ after.contexts)
    (handedOut : after.contexts ≤ status.generation)
    (body : after.execution.body = .running phase')
    (next : after.Stands phase'.highest phase'.handed) :
    run.Advances after (some status) where
  kind := kind
  reports := reports
  order := by
    intro other same
    obtain rfl := Option.some.inj same
    exact ⟨stands.goesOn, stands.rank.trans rank, handedOut⟩
  silent := by
    intro absurd
    cases absurd
  grows := contexts
  running := by
    intro other here
    obtain rfl := BodyTask.running.inj (body.symm.trans here)
    exact next
  absent := by
    rw [body]
    rintro ⟨⟩

/-- The service returns. -/
theorem Advances.returns {exit : Returned T E} {stops : Bool}
    (step : run.finish published exit = some after) (here : run.execution.body = .running phase)
    (decides : phase = .begun (.generation generation stops) ∨
      phase = .decided (.generation generation stops) ∨
        phase = .sleeping (.generation generation stops))
    (stands : run.Stands phase.highest phase.handed)
    (final : ∀ status, published = some status → ∃ hook, status = .stopped generation hook) :
    run.Advances after published := by
  have highest : phase.highest ≤ 4 * generation + 2 := by
    rcases decides with rfl | rfl | rfl
    · exact Nat.le_succ _
    · cases stops with
      | false => exact Nat.le_succ _
      | true => exact Nat.le_refl _
    · exact Nat.le_refl _
  have handed : phase.handed = generation := by rcases decides with rfl | rfl | rfl <;> rfl
  rw [finish_eq step here decides]
  refine ⟨rfl, rfl, ?_, fun _ => rfl, Nat.le_refl _, ?_, ?_⟩
  · intro status same
    obtain ⟨hook, rfl⟩ := final status same
    exact ⟨stands.goesOn, (stands.rank.trans highest).trans (Nat.le_succ _),
      handed ▸ stands.contexts⟩
  · rintro other ⟨⟩
  · rintro ⟨⟩

theorem stopped_of_refusedStatus {status : ServiceStatus}
    (refused : refusedStatus generation cause = some status) :
    ∃ hook, status = .stopped generation hook := by
  cases cause with
  | factory => cases refused
  | failure error => exact ⟨_, (Option.some.inj refused).symm⟩
  | panic => exact ⟨_, (Option.some.inj refused).symm⟩

theorem Advances.of_restart {stops : Bool}
    (step : run.restart spec generation cause now = some after)
    (here : run.execution.body = .running phase)
    (decides : phase = .begun (.generation generation stops) ∨
      phase = .decided (.generation generation stops))
    (fresh : phase.highest = 4 * generation + 1)
    (stands : run.Stands phase.highest phase.handed) :
    run.Advances after (run.restartStatus spec generation cause now) := by
  have returns := decides.imp_right
    (Or.inl (b := phase = .sleeping (.generation generation stops)))
  have handed : phase.handed = generation := by rcases decides with rfl | rfl <;> rfl
  unfold restart at step
  unfold restartStatus
  cases admitted : run.admitRestart spec now with
  | rejected =>
    rw [admitted] at step
    exact .returns step here returns stands fun _ => stopped_of_refusedStatus
  | counterOverflow =>
    rw [admitted] at step
    exact .returns step here returns stands fun _ => stopped_of_refusedStatus
  | backoff restartTimes restartCount =>
    rw [admitted] at step
    rw [sleep_eq step here decides]
    have contexts : run.contexts ≤ generation := handed ▸ stands.contexts
    exact .publishes rfl rfl stands (fresh ▸ Nat.le_succ _) (Nat.le_refl _) contexts rfl
      ⟨rfl, Nat.le_refl _, contexts⟩

theorem Advances.of_panicked {stops : Bool} {source : PanicSource} {message : String}
    (step : run.panicked spec generation source cause message now = some after)
    (here : run.execution.body = .running phase)
    (decides : phase = .begun (.generation generation stops) ∨
      phase = .decided (.generation generation stops))
    (fresh : phase.highest = 4 * generation + 1)
    (stands : run.Stands phase.highest phase.handed) :
    run.Advances after (run.panickedStatus spec generation cause message now) := by
  unfold panicked at step
  unfold panickedStatus
  split at step
  · rename_i refused
    rw [if_pos refused]
    exact .returns step here (decides.imp_right Or.inl) stands
      fun _ same => ⟨_, (Option.some.inj same).symm⟩
  · rename_i restarts
    rw [if_neg restarts]
    exact .of_restart step here decides fresh stands

theorem Advances.of_afterBody {result : JobResult T E}
    (step : run.afterBody spec generation now result = some after)
    (here : run.execution.body = .running (.decided (.generation generation false)))
    (stands : run.Stands (4 * generation + 1) generation) :
    run.Advances after (run.bodyStatus spec generation now result) := by
  have returns {exit : Returned T E} {published : Option ServiceStatus}
      (step : run.finish published exit = some after)
      (final : ∀ status, published = some status → ∃ hook, status = .stopped generation hook) :
      run.Advances after published :=
    .returns step here (Or.inr (Or.inl rfl)) stands final
  have stops : ∀ status, some (ServiceStatus.stopped generation .notRequired) = some status →
      ∃ hook, status = .stopped generation hook :=
    fun _ same => ⟨_, (Option.some.inj same).symm⟩
  unfold afterBody at step
  unfold bodyStatus
  split at step
  · rename_i cancelled
    rw [if_pos cancelled]
    exact returns step stops
  · rename_i goesOn
    rw [if_neg goesOn]
    cases result with
    | returned value => exact returns step stops
    | failed error =>
      simp only at step ⊢
      split at step
      · rename_i restarts
        rw [if_pos restarts]
        exact .of_restart step here (Or.inr rfl) rfl stands
      · rename_i refused
        rw [if_neg refused]
        exact returns step stops
    | panicked message => exact .of_panicked step here (Or.inr rfl) rfl stands
    | lost => exact returns step fun _ absurd => by cases absurd

/-- Whatever `run_service` does next. -/
theorem Advances.of_moved (here : run.execution.body = .running phase)
    (stands : run.Stands phase.highest phase.handed)
    (moved : BodyMoved spec run after phase action) :
    run.Advances after (run.phaseStatus spec phase action) := by
  cases moved with
  | @enter generation stops goes =>
    obtain ⟨execution, rfl⟩ := goes.exists_eq
    have contexts : run.contexts ≤ generation := stands.contexts.trans (Nat.sub_le _ _)
    exact .publishes goes.kind rfl stands (Nat.le_refl _) contexts (Nat.le_refl _) goes.body
      ⟨rfl, Nat.le_succ _, Nat.le_refl _⟩
  | cancelled goes =>
    obtain ⟨execution, rfl⟩ := goes.exists_eq
    exact .publishes goes.kind rfl stands (Nat.le_succ _) (Nat.le_refl _) stands.contexts
      goes.body ⟨rfl, Nat.le_refl _, stands.contexts⟩
  | launch goes | hookPanics goes | awaitHook goes | join goes =>
    obtain ⟨execution, rfl⟩ := goes.exists_eq
    exact .goes goes.kind rfl rfl rfl goes.body stands
  | callHook hooks goes =>
    obtain ⟨execution, rfl⟩ := goes.exists_eq
    rcases hooks with rfl | ⟨rfl, -⟩
    · exact .goes goes.kind rfl rfl rfl goes.body stands
    · exact .goes goes.kind rfl rfl rfl goes.body stands
  | @bodyJoined turn _ _ goes =>
    obtain ⟨execution, rfl⟩ := goes.exists_eq
    exact .goes goes.kind rfl rfl rfl goes.body (stands.mono turn.le_leaves (Nat.le_refl _))
  | unwind unwinds => exact .of_panicked unwinds here (Or.inl rfl) rfl stands
  | stopped known returns =>
    simp only [phaseStatus, known]
    exact .returns returns here (Or.inr (Or.inl rfl)) stands
      fun _ same => ⟨_, (Option.some.inj same).symm⟩
  | decide known decides =>
    simp only [phaseStatus, known]
    exact .of_afterBody decides here stands
  | interrupted known returns =>
    simp only [phaseStatus, known]
    exact .returns returns here (Or.inr (Or.inr rfl)) stands fun _ => stopped_of_refusedStatus
  | wake _ following goes =>
    obtain ⟨execution, rfl⟩ := goes.exists_eq
    obtain ⟨number, counted, rfl⟩ := Option.map_eq_some_iff.1 following
    obtain ⟨-, rfl⟩ := Checked.add_eq_some.1 counted
    refine .goes goes.kind rfl rfl rfl goes.body (stands.mono ?_ (Nat.le_refl _))
    simp only [Phase.highest, Iteration.served]
    omega
  | overflow _ _ returns =>
    exact .returns returns here (Or.inr (Or.inr rfl)) stands fun _ absurd => by cases absurd

/-- What the body of a service does by itself. -/
theorem Advances.of_foreign {hook : Bool} {execution : Supervised T E}
    (kind : run.execution.kind = .service hook) (here : run.execution.body = .running phase)
    (stands : run.Stands phase.highest phase.handed)
    (foreign : run.isForeign (.body .proceed) = true)
    (step : run.execution.step (.body .proceed) = some execution) :
    run.Advances { run with execution := execution } none := by
  obtain ⟨next, moved, body, sameKind, -⟩ := foreign_of_step kind here foreign step
  cases moved with
  | start | leave | closed | await => exact .goes sameKind rfl rfl rfl body stands

/-! ## The invariant -/

variable {log : List ServiceStatus}

/-- The log is in order, and what is published next by the body or by a context that is not
late comes after it. -/
structure StatusInv (log : List ServiceStatus) (run : ServiceRun T E) : Prop where
  kind : ∃ hook, run.execution.kind = .service hook
  unborn : run.execution.runner.early = true → run.execution.body = .absent
  order : ServiceStatus.InOrder log run.status
  contexts : run.contexts ≤ run.status.generation
  reports : ∀ status ∈ run.reports, ∃ generation health,
    status = .ready generation health ∧ 0 < generation ∧ generation ≤ run.contexts
  absent : run.execution.body = .absent → run.Stands 4 0
  running : ∀ phase, run.execution.body = .running phase →
    run.Stands phase.highest phase.handed

namespace StatusInv

theorem new (spec : ServiceSpec) (maximumChildren : Nat) :
    (ServiceRun.new spec maximumChildren : ServiceRun T E).StatusInv [.starting 1] where
  kind := ⟨_, rfl⟩
  unborn := fun _ => rfl
  order := .start _
  contexts := Nat.zero_le _
  reports := by
    intro status absurd
    cases absurd
  absent := fun _ => ⟨rfl, Nat.le_refl _, Nat.le_refl _⟩
  running := by
    intro phase absurd
    cases absurd

/-- A step of the body. -/
theorem advances (inv : run.StatusInv log) (here : run.execution.body = .running phase)
    (proceeds : run.Proceeds after) (written : after.status = published.getD run.status)
    (advances : run.Advances after published) : after.StatusInv (log ++ published.toList) where
  kind := advances.kind ▸ inv.kind
  unborn := by
    intro early
    obtain ⟨choice, moves⟩ := proceeds
    have moved := Supervised.BodyMoved.of_bodyStep moves
    rw [inv.unborn (moved.runner ▸ early)] at here
    cases here
  order := by
    rw [written]
    cases published with
    | none =>
      rw [Option.toList_none, List.append_nil]
      exact inv.order
    | some status =>
      obtain ⟨goesOn, rank, -⟩ := advances.order status rfl
      exact inv.order.snoc goesOn rank
  contexts := by
    rw [written]
    cases published with
    | none =>
      rw [advances.silent rfl]
      exact inv.contexts
    | some status => exact (advances.order status rfl).2.2
  reports := by
    intro status member
    rw [advances.reports] at member
    obtain ⟨generation, health, rfl, positive, handedOut⟩ := inv.reports status member
    exact ⟨generation, health, rfl, positive, handedOut.trans advances.grows⟩
  absent := fun absurd => (advances.absent absurd).elim
  running := advances.running

/-- A step of the execution that is not one of the body. -/
theorem beside {execution : Supervised T E} (inv : run.StatusInv log)
    (kind : execution.kind = run.execution.kind)
    (early : execution.runner.early = true →
      run.execution.runner.early = true ∧ execution.body = run.execution.body)
    (body : execution.body = run.execution.body ∨
      run.execution.body = .absent ∧ execution.body = .running .spawned ∨
        ∃ joined, execution.body = .ended joined) :
    ({ run with execution := execution } : ServiceRun T E).StatusInv log where
  kind := by
    obtain ⟨hook, same⟩ := inv.kind
    exact ⟨hook, kind.trans same⟩
  unborn := fun isEarly => (early isEarly).2.trans (inv.unborn (early isEarly).1)
  order := inv.order
  contexts := inv.contexts
  reports := inv.reports
  absent := by
    intro absent
    rcases body with same | ⟨-, spawned⟩ | ⟨joined, ended⟩
    · have stands := inv.absent (same ▸ absent)
      exact ⟨stands.goesOn, stands.rank, stands.contexts⟩
    · rw [spawned] at absent
      cases absent
    · rw [ended] at absent
      cases absent
  running := by
    intro phase here
    rcases body with same | ⟨absent, spawned⟩ | ⟨joined, ended⟩
    · have stands := inv.running phase (same ▸ here)
      exact ⟨stands.goesOn, stands.rank, stands.contexts⟩
    · obtain rfl := BodyTask.running.inj (spawned.symm.trans here)
      have stands := inv.absent absent
      exact ⟨stands.goesOn, stands.rank, stands.contexts⟩
    · rw [ended] at here
      cases here

/-- What the execution does by itself. -/
theorem execution {move : SupervisedAction T E} {execution : Supervised T E}
    (inv : run.StatusInv log) (foreign : run.isForeign move = true)
    (step : run.execution.step move = some execution) :
    ({ run with execution := execution } : ServiceRun T E).StatusInv log := by
  have quietly (quiet : run.execution.Quiet execution)
      (beside : run.execution.Beside execution) :
      ({ run with execution := execution } : ServiceRun T E).StatusInv log :=
    inv.beside beside.kind (fun early => ⟨quiet.runner ▸ early, quiet.body⟩) (Or.inl quiet.body)
  cases move with
  | dropStart =>
    have beside := Supervised.Beside.of_step step (by simp) (by simp) (by simp) (by simp)
    refine inv.beside beside.kind ?_ (Or.inl beside.body)
    intro early
    simp only [Supervised.step] at step
    split at step
    · obtain rfl := Option.some.inj step
      cases early
    · cases step
  | unwind message =>
    simp only [Supervised.step] at step
    split at step
    · rename_i phase here
      obtain ⟨-, same⟩ := Option.ite_none_right_eq_some.1 step
      obtain rfl := Option.some.inj same
      refine inv.beside rfl ?_ (Or.inr (Or.inr ⟨_, rfl⟩))
      intro early
      rw [inv.unborn early] at here
      cases here
    · cases step
  | abortBody =>
    simp only [Supervised.step] at step
    split at step
    · rename_i phase here
      obtain ⟨-, same⟩ := Option.ite_none_right_eq_some.1 step
      obtain rfl := Option.some.inj same
      refine inv.beside rfl ?_ (Or.inr (Or.inr ⟨_, rfl⟩))
      intro early
      rw [inv.unborn early] at here
      cases here
    · cases step
  | runner choice =>
    cases choice with
    | proceed =>
      have moves : run.execution.runnerStep .proceed = some execution := step
      have moved := Supervised.RunnerMoved.of_runnerStep moves
      refine inv.beside moved.kept.2 moved.early ?_
      rcases moved.body with same | ⟨claimed, spawned⟩
      · exact Or.inl same
      · exact Or.inr (Or.inl ⟨inv.unborn (by rw [claimed]; rfl), spawned⟩)
    | _ => cases foreign
  | body choice =>
    cases choice with
    | proceed =>
      cases here : run.execution.body with
      | running phase =>
        obtain ⟨hook, kind⟩ := inv.kind
        have after := inv.advances here ⟨.proceed, step⟩ rfl
          (.of_foreign kind here (inv.running phase here) foreign step)
        rwa [Option.toList_none, List.append_nil] at after
      | _ =>
        simp only [Supervised.step, Supervised.bodyStep, here] at step
        cases step
    | _ => cases foreign
  | _ =>
    exact quietly (.of_step step (by simp) (by simp) (by simp) (by simp) (by simp))
      (.of_step step (by simp) (by simp) (by simp) (by simp))

theorem reported {health : HealthStatus} (inv : run.StatusInv log)
    (member : ServiceStatus.ready generation health ∈ run.reports) :
    0 < generation ∧ generation ≤ run.contexts := by
  obtain ⟨number, other, same, positive, handedOut⟩ := inv.reports _ member
  obtain ⟨rfl, -⟩ := ServiceStatus.ready.inj same
  exact ⟨positive, handedOut⟩

/-- A context checks. -/
theorem check (inv : run.StatusInv log) (checked : run.checks generation = true)
    (health : HealthStatus) :
    ({ run with
      reports := run.reports ++ [.ready generation health] } : ServiceRun T E).StatusInv log where
  kind := inv.kind
  unborn := inv.unborn
  order := inv.order
  contexts := inv.contexts
  reports := by
    intro status member
    rcases List.mem_append.1 member with before | last
    · exact inv.reports status before
    · obtain rfl := List.mem_singleton.1 last
      simp only [checks, Bool.and_eq_true, decide_eq_true_eq] at checked
      exact ⟨generation, health, rfl, checked.1.1⟩
  absent := by
    intro absent
    have stands := inv.absent absent
    exact ⟨stands.goesOn, stands.rank, stands.contexts⟩
  running := by
    intro phase here
    have stands := inv.running phase here
    exact ⟨stands.goesOn, stands.rank, stands.contexts⟩

/-- A context publishes, and its generation is served. -/
theorem report {health : HealthStatus} (inv : run.StatusInv log)
    (served : run.status.serves generation = true)
    (member : ServiceStatus.ready generation health ∈ run.reports) :
    ({ run with
      status := .ready generation health
      reports := run.reports.erase (.ready generation health) } : ServiceRun T E).StatusInv
        (log ++ [.ready generation health]) := by
  obtain ⟨goesOn, rank⟩ := ServiceStatus.rank_le_of_serves served health
  obtain ⟨positive, handedOut⟩ := inv.reported member
  have current : run.status.generation = generation :=
    eq_of_beq (Bool.and_eq_true_iff.1 served).1
  refine ⟨inv.kind, inv.unborn, inv.order.snoc goesOn rank, ?_, ?_, ?_, ?_⟩
  · exact inv.contexts.trans current.le
  · exact fun status rest => inv.reports status (List.mem_of_mem_erase rest)
  · intro absent
    have none_handed : run.contexts ≤ 0 := (inv.absent absent).contexts
    omega
  · intro phase here
    have stands := inv.running phase here
    exact ⟨rfl, Phase.ready_le_highest positive (handedOut.trans stands.contexts),
      stands.contexts⟩

/-- **Step lemma.** -/
theorem step (inv : run.StatusInv log) (onTime : ¬ run.Late action)
    (step : run.step spec action = some after) :
    after.StatusInv (log ++ (run.publishes spec action).toList) := by
  cases Moved.of_step step with
  | @check generation health checked =>
    rw [publishes_eq_none (fun _ => rfl) (by simp), Option.toList_none, List.append_nil]
    exact inv.check checked health
  | @report status member =>
    obtain ⟨generation, health, rfl, -⟩ := inv.reports status member
    exact inv.report (Bool.not_eq_false _ ▸ onTime) member
  | execution foreign moves =>
    rw [publishes_eq_none (fun _ => rfl) (by simp), Option.toList_none, List.append_nil]
    exact inv.execution foreign moves
  | @body _ phase _ here moved =>
    rw [moved.publishes_eq here]
    exact inv.advances here moved.proceeds moved.status_eq
      (.of_moved here (inv.running phase here) moved)

/-- A context that is late breaks the order. -/
theorem late (inv : run.StatusInv log) (late : run.Late action)
    (step : run.step spec action = some after) :
    ¬ (log ++ (run.publishes spec action).toList).Pairwise ServiceStatus.Precedes := by
  cases Moved.of_step step with
  | @report status member =>
    obtain ⟨generation, health, rfl, positive, handedOut⟩ := inv.reports status member
    intro ordered
    have precedes := (List.pairwise_append.1 ordered).2.2 run.status inv.order.member
      (.ready generation health) (List.mem_singleton_self _)
    exact ServiceStatus.not_precedes_of_late late (handedOut.trans inv.contexts) precedes
  | check | execution => exact late.elim
  | body _ moved => exact absurd late moved.not_late

end StatusInv

end ServiceRun

/-! ## The result -/

open ServiceRun

section Service

variable {spec : ServiceSpec} {maximumChildren : Nat} {run : ServiceRun T E}
  {actions : List (ServiceAction T E)} {action : ServiceAction T E}

theorem published_snoc
    (ran : (service T E spec maximumChildren).exec (service T E spec maximumChildren).init actions =
      some run) :
    published spec maximumChildren (actions ++ [action]) =
      published spec maximumChildren actions ++ (run.publishes spec action).toList := by
  rw [published, published, System.outputs_snoc ran, List.cons_append]

/-- **Run lemma.** -/
theorem statusInv_of_run
    (ran : (service T E spec maximumChildren).exec (service T E spec maximumChildren).init actions =
      some run) :
    (¬ (service T E spec maximumChildren).Happened Late (service T E spec maximumChildren).init
        actions ∧ run.StatusInv (published spec maximumChildren actions)) ∨
      (service T E spec maximumChildren).Happened Late (service T E spec maximumChildren).init
        actions ∧ ¬ (published spec maximumChildren actions).Pairwise ServiceStatus.Precedes := by
  refine System.exec_invariant (I := fun actions run =>
    (¬ (service T E spec maximumChildren).Happened Late (service T E spec maximumChildren).init
        actions ∧ run.StatusInv (published spec maximumChildren actions)) ∨
      (service T E spec maximumChildren).Happened Late (service T E spec maximumChildren).init
        actions ∧ ¬ (published spec maximumChildren actions).Pairwise ServiceStatus.Precedes)
    ?_ ?_ ran
  · exact Or.inl ⟨System.not_happened_nil, .new spec maximumChildren⟩
  · intro before x y action reached ih taken
    have step : x.step spec action = some y := taken
    rw [System.happened_snoc reached, published_snoc reached]
    rcases ih with ⟨onTime, inv⟩ | ⟨late, disordered⟩
    · by_cases late : x.Late action
      · exact Or.inr ⟨Or.inr late, inv.late late step⟩
      · exact Or.inl ⟨not_or.2 ⟨onTime, late⟩, inv.step late step⟩
    · exact Or.inr ⟨Or.inl late, fun ordered =>
        disordered (List.pairwise_append.1 ordered).1⟩

/-- **Main result.**  The statuses of a run come in order if and only if no context publishes
for a generation that the status in place does not serve. -/
theorem published_in_order_iff
    (ran : (service T E spec maximumChildren).exec (service T E spec maximumChildren).init actions =
      some run) :
    (published spec maximumChildren actions).Pairwise ServiceStatus.Precedes ↔
      ¬ (service T E spec maximumChildren).Happened Late (service T E spec maximumChildren).init
        actions := by
  rcases statusInv_of_run ran with ⟨onTime, inv⟩ | ⟨late, disordered⟩
  · exact ⟨fun _ => onTime, fun _ => inv.order.pairwise⟩
  · exact ⟨fun ordered => absurd ordered disordered, fun onTime => absurd late onTime⟩

end Service

/-- The body reports in time, and returns. -/
def returnedService : List (ServiceAction Unit Unit) :=
  startedService ++ [.check 1 .healthy, .report (.ready 1 .healthy), .execution (.jobEnds 0),
    .bodyJoined (.returned ()), .execution (.body .proceed), .execution (.body .proceed), .decide 0]

theorem published_in_order_returned :
    published hookedService 0 returnedService =
        [.starting 1, .starting 1, .ready 1 .healthy, .stopped 1 .notRequired] ∧
      ¬ (service Unit Unit hookedService 0).Happened Late (service Unit Unit hookedService 0).init
        returnedService := by
  have ran : ((service Unit Unit hookedService 0).exec (service Unit Unit hookedService 0).init
      returnedService).map (fun run => run.status) = some (.stopped 1 .notRequired) := by
    decide +kernel
  obtain ⟨run, exec, -⟩ := Option.map_eq_some_iff.1 ran
  exact ⟨by decide +kernel, (published_in_order_iff exec).1 (by decide +kernel)⟩

/-- A clone of the context outlives the body, and reports once the service is stopped: nobody
was cancelled and the generation is the last one, and so `Ready` replaces `Stopped`. -/
theorem ready_after_stopped :
    ∃ run, (service Unit Unit hookedService 0).exec (service Unit Unit hookedService 0).init
        (returnedService ++ [.check 1 .healthy, .report (.ready 1 .healthy)]) = some run ∧
      run.status = .ready 1 .healthy ∧
      published hookedService 0
          (returnedService ++ [.check 1 .healthy, .report (.ready 1 .healthy)]) =
        [.starting 1, .starting 1, .ready 1 .healthy, .stopped 1 .notRequired,
          .ready 1 .healthy] ∧
      ¬ (published hookedService 0 (returnedService ++
        [.check 1 .healthy, .report (.ready 1 .healthy)])).Pairwise ServiceStatus.Precedes := by
  have ran : ((service Unit Unit hookedService 0).exec (service Unit Unit hookedService 0).init
      (returnedService ++ [.check 1 .healthy, .report (.ready 1 .healthy)])).map
        (fun run => run.status) = some (.ready 1 .healthy) := by
    decide +kernel
  obtain ⟨run, exec, status⟩ := Option.map_eq_some_iff.1 ran
  exact ⟨run, exec, status, by decide +kernel, by decide +kernel⟩

end BusyBeaver
