import BusyBeaver.Execution.Calls

/-!
# One terminal outcome for every interleaving

`World.Inv` ties the guarded state, the result cell, the terminal watch and the
callers' positions together; `Inv.step` keeps it across one section of one
caller, and `terminal_contract` reads the promises of an execution off it:
one winning commit, a lifecycle that only moves forward, one accepted stop, one
exit described everywhere alike, and one owner of the typed exit.
-/

namespace BusyBeaver

open Transition

variable {T E : Type}

/-! ## Positions that count -/

/-- The call's `request_stop` was the accepted one. -/
def Caller.Accepted (call : Caller T E) : Prop :=
  match call.pc with
  | .stopAccepted | .stopSignalled | .returned (.stop .requested) => True
  | _ => False

/-- The call's `commit` was the successful one. -/
def Caller.Won (call : Caller T E) : Prop :=
  match call.pc with
  | .committing _ | .returned (.committed true) => True
  | _ => False

/-- The typed exit the call handed to its caller. -/
def Caller.handed (call : Caller T E) : Option (TaskExit T E) :=
  match call.pc with
  | .returned (.joined (.ok exit)) => some exit
  | .returned (.tried (.ok (some exit))) => some exit
  | _ => none

/-- The call is about to take the result cell. -/
def Caller.Taking (call : Caller T E) : Prop :=
  match call.pc with
  | .taking => True
  | _ => False

def Caller.Handed (call : Caller T E) : Prop := call.handed ≠ none

theorem Pc.Quiet.entered : (.entered : Pc T E).Quiet := trivial

/-- Everything the invariant asks of a position. -/
theorem Pc.Quiet.not_counted {pc : Pc T E} (quiet : pc.Quiet) (op : Op T E) :
    ¬ Caller.Accepted ⟨op, pc⟩ ∧ ¬ Caller.Won ⟨op, pc⟩ ∧ ¬ Caller.Handed ⟨op, pc⟩ ∧
      ¬ Caller.Taking ⟨op, pc⟩ := by
  cases pc with
  | entered | waiting =>
    simp [Caller.Accepted, Caller.Won, Caller.Handed, Caller.handed, Caller.Taking]
  | stopAccepted | stopSignalled | committing _ | taking => exact quiet.elim
  | returned reply =>
    rcases reply with (_ | _ | _) | _ | _ | (_ | _) | _ | (_ | (_ | _)) <;>
      simp_all [Pc.Quiet, Caller.Accepted, Caller.Won, Caller.Handed, Caller.handed, Caller.Taking]

/-! ## The invariant -/

/-- Nothing of the terminal phase has happened. -/
structure Unfinished (world : World T E) : Prop where
  cell : world.shared.cell = none
  published : world.shared.published = none
  nonterminal : world.shared.core.publicState.isTerminal = false
  won : world.calls.Nobody Caller.Won
  handed : world.calls.Nobody Caller.Handed
  taking : world.calls.Nobody Caller.Taking

/-- Caller `winner` committed `proposed`, and `selected` is the exit stored for it. -/
structure Finished (world : World T E) (winner : Nat) (proposed selected : TaskExit T E) :
    Prop where
  sole : world.calls.Sole Caller.Won winner
  op : (world.calls winner).map Caller.op = some (.commit proposed)
  isSelected : IsSelected proposed world.shared.core.stopCause selected
  terminal : world.shared.core.terminal = some selected.summary
  publicState : world.shared.core.publicState = selected.summary.state
  published :
    (world.calls winner).map Caller.pc = some (.committing selected.summary) ∧
        world.shared.published = none ∨
      (world.calls winner).map Caller.pc = some (.returned (.committed true)) ∧
        world.shared.published = some selected.summary
  cell :
    world.shared.cell = some selected ∧ world.calls.Nobody Caller.Handed ∨
      world.shared.cell = none ∧
        ∃ owner, world.calls.Sole Caller.Handed owner ∧
          (world.calls owner).bind Caller.handed = some selected

/-- The values `public_state` has had: the queue, the body's reports, the stop if
one was accepted and the terminal state if there is one. -/
def History (core : CoreState) (moves : List TaskState) : Prop :=
  ∃ reports : List ActiveState,
    moves = .queued :: reports.map ActiveState.toTaskState ++
      (core.stopCause.map TaskState.stopping).toList ++
      (core.terminal.map TaskExitSummary.state).toList

structure World.Inv (world : World T E) : Prop where
  history : History world.shared.core world.shared.moves
  last : world.shared.moves.getLast? = some world.shared.core.publicState
  unstopped : world.shared.core.stopCause = none → world.calls.Nobody Caller.Accepted
  stopped : ∀ cause, world.shared.core.stopCause = some cause →
    ∃ caller, world.calls.Sole Caller.Accepted caller ∧
      (world.calls caller).map Caller.op = some (.requestStop cause)
  unfinished : world.shared.core.terminal = none → Unfinished world
  finished : ∀ summary, world.shared.core.terminal = some summary →
    ∃ winner proposed selected, Finished world winner proposed selected

theorem World.Inv.init : World.Inv (race T E).init where
  history := ⟨[], rfl⟩
  last := rfl
  unstopped _ := fun _ _ absurd => by cases absurd
  stopped _ absurd := by cases absurd
  unfinished _ := by
    constructor
    case cell => rfl
    case published => rfl
    case nonterminal => rfl
    all_goals exact fun _ _ absurd => by cases absurd
  finished _ absurd := by cases absurd

/-! ## The history moves forward -/

theorem History.active {core : CoreState} {moves : List TaskState} (next : ActiveState)
    (history : History core moves) (running : core.terminal = none)
    (unstopped : core.stopCause = none) :
    History { core with publicState := next.toTaskState } (moves ++ [next.toTaskState]) := by
  obtain ⟨reports, rfl⟩ := history
  exact ⟨reports ++ [next], by simp [running, unstopped]⟩

theorem History.accept {core : CoreState} {moves : List TaskState} (cause : StopCauseSummary)
    (history : History core moves) (running : core.terminal = none)
    (unstopped : core.stopCause = none) :
    History { core with stopCause := some cause, publicState := .stopping cause }
      (moves ++ [.stopping cause]) := by
  obtain ⟨reports, rfl⟩ := history
  exact ⟨reports, by simp [running, unstopped]⟩

theorem History.commit {core : CoreState} {moves : List TaskState} (summary : TaskExitSummary)
    (history : History core moves) (running : core.terminal = none) :
    History { core with publicState := summary.state, terminal := some summary }
      (moves ++ [summary.state]) := by
  obtain ⟨reports, rfl⟩ := history
  exact ⟨reports, by simp [running]⟩

/-! ## One section of one caller

Each lemma moves caller `i` from `before` to `after` while the guarded state is
as described; a position that counts for nothing changes no count. -/

section Callers

variable {world : World T E} {shared : Shared T E} {i : Nat} {op : Op T E} {pc pc' : Pc T E}

/-- A winner that is not `i`, or whose position `i` leaves alone, stays where it is. -/
theorem Finished.of_move {winner : Nat} {proposed selected : TaskExit T E}
    (finished : Finished world winner proposed selected)
    (under : world.calls i = some ⟨op, pc⟩)
    (core : shared.core = world.shared.core) (cell : shared.cell = world.shared.cell)
    (published : shared.published = world.shared.published)
    (won : ¬ Caller.Won ⟨op, pc⟩) (won' : ¬ Caller.Won ⟨op, pc'⟩)
    (handed : ¬ Caller.Handed ⟨op, pc⟩) (handed' : ¬ Caller.Handed ⟨op, pc'⟩) :
    Finished ⟨shared, world.calls.set i ⟨op, pc'⟩⟩ winner proposed selected := by
  have other : winner ≠ i := by
    rintro rfl
    obtain ⟨call, at_winner, wins⟩ := finished.sole.holds
    exact won (Option.some.inj (under.symm.trans at_winner) ▸ wins)
  refine ⟨finished.sole.set_iff under (iff_of_false won' won), ?_, ?_, ?_, ?_, ?_, ?_⟩
  · simpa only [Pool.set_of_ne other] using finished.op
  · simpa only [core] using finished.isSelected
  · simpa only [core] using finished.terminal
  · simpa only [core] using finished.publicState
  · simpa only [Pool.set_of_ne other, published] using finished.published
  · rcases finished.cell with ⟨stored, nobody⟩ | ⟨taken, owner, sole, exit⟩
    · exact .inl ⟨cell.trans stored, nobody.set handed'⟩
    · refine .inr ⟨cell.trans taken, owner, sole.set_iff under (iff_of_false handed' handed), ?_⟩
      have different : owner ≠ i := by
        rintro rfl
        obtain ⟨call, at_owner, holds⟩ := sole.holds
        exact handed (Option.some.inj (under.symm.trans at_owner) ▸ holds)
      simpa only [Pool.set_of_ne different] using exit

theorem Unfinished.of_move (unfinished : Unfinished world)
    (cell : shared.cell = world.shared.cell) (published : shared.published = world.shared.published)
    (nonterminal : shared.core.publicState.isTerminal = false)
    (won' : ¬ Caller.Won ⟨op, pc'⟩) (handed' : ¬ Caller.Handed ⟨op, pc'⟩)
    (taking' : ¬ Caller.Taking ⟨op, pc'⟩) :
    Unfinished ⟨shared, world.calls.set i ⟨op, pc'⟩⟩ where
  cell := cell.trans unfinished.cell
  published := published.trans unfinished.published
  nonterminal := nonterminal
  won := unfinished.won.set won'
  handed := unfinished.handed.set handed'
  taking := unfinished.taking.set taking'

/-- The part of the invariant about the accepted stop, for a move that neither
accepts a stop nor gives one up. -/
theorem World.Inv.stops_of_move (inv : world.Inv) (pc' : Pc T E)
    (under : world.calls i = some ⟨op, pc⟩)
    (same : Caller.Accepted ⟨op, pc'⟩ ↔ Caller.Accepted ⟨op, pc⟩) :
    (world.shared.core.stopCause = none →
        (world.calls.set i ⟨op, pc'⟩).Nobody Caller.Accepted) ∧
      ∀ cause, world.shared.core.stopCause = some cause →
        ∃ caller, (world.calls.set i ⟨op, pc'⟩).Sole Caller.Accepted caller ∧
          (world.calls.set i ⟨op, pc'⟩ caller).map Caller.op = some (.requestStop cause) := by
  refine ⟨fun unstopped => (inv.unstopped unstopped).set_iff under same, fun cause stopped => ?_⟩
  obtain ⟨caller, sole, asked⟩ := inv.stopped cause stopped
  refine ⟨caller, sole.set_iff under same, ?_⟩
  by_cases eq : caller = i
  · subst eq
    simpa only [Pool.set_self, under, Option.map_some] using asked
  · simpa only [Pool.set_of_ne eq] using asked

/-- Nothing shared changes and the caller moves between positions that count for
nothing in the terminal phase. -/
theorem World.Inv.of_idle (inv : world.Inv) (under : world.calls i = some ⟨op, pc⟩)
    (core : shared.core = world.shared.core) (cell : shared.cell = world.shared.cell)
    (published : shared.published = world.shared.published)
    (moves : shared.moves = world.shared.moves)
    (same : Caller.Accepted ⟨op, pc'⟩ ↔ Caller.Accepted ⟨op, pc⟩)
    (won : ¬ Caller.Won ⟨op, pc⟩) (won' : ¬ Caller.Won ⟨op, pc'⟩)
    (handed : ¬ Caller.Handed ⟨op, pc⟩) (handed' : ¬ Caller.Handed ⟨op, pc'⟩)
    (taking' : world.shared.core.terminal = none → ¬ Caller.Taking ⟨op, pc'⟩) :
    World.Inv ⟨shared, world.calls.set i ⟨op, pc'⟩⟩ := by
  obtain ⟨nobody, sole⟩ := inv.stops_of_move pc' under same
  refine ⟨?_, ?_, ?_, ?_, ?_, ?_⟩
  · simpa only [core, moves] using inv.history
  · simpa only [core, moves] using inv.last
  · simpa only [core] using nobody
  · simpa only [core] using sole
  · intro running
    simp only [core] at running
    have unfinished := inv.unfinished running
    exact unfinished.of_move cell published (core ▸ unfinished.nonterminal) won' handed'
      (taking' running)
  · intro summary terminal
    simp only [core] at terminal
    obtain ⟨winner, proposed, selected, finished⟩ := inv.finished summary terminal
    exact ⟨winner, proposed, selected,
      finished.of_move under core cell published won won' handed handed'⟩

end Callers

/-! ## The step lemma -/

theorem World.Inv.invoke {world : World T E} {caller : Nat} {op : Op T E} (inv : world.Inv)
    (fresh : world.calls caller = none) :
    World.Inv { world with calls := world.calls.set caller ⟨op, .entered⟩ } := by
  have quiet := Pc.Quiet.entered.not_counted op
  refine ⟨inv.history, inv.last, fun unstopped => (inv.unstopped unstopped).set quiet.1, ?_, ?_, ?_⟩
  · intro cause stopped
    obtain ⟨accepted, sole, asked⟩ := inv.stopped cause stopped
    have other : accepted ≠ caller := by
      rintro rfl
      simp [fresh] at asked
    exact ⟨accepted, sole.set_new fresh quiet.1, by simpa only [Pool.set_of_ne other] using asked⟩
  · intro running
    have unfinished := inv.unfinished running
    exact unfinished.of_move rfl rfl unfinished.nonterminal quiet.2.1 quiet.2.2.1 quiet.2.2.2
  · intro summary terminal
    obtain ⟨winner, proposed, selected, finished⟩ := inv.finished summary terminal
    have other : winner ≠ caller := by
      rintro rfl
      simpa [fresh] using finished.op
    refine ⟨winner, proposed, selected, finished.sole.set_new fresh quiet.2.1, ?_,
      finished.isSelected, finished.terminal, finished.publicState, ?_, ?_⟩
    · simpa only [Pool.set_of_ne other] using finished.op
    · simpa only [Pool.set_of_ne other] using finished.published
    · rcases finished.cell with ⟨stored, nobody⟩ | ⟨taken, owner, sole, exit⟩
      · exact .inl ⟨stored, nobody.set quiet.2.2.1⟩
      · have different : owner ≠ caller := by
          rintro rfl
          simp [fresh] at exit
        exact .inr ⟨taken, owner, sole.set_new fresh quiet.2.2.1,
          by simpa only [Pool.set_of_ne different] using exit⟩

theorem World.Inv.advance {world : World T E} {i : Nat} {op : Op T E} {pc pc' : Pc T E}
    {shared : Shared T E} (inv : world.Inv) (under : world.calls i = some ⟨op, pc⟩)
    (moved : Advanced op world.shared pc shared pc') :
    World.Inv ⟨shared, world.calls.set i ⟨op, pc'⟩⟩ := by
  cases moved with
  | quiet entered quiet =>
    subst entered
    have counts := quiet.not_counted op
    have counts' := Pc.Quiet.entered.not_counted op
    exact inv.of_idle under rfl rfl rfl rfl (iff_of_false counts.1 counts'.1) counts'.2.1
      counts.2.1 counts'.2.2.1 counts.2.2.1 fun _ => counts.2.2.2
  | seen from_ terminal =>
    have quiet : pc.Quiet := by
      rcases from_ with rfl | rfl <;> trivial
    have counts := quiet.not_counted op
    refine inv.of_idle under rfl rfl rfl rfl (iff_of_false id counts.1) counts.2.1 id
      counts.2.2.1 (fun absurd => absurd rfl) fun running => ?_
    -- a caller that saw a terminal execution saw it after some commit
    have unfinished := inv.unfinished running
    rcases terminal with terminal | published
    · simp [unfinished.nonterminal] at terminal
    · exact (published unfinished.published).elim
  | active next quiet running unstopped =>
    have counts := quiet.not_counted op
    have counts' := Pc.Quiet.entered.not_counted op
    obtain ⟨nobody, -⟩ := inv.stops_of_move pc' under (iff_of_false counts.1 counts'.1)
    refine ⟨inv.history.active next running unstopped, by simp [Shared.write],
      fun _ => nobody unstopped, ?_, fun _ => ?_, ?_⟩
    · intro cause stopped
      simp [Shared.write, unstopped] at stopped
    · exact (inv.unfinished running).of_move rfl rfl (by simp [Shared.write]) counts.2.1
        counts.2.2.1 counts.2.2.2
    · intro summary terminal
      simp [Shared.write, running] at terminal
  | @accept cause asked running unstopped =>
    subst asked
    refine ⟨inv.history.accept cause running unstopped, by simp [Shared.write], ?_, ?_, ?_, ?_⟩
    · intro absurd
      simp [Shared.write] at absurd
    · intro accepted stopped
      simp only [Shared.write, Option.some.injEq] at stopped
      subst stopped
      exact ⟨i, (inv.unstopped unstopped).set_sole trivial, by simp⟩
    · intro _
      exact (inv.unfinished running).of_move rfl rfl rfl id (fun absurd => absurd rfl) id
    · intro summary terminal
      simp [Shared.write, running] at terminal
  | signal =>
    exact inv.of_idle under rfl rfl rfl rfl (iff_of_true trivial trivial) id id
      (fun absurd => absurd rfl) (fun absurd => absurd rfl) fun _ => id
  | requested =>
    exact inv.of_idle under rfl rfl rfl rfl (iff_of_true trivial trivial) id id
      (fun absurd => absurd rfl) (fun absurd => absurd rfl) fun _ => id
  | @commit written normalExit asked stored =>
    subst asked
    have running : world.shared.core.terminal = none := by
      by_contra finished
      rw [CoreState.commit_of_terminal finished] at stored
      cases stored
    have unfinished := inv.unfinished running
    obtain ⟨selected, isSelected, eq⟩ := CoreState.commit_of_open normalExit running
    rw [unfinished.cell, eq, Option.some.injEq] at stored
    subst stored
    obtain ⟨nobody, sole⟩ := inv.stops_of_move (.committing selected.summary) under
      (iff_of_false id id)
    refine ⟨inv.history.commit selected.summary running, by simp [Shared.write], nobody, sole,
      ?_, ?_⟩
    · intro absurd
      simp [Shared.write] at absurd
    · intro summary _
      exact ⟨i, normalExit, selected, unfinished.won.set_sole trivial, by simp, isSelected, rfl,
        rfl, .inl ⟨by simp, unfinished.published⟩,
        .inl ⟨rfl, unfinished.handed.set fun absurd => absurd rfl⟩⟩
  | @publish summary =>
    obtain ⟨nobody, sole⟩ := inv.stops_of_move (.returned (.committed true)) under
      (iff_of_false id id)
    have finished : ∃ winner proposed selected, Finished world winner proposed selected := by
      cases terminal : world.shared.core.terminal with
      | none => exact ((inv.unfinished terminal).won i _ under trivial).elim
      | some summary => exact inv.finished summary terminal
    obtain ⟨winner, proposed, selected, finished⟩ := finished
    -- the caller that publishes is the winner, so the summary is the stored one
    obtain rfl : i = winner := finished.sole.only i _ under trivial
    have published : summary = selected.summary := by
      rcases finished.published with ⟨position, -⟩ | ⟨position, -⟩
      · simpa only [under, Option.map_some, Option.some.injEq, Pc.committing.injEq] using position
      · simp [under] at position
    subst published
    refine ⟨inv.history, inv.last, nobody, sole, ?_, ?_⟩
    · intro running
      rw [finished.terminal] at running
      cases running
    · intro _ _
      refine ⟨i, proposed, selected, finished.sole.set_iff under (iff_of_true trivial trivial), ?_,
        finished.isSelected, finished.terminal, finished.publicState, .inr ⟨by simp, rfl⟩, ?_⟩
      · simpa only [Pool.set_self, under, Option.map_some] using finished.op
      · rcases finished.cell with ⟨stored, none_⟩ | ⟨taken, owner, holder, exit⟩
        · exact .inl ⟨stored, none_.set fun absurd => absurd rfl⟩
        · refine .inr ⟨taken, owner, holder.set_iff under
            (iff_of_false (fun absurd => absurd rfl) fun absurd => absurd rfl), ?_⟩
          have different : owner ≠ i := by
            rintro rfl
            simp [under, Caller.handed] at exit
          simpa only [Pool.set_of_ne different] using exit
  | take replied =>
    have counts : ¬ Caller.Accepted ⟨op, pc'⟩ ∧ ¬ Caller.Won ⟨op, pc'⟩ ∧
        Caller.handed ⟨op, pc'⟩ = world.shared.cell ∧ ¬ Caller.Taking ⟨op, pc'⟩ := by
      rcases replied with rfl | rfl <;> cases world.shared.cell <;>
        simp [Caller.Accepted, Caller.Won, Caller.handed, Caller.Taking, okOrTaken]
    obtain ⟨nobody, sole⟩ := inv.stops_of_move pc' under (iff_of_false counts.1 id)
    refine ⟨inv.history, inv.last, nobody, sole, ?_, ?_⟩
    · intro running
      exact ((inv.unfinished running).taking i _ under trivial).elim
    · intro summary terminal
      obtain ⟨winner, proposed, selected, finished⟩ := inv.finished summary terminal
      have other : winner ≠ i := by
        rintro rfl
        obtain ⟨call, at_winner, wins⟩ := finished.sole.holds
        cases Option.some.inj (under.symm.trans at_winner)
        exact wins
      refine ⟨winner, proposed, selected, finished.sole.set_iff under
        (iff_of_false counts.2.1 id), ?_, finished.isSelected, finished.terminal,
        finished.publicState, ?_, .inr ⟨rfl, ?_⟩⟩
      · simpa only [Pool.set_of_ne other] using finished.op
      · simpa only [Pool.set_of_ne other] using finished.published
      · -- the first taker empties the cell, a later one finds it empty
        rcases finished.cell with ⟨stored, unowned⟩ | ⟨taken, owner, holder, exit⟩
        · refine ⟨i, unowned.set_sole ?_, ?_⟩
          · simp [Caller.Handed, counts.2.2.1, stored]
          · simp [counts.2.2.1, stored]
        · refine ⟨owner, holder.set_iff under (iff_of_false ?_ fun absurd => absurd rfl), ?_⟩
          · simp [Caller.Handed, counts.2.2.1, taken]
          · have different : owner ≠ i := by
              rintro rfl
              simp [under, Caller.handed] at exit
            simpa only [Pool.set_of_ne different] using exit

theorem World.Inv.step {world after : World T E} {action : CallAction T E} (inv : world.Inv)
    (step : world.step action = some after) : after.Inv := by
  rcases World.step_cases step with
    ⟨caller, op, -, fresh, rfl⟩ | ⟨caller, op, pc, shared, pc', -, under, moved, rfl⟩
  · exact inv.invoke fresh
  · exact inv.advance under moved

theorem World.Inv.of_reachable {world : World T E} (reach : (race T E).Reachable world) :
    world.Inv :=
  reach.invariant .init fun inv _ step => inv.step step

/-- An accepted stop cause is never replaced. -/
theorem stopCause_stable {world after : World T E} {cause : StopCauseSummary}
    (run : (race T E).Reaches (fun _ _ => True) world after)
    (stopped : world.shared.core.stopCause = some cause) :
    after.shared.core.stopCause = some cause := by
  refine run.invariant (I := fun world => world.shared.core.stopCause = some cause) stopped
    fun {x y _} held _ step => ?_
  rcases World.step_cases step with
    ⟨_, _, -, -, rfl⟩ | ⟨_, _, _, _, _, -, -, moved, rfl⟩
  · exact held
  · cases moved with
    | active _ _ _ unstopped | accept _ _ unstopped =>
      rw [held] at unstopped
      cases unstopped
    | commit _ stored =>
      simp only [CoreState.commit] at stored
      split at stored
      · cases stored
      · cases stored
        exact held
    | _ => exact held

/-! ## The contract -/

/-- Queue, then reports of the body, then at most one stop, then at most one
terminal state. -/
def Lifecycle (moves : List TaskState) : Prop :=
  ∃ (reports : List ActiveState) (stop : Option StopCauseSummary) (final : Option TaskState),
    moves = .queued :: reports.map ActiveState.toTaskState ++
      (stop.map TaskState.stopping).toList ++
      final.toList ∧
    ∀ state, final = some state → state.isTerminal = true

/-- Caller `i` has returned `reply` from the call `op`. -/
def World.Returned (world : World T E) (i : Nat) (op : Op T E) (reply : Reply T E) : Prop :=
  world.calls i = some ⟨op, .returned reply⟩

/-- Caller `i` was handed the typed exit `exit`, by `join` or by `try_join`. -/
def World.HandedOut (world : World T E) (i : Nat) (exit : TaskExit T E) : Prop :=
  ∃ op, world.Returned i op (.joined (.ok exit)) ∨ world.Returned i op (.tried (.ok (some exit)))

structure TerminalContract (world : World T E) : Prop where
  /-- At most one commit returns true. -/
  one_commit : ∀ i j op op', world.Returned i op (.committed true) →
    world.Returned j op' (.committed true) → i = j
  /-- The public state moves forward only, and is the last of its moves. -/
  lifecycle : Lifecycle world.shared.moves
  current : world.shared.moves.getLast? = some world.shared.core.publicState
  /-- Exactly one accepted request; only it answers `Requested`. -/
  one_accepted : ∀ cause, world.shared.core.stopCause = some cause →
    ∃ i, world.calls.Sole Caller.Accepted i ∧
      (world.calls i).map Caller.op = some (.requestStop cause)
  requested : ∀ i op, world.Returned i op (.stop .requested) →
    ∃ cause, op = .requestStop cause ∧ world.shared.core.stopCause = some cause ∧
      world.calls.Sole Caller.Accepted i
  /-- A successful commit is described alike by every reader. -/
  described : ∀ i proposed, world.Returned i (.commit proposed) (.committed true) →
    ∃ selected, IsSelected proposed world.shared.core.stopCause selected ∧
      world.shared.core.terminal = some selected.summary ∧
      world.shared.core.publicState = selected.summary.state ∧
      world.shared.published = some selected.summary ∧
      (world.shared.cell = some selected ∨
        world.shared.cell = none ∧ ∃ j, world.HandedOut j selected)
  /-- The typed exit has at most one owner. -/
  handed_once : ∀ i j exit exit', world.HandedOut i exit → world.HandedOut j exit' → i = j

theorem HandedOut.iff_handed {world : World T E} {i : Nat} {exit : TaskExit T E} :
    world.HandedOut i exit ↔ (world.calls i).bind Caller.handed = some exit := by
  constructor
  · rintro ⟨op, returned | returned⟩ <;>
      simp [World.Returned] at returned <;> simp [returned, Caller.handed]
  · intro handed
    cases eq : world.calls i with
    | none => simp [eq] at handed
    | some call =>
      rcases call with ⟨op, pc⟩
      simp only [eq, Option.bind_some, Caller.handed] at handed
      split at handed
      · cases handed
        exact ⟨op, .inl (by simp_all [World.Returned])⟩
      · cases handed
        exact ⟨op, .inr (by simp_all [World.Returned])⟩
      · cases handed

theorem World.Inv.contract {world : World T E} (inv : world.Inv) : TerminalContract world where
  one_commit := by
    intro i j op op' left right
    cases terminal : world.shared.core.terminal with
    | none => exact ((inv.unfinished terminal).won i _ left trivial).elim
    | some summary =>
      obtain ⟨winner, _, _, finished⟩ := inv.finished summary terminal
      exact finished.sole.unique left right trivial trivial
  lifecycle := by
    obtain ⟨reports, moves⟩ := inv.history
    refine ⟨reports, world.shared.core.stopCause,
      world.shared.core.terminal.map TaskExitSummary.state, moves, ?_⟩
    rintro state final
    obtain ⟨summary, -, rfl⟩ := Option.map_eq_some_iff.1 final
    exact summary.isTerminal_state
  current := inv.last
  one_accepted := inv.stopped
  requested := by
    intro i op returned
    cases stopped : world.shared.core.stopCause with
    | none => exact (inv.unstopped stopped i _ returned trivial).elim
    | some cause =>
      obtain ⟨accepted, sole, asked⟩ := inv.stopped cause stopped
      obtain rfl : i = accepted := sole.only i _ returned trivial
      refine ⟨cause, ?_, rfl, sole⟩
      rw [World.Returned] at returned
      simpa [returned] using asked
  described := by
    intro i proposed returned
    cases terminal : world.shared.core.terminal with
    | none => exact ((inv.unfinished terminal).won i _ returned trivial).elim
    | some summary =>
      obtain ⟨winner, proposed', selected, finished⟩ := inv.finished summary terminal
      obtain rfl : i = winner := finished.sole.only i _ returned trivial
      have op := finished.op
      have published := finished.published
      rw [World.Returned] at returned
      simp only [returned, Option.map_some, Option.some.injEq, Op.commit.injEq, reduceCtorEq,
        false_and, true_and, false_or] at op published
      subst op
      refine ⟨selected, finished.isSelected, terminal ▸ finished.terminal, finished.publicState,
        published, ?_⟩
      rcases finished.cell with ⟨stored, -⟩ | ⟨taken, owner, -, exit⟩
      · exact .inl stored
      · exact .inr ⟨taken, owner, HandedOut.iff_handed.2 exit⟩
  handed_once := by
    intro i j exit exit' left right
    rw [HandedOut.iff_handed] at left right
    obtain ⟨c, at_i, handed⟩ := Option.bind_eq_some_iff.1 left
    obtain ⟨d, at_j, handed'⟩ := Option.bind_eq_some_iff.1 right
    have left' : c.Handed := by simp [Caller.Handed, handed]
    have right' : d.Handed := by simp [Caller.Handed, handed']
    cases terminal : world.shared.core.terminal with
    | none => exact ((inv.unfinished terminal).handed i _ at_i left').elim
    | some summary =>
      obtain ⟨winner, _, _, finished⟩ := inv.finished summary terminal
      rcases finished.cell with ⟨-, nobody⟩ | ⟨-, owner, sole, -⟩
      · exact (nobody i _ at_i left').elim
      · exact sole.unique at_i at_j left' right'

/-- **The terminal contract.**  However the calls on an execution interleave, one
commit wins, the public state only moves forward, one stop is accepted and its
cause stays, all readers see one exit and one caller gets the typed value. -/
theorem terminal_contract {world : World T E} (reach : (race T E).Reachable world) :
    TerminalContract world ∧
      ∀ cause after, world.shared.core.stopCause = some cause →
        (race T E).Reaches (fun _ _ => True) world after →
        after.shared.core.stopCause = some cause :=
  ⟨(World.Inv.of_reachable reach).contract, fun _ _ stopped run => stopCause_stable run stopped⟩

/-- A stop races a commit and a join: caller 0 cancels between the runner's start
and its commit, caller 2 joins. -/
def stoppedRun : List (CallAction Nat Nat) :=
  [.invoke 1 .claimStart, .advance 1, .invoke 0 (.requestStop (.cancel .userRequested)),
    .advance 0, .invoke 2 .join, .advance 2, .invoke 3 (.commit (.completed 7)), .advance 3,
    .advance 0, .advance 0, .advance 3, .advance 2, .advance 2]

theorem terminal_contract_stopped :
    ∃ world, (race Nat Nat).exec (race Nat Nat).init stoppedRun = some world ∧
      TerminalContract world ∧ world.HandedOut 2 (.cancelled .userRequested) := by
  refine ⟨_, rfl, (terminal_contract (System.Reaches.of_schedule stoppedRun rfl)).1, ?_⟩
  exact ⟨.join, .inl rfl⟩

end BusyBeaver
