import Mathlib.Data.Finset.Card
import BusyBeaver.Lib.Broadcast
import BusyBeaver.Lib.Checked
import BusyBeaver.Lib.Pool
import BusyBeaver.Lib.Transition

/-!
# Event streams

Any number of `subscribe` calls, `EventStream`s and emissions share one `ExecutionRegistry`
(`src/execution.rs`, `src/observation.rs`): a counter that a compare-and-swap loop raises before
the receiver exists and the drop of a stream lowers before the receiver is gone, and a bounded
channel that an emission reaches only through loads of that counter.  The channel is not of
this repository: the reads of its receivers are a parameter.

The counter is exact and never above the limit, and who is refused has seen it there
(`subscriber_limit`); an emission that is under way while a stream is there reaches the stream,
as a value or inside an announced gap, if the reads are as they are documented
(`emission_reaches_stream`).
-/

namespace BusyBeaver

open Transition Broadcast

structure StreamConfig (ε : Type) : Type where
  maxEventSubscribers : Nat
  /-- The `tracing` feature. -/
  tracing : Bool
  /-- `broadcast::Receiver::recv`. -/
  receive : Receive ε

/-- A `subscribe` call, and the stream it ends in. -/
inductive Subscription (ε : Type) : Type
  /-- The first load of the counter is next. -/
  | loading
  /-- `current` was loaded; the checks and the compare-and-swap are next. -/
  | checking (current : Nat)
  /-- Counted; `events.subscribe()` is next. -/
  | counted
  /-- The stream: where it began, where it reads next, and what it has obtained. -/
  | live (start next : Nat) (trace : List (Received ε))
  /-- `EventStream::drop` has lowered the counter; the receiver goes next. -/
  | uncounted
  | closed
  /-- `SubscriberLimitReached`. -/
  | refused
  deriving DecidableEq

/-- The subscription is counted. -/
def Subscription.isCounted {ε : Type} : Subscription ε → Bool
  | .counted | .live _ _ _ => true
  | _ => false

/-- How an event is emitted. -/
inductive EmitKind : Type
  /-- `should_capture_event_snapshot`, and `emit` when it holds. -/
  | captured
  /-- `emit` alone, by `finish`. -/
  | terminal
  deriving DecidableEq, Repr

/-- The loads of the counter that all have to find a subscriber. -/
def EmitKind.gates (tracing : Bool) : EmitKind → Nat
  | .captured => if tracing then 1 else 3
  | .terminal => if tracing then 1 else 2

inductive Emission (ε : Type) : Type
  /-- So many loads are left before `events.send`. -/
  | gated (event : ε) (gates : Nat)
  | sent
  | skipped
  deriving DecidableEq

structure Streams (ε : Type) : Type where
  /-- What was sent on the channel, oldest first. -/
  sent : List ε
  /-- The atomic counter. -/
  subscribers : Nat
  subscriptions : Pool (Subscription ε)
  emissions : Pool (Emission ε)
  /-- History: who is counted. -/
  listeners : Finset Nat

inductive StreamAction (ε : Type) : Type
  | subscribe (caller : Nat)
  /-- What a `subscribe` or a drop does next; a weak compare-and-swap may fail spuriously. -/
  | advance (caller : Nat) (spurious : Bool)
  | recv (caller : Nat)
  | drop (caller : Nat)
  | emit (emitter : Nat) (event : ε) (kind : EmitKind)
  /-- The next load of an emission, or its `send`. -/
  | pass (emitter : Nat)

namespace Streams

variable {ε : Type}

/-- The next section of a `subscribe` or of a drop. -/
def advance (config : StreamConfig ε) (s : Streams ε) (caller : Nat) (spurious : Bool) :
    Subscription ε → Option (Streams ε)
  | .loading =>
    some { s with subscriptions := s.subscriptions.set caller (.checking s.subscribers) }
  | .checking current =>
    if config.maxEventSubscribers ≤ current then
      some { s with subscriptions := s.subscriptions.set caller .refused }
    else
      match Checked.add Checked.usizeMax current 1 with
      | none => some { s with subscriptions := s.subscriptions.set caller .refused }
      | some next =>
        if s.subscribers = current ∧ spurious = false then
          some
            { s with
              subscribers := next
              subscriptions := s.subscriptions.set caller .counted
              listeners := insert caller s.listeners }
        else some { s with subscriptions := s.subscriptions.set caller (.checking s.subscribers) }
  | .counted =>
    some
      { s with subscriptions := s.subscriptions.set caller (.live s.sent.length s.sent.length []) }
  | .uncounted => some { s with subscriptions := s.subscriptions.set caller .closed }
  | .live _ _ _ | .closed | .refused => none

/-- `EventStream::recv`, when it has an answer. -/
def recv (config : StreamConfig ε) (s : Streams ε) (caller : Nat) :
    Subscription ε → Option (Streams ε)
  | .live start next trace =>
    (config.receive s.sent next).map fun (received, next) =>
      { s with
        subscriptions := s.subscriptions.set caller (.live start next (trace ++ [received])) }
  | _ => none

/-- `EventStream::drop`: the counter goes down first. -/
def drop (s : Streams ε) (caller : Nat) : Subscription ε → Option (Streams ε)
  | .live _ _ _ =>
    some
      { s with
        subscribers := s.subscribers - 1
        subscriptions := s.subscriptions.set caller .uncounted
        listeners := s.listeners.erase caller }
  | _ => none

/-- The next load of an emission, or its `send`.  What is sent to nobody is in nobody's part of
the log. -/
def pass (s : Streams ε) (emitter : Nat) : Emission ε → Option (Streams ε)
  | .gated event 0 =>
    some { s with sent := s.sent ++ [event], emissions := s.emissions.set emitter .sent }
  | .gated event (gates + 1) =>
    if s.subscribers = 0 then some { s with emissions := s.emissions.set emitter .skipped }
    else some { s with emissions := s.emissions.set emitter (.gated event gates) }
  | .sent | .skipped => none

def step (config : StreamConfig ε) (s : Streams ε) : StreamAction ε → Option (Streams ε)
  | .subscribe caller =>
    if s.subscriptions caller = none then
      some { s with subscriptions := s.subscriptions.set caller .loading }
    else none
  | .advance caller spurious => (s.subscriptions caller).bind (s.advance config caller spurious)
  | .recv caller => (s.subscriptions caller).bind (s.recv config caller)
  | .drop caller => (s.subscriptions caller).bind (s.drop caller)
  | .emit emitter event kind =>
    if s.emissions emitter = none then
      some { s with
        emissions := s.emissions.set emitter (.gated event (kind.gates config.tracing)) }
    else none
  | .pass emitter => (s.emissions emitter).bind (s.pass emitter)

end Streams

/-- A registry that nobody listens to. -/
def streams (ε : Type) (config : StreamConfig ε) : System (Streams ε) (StreamAction ε) where
  init := ⟨[], 0, fun _ => none, fun _ => none, ∅⟩
  step := Streams.step config

namespace Streams

variable {ε : Type} {config : StreamConfig ε} {s t : Streams ε} {action : StreamAction ε}
  {caller : Nat}

/-! ## One step -/

/-- What a subscription does next, with the counter and the counted afterwards. -/
inductive Moved (config : StreamConfig ε) (s : Streams ε) (caller : Nat) :
    Subscription ε → Subscription ε → Nat → Finset Nat → Prop
  | load : Moved config s caller .loading (.checking s.subscribers) s.subscribers s.listeners
  | refuse {current : Nat} :
    config.maxEventSubscribers ≤ current ∨ Checked.usizeMax < current + 1 →
    Moved config s caller (.checking current) .refused s.subscribers s.listeners
  | count : s.subscribers < config.maxEventSubscribers →
    Moved config s caller (.checking s.subscribers) .counted (s.subscribers + 1)
      (insert caller s.listeners)
  | retry {current : Nat} :
    Moved config s caller (.checking current) (.checking s.subscribers) s.subscribers s.listeners
  | listen : Moved config s caller .counted (.live s.sent.length s.sent.length []) s.subscribers
    s.listeners
  | read {start next next' : Nat} {trace : List (Received ε)} {received : Received ε} :
    config.receive s.sent next = some (received, next') →
    Moved config s caller (.live start next trace) (.live start next' (trace ++ [received]))
      s.subscribers s.listeners
  | uncount {start next : Nat} {trace : List (Received ε)} :
    Moved config s caller (.live start next trace) .uncounted (s.subscribers - 1)
      (s.listeners.erase caller)
  | close : Moved config s caller .uncounted .closed s.subscribers s.listeners

/-- What an emission does next, with the log afterwards. -/
inductive Passed (s : Streams ε) : Emission ε → Emission ε → List ε → Prop
  | send (event : ε) : Passed s (.gated event 0) .sent (s.sent ++ [event])
  | load (event : ε) (gates : Nat) : s.subscribers ≠ 0 →
    Passed s (.gated event (gates + 1)) (.gated event gates) s.sent
  | skip (event : ε) (gates : Nat) : s.subscribers = 0 →
    Passed s (.gated event (gates + 1)) .skipped s.sent

/-- What a step can do. -/
inductive Stepped (config : StreamConfig ε) (s : Streams ε) : Streams ε → Prop
  | subscribed {caller : Nat} : s.subscriptions caller = none →
    Stepped config s { s with subscriptions := s.subscriptions.set caller .loading }
  | moved {caller : Nat} {before after : Subscription ε} {subscribers : Nat}
    {listeners : Finset Nat} : s.subscriptions caller = some before →
    Moved config s caller before after subscribers listeners →
    Stepped config s ⟨s.sent, subscribers, s.subscriptions.set caller after, s.emissions, listeners⟩
  | emitted {emitter : Nat} {event : ε} {kind : EmitKind} : s.emissions emitter = none →
    Stepped config s
      { s with emissions := s.emissions.set emitter (.gated event (kind.gates config.tracing)) }
  | passed {emitter : Nat} {before after : Emission ε} {sent : List ε} :
    s.emissions emitter = some before → Passed s before after sent →
    Stepped config s { s with sent := sent, emissions := s.emissions.set emitter after }

theorem Stepped.of_advance {spurious : Bool} {before : Subscription ε}
    (found : s.subscriptions caller = some before)
    (step : s.advance config caller spurious before = some t) : Stepped config s t := by
  cases before with
  | loading =>
    cases step
    exact .moved found .load
  | checking current =>
    simp only [Streams.advance] at step
    split at step
    · next full =>
      cases step
      exact .moved found (.refuse (Or.inl full))
    · next room =>
      split at step
      · next overflows =>
        cases step
        exact .moved found (.refuse (Or.inr (Checked.add_eq_none.1 overflows)))
      · next next added =>
        split at step
        · next swapped =>
          cases step
          obtain ⟨-, rfl⟩ := Checked.add_eq_some.1 added
          obtain ⟨rfl, -⟩ := swapped
          exact .moved found (.count (Nat.lt_of_not_le room))
        · cases step
          exact .moved found .retry
  | counted =>
    cases step
    exact .moved found .listen
  | uncounted =>
    cases step
    exact .moved found .close
  | live | closed | refused => cases step

theorem Stepped.of_recv {before : Subscription ε} (found : s.subscriptions caller = some before)
    (step : s.recv config caller before = some t) : Stepped config s t := by
  cases before with
  | live start next trace =>
    obtain ⟨⟨received, next'⟩, read, rfl⟩ := Option.map_eq_some_iff.1 step
    exact .moved found (.read read)
  | _ => cases step

theorem Stepped.of_drop {before : Subscription ε} (found : s.subscriptions caller = some before)
    (step : s.drop caller before = some t) : Stepped config s t := by
  cases before with
  | live start next trace =>
    cases step
    exact .moved found .uncount
  | _ => cases step

theorem Stepped.of_pass {emitter : Nat} {before : Emission ε}
    (found : s.emissions emitter = some before) (step : s.pass emitter before = some t) :
    Stepped config s t := by
  cases before with
  | gated event gates =>
    cases gates with
    | zero =>
      cases step
      exact .passed found (.send event)
    | succ gates =>
      simp only [Streams.pass] at step
      split at step
      · next nobody =>
        cases step
        exact .passed found (.skip event gates nobody)
      · next somebody =>
        cases step
        exact .passed found (.load event gates somebody)
  | sent | skipped => cases step

theorem Stepped.of_step (step : s.step config action = some t) : Stepped config s t := by
  cases action with
  | subscribe caller =>
    simp only [Streams.step] at step
    split at step
    · next fresh =>
      cases step
      exact .subscribed fresh
    · cases step
  | advance caller spurious =>
    obtain ⟨before, found, step⟩ := Option.bind_eq_some_iff.1 step
    exact .of_advance found step
  | recv caller =>
    obtain ⟨before, found, step⟩ := Option.bind_eq_some_iff.1 step
    exact .of_recv found step
  | drop caller =>
    obtain ⟨before, found, step⟩ := Option.bind_eq_some_iff.1 step
    exact .of_drop found step
  | emit emitter event kind =>
    simp only [Streams.step] at step
    split at step
    · next fresh =>
      cases step
      exact .emitted fresh
    · cases step
  | pass emitter =>
    obtain ⟨before, found, step⟩ := Option.bind_eq_some_iff.1 step
    exact .of_pass found step

/-- The log only grows. -/
theorem Passed.log {before after : Emission ε} {sent : List ε}
    (passed : Passed s before after sent) : ∃ more, sent = s.sent ++ more := by
  cases passed with
  | send event => exact ⟨[event], rfl⟩
  | load | skip => exact ⟨[], (List.append_nil _).symm⟩

theorem Stepped.log (stepped : Stepped config s t) : ∃ more, t.sent = s.sent ++ more := by
  cases stepped with
  | subscribed | moved | emitted => exact ⟨[], (List.append_nil _).symm⟩
  | passed _ passed => exact passed.log

/-! ## What holds in every state -/

/-- The counter is the number of those who are counted, and within the limit. -/
structure Inv (config : StreamConfig ε) (s : Streams ε) : Prop where
  count : s.subscribers = s.listeners.card
  bound : s.subscribers ≤ config.maxEventSubscribers
  counted : ∀ i, i ∈ s.listeners ↔ ∃ c, s.subscriptions i = some c ∧ c.isCounted = true

/-- A subscription's own step. -/
structure Moved.Effect (config : StreamConfig ε) (s : Streams ε) (caller : Nat)
    (after : Subscription ε) (subscribers : Nat) (listeners : Finset Nat) : Prop where
  count : subscribers = listeners.card
  bound : subscribers ≤ config.maxEventSubscribers
  own : caller ∈ listeners ↔ after.isCounted = true
  others : ∀ i, i ≠ caller → (i ∈ listeners ↔ i ∈ s.listeners)

theorem Moved.effect {before after : Subscription ε} {subscribers : Nat} {listeners : Finset Nat}
    (inv : s.Inv config) (found : s.subscriptions caller = some before)
    (moved : Moved config s caller before after subscribers listeners) :
    Moved.Effect config s caller after subscribers listeners := by
  have here : caller ∈ s.listeners ↔ before.isCounted = true := by
    rw [inv.counted, found]
    simp
  have still : ∀ {after : Subscription ε}, after.isCounted = before.isCounted →
      Moved.Effect config s caller after s.subscribers s.listeners := by
    intro after same
    exact ⟨inv.count, inv.bound, by rw [here, same], fun _ _ => Iff.rfl⟩
  cases moved with
  | load | refuse | retry | close | listen | read => exact still rfl
  | count room =>
    have absent : caller ∉ s.listeners := by
      rw [here]
      simp [Subscription.isCounted]
    refine ⟨?_, room, ?_, fun i other => ?_⟩
    · rw [Finset.card_insert_of_notMem absent, inv.count]
    · simp [Subscription.isCounted]
    · simp [other]
  | uncount =>
    have present : caller ∈ s.listeners := here.2 rfl
    refine ⟨?_, ?_, ?_, fun i other => ?_⟩
    · rw [Finset.card_erase_of_mem present, inv.count]
    · exact Nat.le_trans (Nat.sub_le _ _) inv.bound
    · simp [Subscription.isCounted]
    · simp [other]

theorem Inv.step (inv : s.Inv config) (stepped : Stepped config s t) : t.Inv config := by
  cases stepped with
  | @subscribed caller fresh =>
    refine ⟨inv.count, inv.bound, fun i => ?_⟩
    rw [inv.counted i]
    by_cases here : i = caller
    · subst here
      simp [fresh, Subscription.isCounted]
    · simp [Pool.set_of_ne here]
  | @moved caller before after subscribers listeners found moved =>
    have effect := moved.effect inv found
    refine ⟨effect.count, effect.bound, fun i => ?_⟩
    by_cases here : i = caller
    · subst here
      rw [effect.own]
      simp
    · rw [effect.others i here, inv.counted i]
      simp [Pool.set_of_ne here]
  | emitted | passed => exact ⟨inv.count, inv.bound, inv.counted⟩

theorem inv_of_reaches {ok : Streams ε → StreamAction ε → Prop}
    (run : (streams ε config).Reaches ok (streams ε config).init s) : s.Inv config := by
  refine run.invariant ⟨rfl, Nat.zero_le _, fun i => ?_⟩ fun inv _ step => inv.step (.of_step step)
  simp [streams]

/-! ## What the streams have obtained -/

/-- A stream has obtained its part of the log. -/
def Honest (sent : List ε) : Subscription ε → Prop
  | .live start next trace =>
    start ≤ sent.length ∧ Replays sent start trace ∧ next = position start trace
  | _ => True

theorem Honest.append {sent more : List ε} {c : Subscription ε}
    (honest : Honest sent c) : Honest (sent ++ more) c := by
  cases c with
  | live start next trace =>
    obtain ⟨within, replays, at_⟩ := honest
    exact ⟨by rw [List.length_append]; omega, replays.append_log, at_⟩
  | _ => trivial

/-- A subscription's own step. -/
theorem Honest.moved {before after : Subscription ε} {subscribers : Nat} {listeners : Finset Nat}
    (honest : Honest s.sent before) (documented : Documented config.receive)
    (moved : Moved config s caller before after subscribers listeners) : Honest s.sent after := by
  cases moved with
  | load | refuse | retry | close | count | uncount => trivial
  | listen => exact ⟨Nat.le_refl _, .nil, rfl⟩
  | read read =>
    obtain ⟨within, replays, rfl⟩ := honest
    obtain ⟨replays', at_⟩ := replays.receive documented read
    exact ⟨within, replays', at_⟩

theorem honest_of_reaches {ok : Streams ε → StreamAction ε → Prop}
    (documented : Documented config.receive)
    (run : (streams ε config).Reaches ok (streams ε config).init s) :
    ∀ i c, s.subscriptions i = some c → Honest s.sent c := by
  refine run.invariant (I := fun s => ∀ i c, s.subscriptions i = some c → Honest s.sent c)
    (fun i c absurd => by cases absurd) ?_
  intro s t action honest _ step i c found
  cases Stepped.of_step step with
  | subscribed =>
    rcases Pool.of_set_eq_some found with ⟨-, rfl⟩ | ⟨-, earlier⟩
    · trivial
    · exact honest i c earlier
  | moved at_ moved =>
    rcases Pool.of_set_eq_some found with ⟨-, rfl⟩ | ⟨-, earlier⟩
    · exact (honest _ _ at_).moved documented moved
    · exact honest i c earlier
  | emitted => exact honest i c found
  | passed _ passed =>
    obtain ⟨more, rfl⟩ := passed.log
    exact (honest i c found).append

/-! ## A call that is refused -/

/-- What a `subscribe` that began after `s` has read off the counter, it read in a state of the
run. -/
def Witnessed (config : StreamConfig ε) (s t : Streams ε) : Option (Subscription ε) → Prop
  | some (.checking current) =>
    ∃ u, (streams ε config).Reaches (fun _ _ => True) s u ∧
      (streams ε config).Reaches (fun _ _ => True) u t ∧ u.subscribers = current
  | some .refused =>
    ∃ u, (streams ε config).Reaches (fun _ _ => True) s u ∧
      (streams ε config).Reaches (fun _ _ => True) u t ∧
      config.maxEventSubscribers ≤ u.subscribers
  | _ => True

theorem Witnessed.tail {c : Option (Subscription ε)} (witnessed : Witnessed config s t c)
    {u : Streams ε} (step : (streams ε config).step t action = some u) :
    Witnessed config s u c := by
  match c, witnessed with
  | some (.checking _), ⟨v, before, after, eq⟩ => exact ⟨v, before, after.tail trivial step, eq⟩
  | some .refused, ⟨v, before, after, full⟩ => exact ⟨v, before, after.tail trivial step, full⟩
  | none, _ | some .loading, _ | some .counted, _ | some (.live _ _ _), _
  | some .uncounted, _ | some .closed, _ => exact trivial

theorem Witnessed.moved (reached : (streams ε config).Reachable s)
    (fits : config.maxEventSubscribers ≤ Checked.usizeMax)
    (run : (streams ε config).Reaches (fun _ _ => True) s t) {u : Streams ε}
    (step : (streams ε config).step t action = some u) {before after : Subscription ε}
    {subscribers : Nat} {listeners : Finset Nat}
    (witnessed : Witnessed config s t (some before))
    (moved : Moved config t caller before after subscribers listeners) :
    Witnessed config s u (some after) := by
  cases moved with
  | load | retry => exact ⟨t, run, .single trivial step, rfl⟩
  | refuse full =>
    obtain ⟨v, first, then_, rfl⟩ := witnessed
    refine ⟨v, first, then_.tail trivial step, full.elim id fun overflows => ?_⟩
    have bound := (inv_of_reaches (reached.trans first)).bound
    omega
  | count | listen | read | uncount | close => trivial

theorem witnessed_of_reaches (reached : (streams ε config).Reachable s)
    (fits : config.maxEventSubscribers ≤ Checked.usizeMax)
    (fresh : s.subscriptions caller = none)
    (run : (streams ε config).Reaches (fun _ _ => True) s t) :
    Witnessed config s t (t.subscriptions caller) := by
  induction run with
  | refl =>
    rw [fresh]
    trivial
  | @tail t u action run _ step ih =>
    cases Stepped.of_step step with
    | @subscribed other unborn =>
      dsimp only
      by_cases here : caller = other
      · subst here
        rw [Pool.set_self]
        trivial
      · rw [Pool.set_of_ne here]
        exact ih.tail step
    | @moved other before after subscribers listeners found moved =>
      dsimp only
      by_cases here : caller = other
      · subst here
        rw [found] at ih
        rw [Pool.set_self]
        exact ih.moved reached fits run step moved
      · rw [Pool.set_of_ne here]
        exact ih.tail step
    | emitted | passed => exact ih.tail step

/-! ## An emission and a stream -/

/-- Where an emission stands, for a stream that read at `first` when it was under way. -/
inductive Due (s : Streams ε) (emitter : Nat) (event : ε) (first : Nat) : Prop
  | gated (gates : Nat) : s.emissions emitter = some (.gated event gates) →
    first ≤ s.sent.length → Due s emitter event first
  | sent (place : Nat) : s.emissions emitter = some .sent → first ≤ place →
    s.sent[place]? = some event → Due s emitter event first

/-- While the stream is live no load of the emission misses it. -/
theorem Due.step {emitter first : Nat} {event : ε} {c : Subscription ε}
    (due : Due s emitter event first) (inv : s.Inv config)
    (found : s.subscriptions caller = some c) (counted : c.isCounted = true)
    (stepped : Stepped config s t) : Due t emitter event first := by
  have somebody : s.subscribers ≠ 0 := by
    have member : caller ∈ s.listeners := (inv.counted caller).2 ⟨c, found, counted⟩
    rw [inv.count]
    exact Finset.card_ne_zero_of_mem member
  cases stepped with
  | subscribed | moved =>
    cases due with
    | gated gates at_ within => exact .gated gates at_ within
    | sent place at_ later there => exact .sent place at_ later there
  | @emitted other event' kind fresh =>
    have apart : emitter ≠ other := by
      rintro rfl
      cases due with
      | gated gates at_ => simp [fresh] at at_
      | sent place at_ => simp [fresh] at at_
    cases due with
    | gated gates at_ within => exact .gated gates ((Pool.set_of_ne apart).trans at_) within
    | sent place at_ later there =>
      exact .sent place ((Pool.set_of_ne apart).trans at_) later there
  | @passed other before after sent at_other passed =>
    obtain ⟨more, log⟩ := passed.log
    by_cases here : emitter = other
    · subst here
      cases due with
      | gated gates at_ within =>
        cases at_other.symm.trans at_
        cases passed with
        | send =>
          refine .sent s.sent.length Pool.set_self within ?_
          simp
        | load _ gates => exact .gated gates Pool.set_self within
        | skip _ _ nobody => exact (somebody nobody).elim
      | sent place at_ =>
        cases at_other.symm.trans at_
        cases passed
    · cases due with
      | gated gates at_ within =>
        refine .gated gates ((Pool.set_of_ne here).trans at_) ?_
        simp only [log, List.length_append]
        omega
      | sent place at_ later there =>
        refine .sent place ((Pool.set_of_ne here).trans at_) later ?_
        have bound := (List.getElem?_eq_some_iff.1 there).1
        simp only [log, List.getElem?_append_left bound, there]

/-- A stream that began at `start`, as its own steps leave it. -/
inductive Began (start : Nat) : Subscription ε → Prop
  | live (next : Nat) (trace : List (Received ε)) : Began start (.live start next trace)
  | uncounted : Began start .uncounted
  | closed : Began start .closed

theorem Began.moved {start : Nat} {before after : Subscription ε} {subscribers : Nat}
    {listeners : Finset Nat} (began : Began start before)
    (moved : Moved config s caller before after subscribers listeners) : Began start after := by
  cases began with
  | live next trace =>
    cases moved with
    | read => exact .live _ _
    | uncount => exact .uncounted
  | uncounted =>
    cases moved
    exact .closed
  | closed => cases moved

/-- The stream is there or gone, and while it is there the emission is due to it. -/
structure Heard (s : Streams ε) (caller emitter : Nat) (event : ε) (start first : Nat) : Prop where
  began : ∃ c, s.subscriptions caller = some c ∧ Began start c ∧
    (c.isCounted = true → Due s emitter event first)

theorem Heard.step {emitter start first : Nat} {event : ε}
    (heard : Heard s caller emitter event start first) (inv : s.Inv config)
    (stepped : Stepped config s t) : Heard t caller emitter event start first := by
  obtain ⟨c, found, began, due⟩ := heard.began
  have kept : c.isCounted = true → Due t emitter event first := fun counted =>
    (due counted).step inv found counted stepped
  cases stepped with
  | @subscribed other fresh =>
    have apart : caller ≠ other := by
      rintro rfl
      rw [fresh] at found
      cases found
    exact ⟨c, (Pool.set_of_ne apart).trans found, began, kept⟩
  | @moved other before after subscribers listeners at_other moved =>
    by_cases here : caller = other
    · subst here
      cases found.symm.trans at_other
      refine ⟨after, Pool.set_self, began.moved moved, fun counted => ?_⟩
      -- a stream that is counted after its step was counted before it
      refine kept ?_
      cases began with
      | live => rfl
      | uncounted =>
        cases moved
        cases counted
      | closed => cases moved
    · exact ⟨c, (Pool.set_of_ne here).trans found, began, kept⟩
  | emitted => exact ⟨c, found, began, kept⟩
  | passed => exact ⟨c, found, began, kept⟩

end Streams

/-! ## Results -/

section Results

variable {ε : Type} {config : StreamConfig ε} {s t : Streams ε}

/-- **The subscriber limit is exact.**  In every state the counter is the number of the calls
that have raised it and of the streams that have not lowered it again, and within the limit; and
a call is refused only if the limit was reached at a moment of the call. -/
theorem subscriber_limit (reached : (streams ε config).Reachable s)
    (fits : config.maxEventSubscribers ≤ Checked.usizeMax) {caller : Nat}
    (fresh : s.subscriptions caller = none)
    (run : (streams ε config).Reaches (fun _ _ => True) s t) :
    (t.subscribers = t.listeners.card ∧ t.subscribers ≤ config.maxEventSubscribers ∧
      ∀ i, i ∈ t.listeners ↔ ∃ c, t.subscriptions i = some c ∧ c.isCounted = true) ∧
    (t.subscriptions caller = some .refused →
      ∃ u, (streams ε config).Reaches (fun _ _ => True) s u ∧
        (streams ε config).Reaches (fun _ _ => True) u t ∧
        u.subscribers = config.maxEventSubscribers) := by
  have inv := Streams.inv_of_reaches (reached.trans run)
  refine ⟨⟨inv.count, inv.bound, inv.counted⟩, fun refused => ?_⟩
  have witnessed := Streams.witnessed_of_reaches reached fits fresh run
  rw [refused] at witnessed
  obtain ⟨u, before, after, full⟩ := witnessed
  have bound := (Streams.inv_of_reaches (reached.trans before)).bound
  exact ⟨u, before, after, Nat.le_antisymm bound full⟩

/-- One subscriber is allowed, and two values are held. -/
def narrowStreams : StreamConfig Nat := ⟨1, false, heldLast 2⟩

/-- Caller 0 gets its stream, and caller 1 is refused. -/
def crowded : List (StreamAction Nat) :=
  List.flatten [[.subscribe 0], List.replicate 3 (.advance 0 false),
    [.subscribe 1, .advance 1 false, .advance 1 false]]

theorem subscriber_limit_crowded :
    ∃ t, (streams Nat narrowStreams).exec (streams Nat narrowStreams).init crowded = some t ∧
      t.subscriptions 1 = some .refused ∧ t.subscribers = t.listeners.card ∧
      ∃ u, (streams Nat narrowStreams).Reachable u ∧
        (streams Nat narrowStreams).Reaches (fun _ _ => True) u t ∧ u.subscribers = 1 := by
  have ends : ((streams Nat narrowStreams).exec (streams Nat narrowStreams).init crowded).map
      (fun t => t.subscriptions 1) = some (some .refused) := by decide +kernel
  obtain ⟨t, run, refused⟩ := Option.map_eq_some_iff.1 ends
  have fresh : (streams Nat narrowStreams).init.subscriptions 1 = none := rfl
  have limit := subscriber_limit .refl (by decide) fresh (.of_schedule _ run)
  exact ⟨t, run, refused, limit.1.1, limit.2 refused⟩

/-- Three events for caller 0, which reads when the first of them is overwritten. -/
def outrun : List (StreamAction Nat) :=
  List.flatten [[.subscribe 0], List.replicate 3 (.advance 0 false),
    [.emit 0 10 .terminal, .emit 1 11 .terminal, .emit 2 12 .captured],
    List.replicate 3 (.pass 0), List.replicate 3 (.pass 1), List.replicate 4 (.pass 2),
    List.replicate 3 (.recv 0)]

/-- What the stream of `outrun` has read at the end. -/
def outrunTrace : List (Received Nat) := [.lagged 1, .value 11, .value 12]

/-- **No event is lost in silence.**  An emission that is under way while a stream is there is
sent, unless the stream is dropped first; and the stream then has it as a value, or has been
told of a gap that it lies in, or has it ahead. -/
theorem emission_reaches_stream (documented : Documented config.receive)
    (reached : (streams ε config).Reachable s)
    (run : (streams ε config).Reaches (fun _ _ => True) s t)
    {caller emitter start next gates start' next' : Nat} {trace trace' : List (Received ε)}
    {event : ε} (listening : s.subscriptions caller = some (.live start next trace))
    (due : s.emissions emitter = some (.gated event gates))
    (still : t.subscriptions caller = some (.live start' next' trace'))
    (over_ : ∀ gates, t.emissions emitter ≠ some (.gated event gates)) :
    ∃ place, t.emissions emitter = some .sent ∧ t.sent[place]? = some event ∧ next ≤ place ∧
      (next' ≤ place ∨
        (∃ before after, trace' = before ++ .value event :: after ∧
          position start before = place) ∨
        ∃ missed before after, trace' = before ++ .lagged missed :: after ∧
          position start before ≤ place ∧ place < position start before + missed) := by
  obtain ⟨within, replays, eq⟩ := Streams.honest_of_reaches documented reached caller _ listening
  have ahead : next ≤ s.sent.length := eq ▸ replays.position_le within
  have later : start ≤ next := eq ▸ le_position start trace
  have heard : Streams.Heard t caller emitter event start next := by
    have both : (streams ε config).Reachable t ∧
        Streams.Heard t caller emitter event start next := by
      refine run.invariant (I := fun t => (streams ε config).Reachable t ∧
        Streams.Heard t caller emitter event start next)
        ⟨reached, ⟨_, listening, .live next trace, fun _ => .gated gates due ahead⟩⟩ ?_
      intro x y action inv _ step
      exact ⟨inv.1.tail trivial step,
        inv.2.step (Streams.inv_of_reaches inv.1) (.of_step step)⟩
    exact both.2
  obtain ⟨c, found, began, sent⟩ := heard.began
  cases still.symm.trans found
  cases began
  obtain ⟨gates', at_, -⟩ | ⟨place, at_, from_, there⟩ := sent rfl
  · exact (over_ gates' at_).elim
  · refine ⟨place, at_, there, from_, ?_⟩
    by_cases passed : place < next'
    · refine Or.inr ?_
      obtain ⟨-, replays', eq'⟩ :=
        Streams.honest_of_reaches documented (reached.trans run) caller _ still
      rcases replays'.accounts (later.trans from_) (eq' ▸ passed) with
        ⟨v, before, after, value, split, at_place⟩ | gap
      · cases value.symm.trans there
        exact Or.inl ⟨before, after, split, at_place⟩
      · exact Or.inr gap
    · exact Or.inl (Nat.le_of_not_lt passed)

theorem emission_reaches_stream_outrun :
    ∃ s t place, (streams Nat narrowStreams).exec (streams Nat narrowStreams).init
        (outrun.take 5) = some s ∧
      (streams Nat narrowStreams).exec s (outrun.drop 5) = some t ∧
      s.emissions 0 = some (.gated 10 2) ∧ t.emissions 0 = some .sent ∧
      t.sent[place]? = some 10 ∧ 0 ≤ place ∧
      (3 ≤ place ∨
        (∃ before after : List (Received Nat), outrunTrace = before ++ .value 10 :: after ∧
          position 0 before = place) ∨
        ∃ (missed : Nat) (before after : List (Received Nat)),
          outrunTrace = before ++ .lagged missed :: after ∧
          position 0 before ≤ place ∧ place < position 0 before + missed) := by
  have begins : ((streams Nat narrowStreams).exec (streams Nat narrowStreams).init
      (outrun.take 5)).map (fun s => (s.subscriptions 0, s.emissions 0)) =
      some (some (.live 0 0 []), some (.gated 10 2)) := by decide +kernel
  have ends : ((streams Nat narrowStreams).exec (streams Nat narrowStreams).init
      (outrun.take 5 ++ outrun.drop 5)).map (fun s => (s.subscriptions 0, s.emissions 0)) =
      some (some (.live 0 3 outrunTrace), some .sent) := by decide +kernel
  obtain ⟨s, first, at_s⟩ := Option.map_eq_some_iff.1 begins
  obtain ⟨t, run, at_t⟩ := Option.map_eq_some_iff.1 ends
  rw [System.exec_append, first] at run
  obtain ⟨listening, due⟩ := Prod.mk.inj at_s
  obtain ⟨still, sent⟩ := Prod.mk.inj at_t
  obtain ⟨place, reaches⟩ := emission_reaches_stream (documented_heldLast 2)
    (.of_schedule _ first) (.of_schedule _ run) listening due still (by rw [sent]; simp)
  exact ⟨s, t, place, first, run, due, reaches⟩

end Results

end BusyBeaver
