import Mathlib.Data.List.Induction
import Mathlib.Tactic.Common

/-!
# Broadcast channels

A channel hands every value to every receiver.  A receiver has the position of the value it
reads next; what a read answers is a parameter, of which only what is `Documented` is used: it
is the value at that position, or says how many values were overwritten before it.  `Replays`
ties what a receiver has obtained to the log of the channel: value by value, with every gap
announced at its length.

Rules: a longer log replays the same (`Replays.append_log`), a read extends the replay
(`Replays.receive`), and each position that was passed was delivered or announced as missed
(`Replays.accounts`).  `heldLast` is the channel that holds its last values.
-/

namespace Broadcast

universe u

variable {ε : Type u}

/-- What one read obtains. -/
inductive Received (ε : Type u) : Type u
  | value (v : ε)
  /-- So many values were overwritten before the receiver came to read them. -/
  | lagged (missed : Nat)
  deriving DecidableEq

namespace Received

/-- The number of values of the log the answer stands for. -/
def span : Received ε → Nat
  | .value _ => 1
  | .lagged missed => missed

end Received

/-- The next read of a receiver of the log at a position, with its position afterwards; `none`
while there is nothing to read. -/
abbrev Receive (ε : Type u) : Type u := List ε → Nat → Option (Received ε × Nat)

/-- What is documented of a read: it hands out the value it comes to, or the number of those
that were overwritten, and the receiver is then past what it was told of. -/
structure Documented (receive : Receive ε) : Prop where
  value : ∀ {sent next v p}, receive sent next = some (.value v, p) →
    sent[next]? = some v ∧ p = next + 1
  lagged : ∀ {sent next missed p}, receive sent next = some (.lagged missed, p) →
    0 < missed ∧ p = next + missed ∧ p ≤ sent.length

/-- The reads of a channel that holds its last `capacity` values. -/
def heldLast (capacity : Nat) : Receive ε := fun sent next =>
  let oldest := sent.length - capacity
  if next < oldest then some (.lagged (oldest - next), oldest)
  else (sent[next]?).map fun v => (.value v, next + 1)

theorem documented_heldLast (capacity : Nat) : Documented (heldLast capacity : Receive ε) where
  value read := by
    unfold heldLast at read
    dsimp only at read
    split at read
    · cases read
    · obtain ⟨v, at_, eq⟩ := Option.map_eq_some_iff.1 read
      cases eq
      exact ⟨at_, rfl⟩
  lagged read := by
    unfold heldLast at read
    dsimp only at read
    split at read
    · cases read
      exact ⟨by omega, by omega, by omega⟩
    · obtain ⟨v, -, eq⟩ := Option.map_eq_some_iff.1 read
      cases eq

/-- The position a receiver that began at `start` has come to with `trace`. -/
def position (start : Nat) (trace : List (Received ε)) : Nat :=
  trace.foldl (fun position r => position + r.span) start

@[simp] theorem position_nil (start : Nat) : position start ([] : List (Received ε)) = start := rfl

@[simp] theorem position_snoc (start : Nat) (trace : List (Received ε)) (r : Received ε) :
    position start (trace ++ [r]) = position start trace + r.span := by
  simp [position]

theorem le_position (start : Nat) (trace : List (Received ε)) : start ≤ position start trace := by
  induction trace using List.reverseRecOn with
  | nil => exact Nat.le_refl start
  | append_singleton trace r ih =>
    rw [position_snoc]
    omega

/-- A receiver that began at `start` has obtained `trace` of the log `sent`. -/
inductive Replays (sent : List ε) (start : Nat) : List (Received ε) → Prop
  | nil : Replays sent start []
  | value {trace : List (Received ε)} {v : ε} : Replays sent start trace →
    sent[position start trace]? = some v → Replays sent start (trace ++ [.value v])
  | lagged {trace : List (Received ε)} {missed : Nat} : Replays sent start trace →
    0 < missed → position start trace + missed ≤ sent.length →
    Replays sent start (trace ++ [.lagged missed])

namespace Replays

variable {sent more : List ε} {start p : Nat} {read : Receive ε} {trace : List (Received ε)}
  {r : Received ε}

/-- What was obtained of a log was obtained of every longer one. -/
theorem append_log (replays : Replays sent start trace) : Replays (sent ++ more) start trace := by
  induction replays with
  | nil => exact .nil
  | value _ at_ ih =>
    refine .value ih ?_
    rw [List.getElem?_append_left (List.getElem?_eq_some_iff.1 at_).1, at_]
  | lagged _ positive within ih =>
    refine .lagged ih positive ?_
    rw [List.length_append]
    omega

/-- A read extends the replay. -/
theorem receive (replays : Replays sent start trace) (documented : Documented read)
    (got : read sent (position start trace) = some (r, p)) :
    Replays sent start (trace ++ [r]) ∧ p = position start (trace ++ [r]) := by
  rw [position_snoc]
  cases r with
  | value v =>
    obtain ⟨at_, eq⟩ := documented.value got
    exact ⟨.value replays at_, eq⟩
  | lagged missed =>
    obtain ⟨positive, eq, within⟩ := documented.lagged got
    exact ⟨.lagged replays positive (eq ▸ within), eq⟩

theorem position_le (replays : Replays sent start trace) (within : start ≤ sent.length) :
    position start trace ≤ sent.length := by
  cases replays with
  | nil => exact within
  | value _ at_ =>
    have bound := (List.getElem?_eq_some_iff.1 at_).1
    rw [position_snoc, Received.span]
    omega
  | lagged _ _ within =>
    rw [position_snoc, Received.span]
    exact within

/-- Each position that was passed was delivered, or announced as missed. -/
theorem accounts (replays : Replays sent start trace) {k : Nat} (from_ : start ≤ k)
    (passed : k < position start trace) :
    (∃ v before after, sent[k]? = some v ∧ trace = before ++ .value v :: after ∧
      position start before = k) ∨
    ∃ missed before after, trace = before ++ .lagged missed :: after ∧
      position start before ≤ k ∧ k < position start before + missed := by
  induction replays with
  | nil =>
    rw [position_nil] at passed
    omega
  | @value trace v _ at_ ih =>
    rw [position_snoc, Received.span] at passed
    by_cases here : k = position start trace
    · subst here
      exact Or.inl ⟨v, trace, [], at_, rfl, rfl⟩
    · rcases ih (by omega) with ⟨w, before, after, found, rfl, place⟩ |
        ⟨missed, before, after, rfl, place⟩
      · exact Or.inl ⟨w, before, after ++ [.value v], found, by simp, place⟩
      · exact Or.inr ⟨missed, before, after ++ [.value v], by simp, place⟩
  | @lagged trace n _ _ _ ih =>
    rw [position_snoc, Received.span] at passed
    by_cases here : position start trace ≤ k
    · exact Or.inr ⟨n, trace, [], rfl, here, passed⟩
    · rcases ih (by omega) with ⟨w, before, after, found, rfl, place⟩ |
        ⟨missed, before, after, rfl, place⟩
      · exact Or.inl ⟨w, before, after ++ [.lagged n], found, by simp, place⟩
      · exact Or.inr ⟨missed, before, after ++ [.lagged n], by simp, place⟩

end Replays

end Broadcast
