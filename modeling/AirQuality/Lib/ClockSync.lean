import Mathlib.Algebra.Order.Field.Basic
import Mathlib.Tactic.Linarith
import Mathlib.Tactic.Ring

/-!
# Telling another machine's time

A machine asks another for its time, and takes the answer to have been given half-way through the round trip. With the offset it
works out (`RoundTrip.offset`) its own clock tells the other's time to within half of the round trip and what the two clocks have
drifted apart since, however far apart they are (`RoundTrip.abs_reading_sub_le`).
-/

/-- A question for the time and its answer, by the asker's clock (`sent`, `answered`) and by the clock that is asked for (`sentAt`,
`answeredAt`); `stamp` is the time in the answer. -/
structure RoundTrip (K : Type*) where
  sent : K
  sentAt : K
  stamp : K
  answered : K
  answeredAt : K

namespace RoundTrip

/-- The answer is stamped between the question and its arrival. -/
structure InOrder {K : Type*} [LE K] (r : RoundTrip K) : Prop where
  sent_le : r.sentAt ≤ r.stamp
  le_answered : r.stamp ≤ r.answeredAt

variable {K : Type*} [Field K] [LinearOrder K] [IsStrictOrderedRing K]

/-- What the asker adds to its own clock. -/
def offset (r : RoundTrip K) : K := r.stamp - (r.sent + r.answered) / (2 : ℕ)

/-- How long the answer took, by the clock that is asked for. -/
def length (r : RoundTrip K) : K := r.answeredAt - r.sentAt

/-- How far the asker's clock was ahead, at the two ends on average. -/
def skew (r : RoundTrip K) : K := ((r.sent - r.sentAt) + (r.answered - r.answeredAt)) / (2 : ℕ)

/-- At both ends the asker's clock was ahead by `δ`, give or take `ε`. -/
structure Steady (δ ε : K) (r : RoundTrip K) : Prop where
  sent : |r.sent - r.sentAt - δ| ≤ ε
  answered : |r.answered - r.answeredAt - δ| ≤ ε

/-- The stamp is no further from the middle of the round trip than its ends are. -/
theorem abs_stamp_sub_le {r : RoundTrip K} (h : r.InOrder) : |r.stamp - (r.sentAt + r.answeredAt) / 2| ≤ r.length / 2 := by
  have hsent := h.sent_le
  have hanswered := h.le_answered
  unfold length
  rw [abs_le]
  constructor <;> linarith

/-- The asker's clock with the offset is wrong by half of the round trip at most, and by the drift. -/
theorem abs_reading_sub_le {r : RoundTrip K} (h : r.InOrder) (own other : K) :
    |own + r.offset - other| ≤ r.length / 2 + |own - other - r.skew| := by
  have hsplit : own + r.offset - other = (r.stamp - (r.sentAt + r.answeredAt) / 2) + (own - other - r.skew) := by
    unfold offset skew
    rw [Nat.cast_ofNat]
    ring
  calc |own + r.offset - other|
      = |(r.stamp - (r.sentAt + r.answeredAt) / 2) + (own - other - r.skew)| := by rw [hsplit]
    _ ≤ |r.stamp - (r.sentAt + r.answeredAt) / 2| + |own - other - r.skew| := abs_add_le _ _
    _ ≤ r.length / 2 + |own - other - r.skew| := by
      have hstamp := abs_stamp_sub_le h
      linarith

/-- A clock that stays ahead by `δ`, give or take `ε`, has drifted by no more than `2 * ε`. -/
theorem Steady.abs_drift_le {δ ε : K} {r : RoundTrip K} (h : r.Steady δ ε) {own other : K} (hnow : |own - other - δ| ≤ ε) :
    |own - other - r.skew| ≤ 2 * ε := by
  obtain ⟨hsent₁, hsent₂⟩ := abs_le.1 h.sent
  obtain ⟨hanswered₁, hanswered₂⟩ := abs_le.1 h.answered
  obtain ⟨hnow₁, hnow₂⟩ := abs_le.1 hnow
  unfold skew
  rw [abs_le, Nat.cast_ofNat]
  constructor <;> linarith

end RoundTrip
