import Mathlib.Algebra.Order.Group.MinMax
import Mathlib.Algebra.Order.Round
import Mathlib.Algebra.Order.Field.Basic
import Mathlib.Data.Rat.Floor
import Mathlib.Tactic.Linarith
import Mathlib.Tactic.Ring

/-!
# Rounding and saturation

Mathlib's `round` sends a half upward. `Rounding.away` sends a half away from zero, so the two differ only at a negative
half-way value, and there by one. `Rounding.saturate` cuts an integer to a range; cutting before rounding
(`Rounding.clampAway`) gives what cutting after rounding gives, because the ends of the range are integers.
-/

namespace Rounding

/-- Cut an integer to the range from `lo` to `hi`. -/
def saturate (lo hi z : ℤ) : ℤ := max lo (min hi z)

theorem lo_le_saturate (lo hi z : ℤ) : lo ≤ saturate lo hi z := le_max_left _ _

theorem saturate_le_hi {lo hi : ℤ} (h : lo ≤ hi) (z : ℤ) : saturate lo hi z ≤ hi :=
  max_le h (min_le_left _ _)

/-- A value of the range is left alone. -/
theorem saturate_of_mem {lo hi z : ℤ} (h₁ : lo ≤ z) (h₂ : z ≤ hi) : saturate lo hi z = z := by
  rw [saturate, min_eq_right h₂, max_eq_right h₁]

/-- Cutting at the lower end first makes no difference. -/
theorem saturate_max (lo hi z : ℤ) : saturate lo hi (max lo z) = saturate lo hi z := by
  unfold saturate
  omega

/-- Saturation brings two integers no further apart. -/
theorem abs_saturate_sub_le (lo hi a b : ℤ) : |saturate lo hi a - saturate lo hi b| ≤ |a - b| := by
  simp only [saturate, max_def, min_def, abs_le, le_abs]
  split_ifs <;> omega

variable {K : Type*} [Field K] [LinearOrder K] [IsStrictOrderedRing K] [FloorRing K]

/-- Round to the nearest integer, a half away from zero. -/
def away (x : K) : ℤ := if 0 ≤ x then round x else -round (-x)

/-- `x` is half-way between two integers. -/
def IsTie (x : K) : Prop := ∃ n : ℤ, x = n + 1 / 2

/-- Cut to the range, then round: a value beyond an end is that end. -/
def clampAway (lo hi : ℤ) (x : K) : ℤ := if x < lo then lo else if (hi : K) < x then hi else away x

omit [IsStrictOrderedRing K] in
theorem away_of_nonneg {x : K} (h : 0 ≤ x) : away x = round x := if_pos h

/-- `round` puts its argument in the half-open interval around the result. -/
theorem round_bounds (x : K) : (round x : K) - 1 / 2 ≤ x ∧ x < (round x : K) + 1 / 2 := by
  have h := (round_eq_iff (x := x) (n := round x)).1 rfl
  exact ⟨h.1, h.2⟩

/-- Rounding keeps the order. -/
theorem round_le_round {x y : K} (h : x ≤ y) : round x ≤ round y := by
  rw [round_eq, round_eq]
  exact Int.floor_le_floor (by linarith)

/-- Away from a tie, rounding commutes with negation. -/
theorem round_neg_of_not_tie {x : K} (h : ¬IsTie x) : round (-x) = -round x := by
  obtain ⟨h₁, h₂⟩ := round_bounds x
  have hne : x ≠ (round x : K) - 1 / 2 := by
    intro he
    refine h ⟨round x - 1, ?_⟩
    push_cast
    linarith
  have hlt : (round x : K) - 1 / 2 < x := lt_of_le_of_ne h₁ hne.symm
  rw [round_eq_iff]
  push_cast
  constructor <;> linarith

/-- The two ways to round agree on every value that is not half-way. -/
theorem away_eq_round {x : K} (h : ¬IsTie x) : away x = round x := by
  by_cases hx : 0 ≤ x
  · exact away_of_nonneg hx
  · rw [away, if_neg hx, round_neg_of_not_tie h, neg_neg]

/-- At a negative tie, rounding away from zero is one below rounding upward. -/
theorem away_of_neg_tie {x : K} (hx : x < 0) (h : IsTie x) : away x = round x - 1 := by
  obtain ⟨n, rfl⟩ := h
  have h₁ : round ((n : K) + 1 / 2) = n + 1 := by
    rw [round_eq_iff]
    push_cast
    constructor <;> linarith
  have h₂ : round (-((n : K) + 1 / 2)) = -n := by
    rw [round_eq_iff]
    push_cast
    constructor <;> linarith
  rw [away, if_neg (not_le.2 hx), h₁, h₂]
  omega

/-- The two ways to round are never more than one apart. -/
theorem abs_away_sub_round_le (x : K) : |away x - round x| ≤ 1 := by
  by_cases h : IsTie x
  · rcases lt_or_ge x 0 with hx | hx
    · rw [away_of_neg_tie hx h]
      simp
    · rw [away_of_nonneg hx]
      simp
  · rw [away_eq_round h]
    simp

/-- The result is a nearest integer. -/
theorem abs_away_sub_le (x : K) : |(away x : K) - x| ≤ 1 / 2 := by
  unfold away
  split_ifs with h
  · rw [abs_sub_comm]
    exact abs_sub_round x
  · have hr := abs_sub_round (-x)
    have he : ((-round (-x) : ℤ) : K) - x = -x - (round (-x) : K) := by
      push_cast
      ring
    rwa [he]

/-- An integer is its own rounding. -/
@[simp] theorem away_intCast (n : ℤ) : away (n : K) = n := by
  unfold away
  split_ifs
  · exact round_intCast n
  · rw [← Int.cast_neg, round_intCast, neg_neg]

/-- An integer is not half-way. -/
theorem not_isTie_intCast (n : ℤ) : ¬IsTie (n : K) := by
  rintro ⟨m, h⟩
  have h₂ : ((2 * n : ℤ) : K) = ((2 * m + 1 : ℤ) : K) := by
    push_cast
    linarith
  have h₃ : 2 * n = 2 * m + 1 := by exact_mod_cast h₂
  omega

theorem away_le_of_le {x : K} {n : ℤ} (h : x ≤ n) : away x ≤ n := by
  have h₁ := (abs_le.1 (abs_away_sub_le x)).2
  have h₂ : (away x : K) < ((n + 1 : ℤ) : K) := by
    push_cast
    linarith
  have h₃ : away x < n + 1 := by exact_mod_cast h₂
  omega

theorem le_away_of_le {x : K} {n : ℤ} (h : (n : K) ≤ x) : n ≤ away x := by
  have h₁ := (abs_le.1 (abs_away_sub_le x)).1
  have h₂ : ((n - 1 : ℤ) : K) < (away x : K) := by
    push_cast
    linarith
  have h₃ : n - 1 < away x := by exact_mod_cast h₂
  omega

/-- Cutting before rounding is cutting after rounding. -/
theorem clampAway_eq_saturate {lo hi : ℤ} (h : lo ≤ hi) (x : K) : clampAway lo hi x = saturate lo hi (away x) := by
  unfold clampAway
  split_ifs with h₁ h₂
  · have := away_le_of_le h₁.le
    simp only [saturate]
    omega
  · have := le_away_of_le h₂.le
    simp only [saturate]
    omega
  · exact (saturate_of_mem (le_away_of_le (not_lt.1 h₁)) (away_le_of_le (not_lt.1 h₂))).symm

/-- An integer is only cut. -/
theorem clampAway_intCast {lo hi : ℤ} (h : lo ≤ hi) (n : ℤ) : clampAway lo hi (n : K) = saturate lo hi n := by
  rw [clampAway_eq_saturate h, away_intCast]

/-- Cutting then rounding away, and rounding upward then cutting, agree on every value that is not half-way. -/
theorem clampAway_eq_saturate_round {lo hi : ℤ} (h : lo ≤ hi) {x : K} (hx : ¬IsTie x) :
    clampAway lo hi x = saturate lo hi (round x) := by
  rw [clampAway_eq_saturate h, away_eq_round hx]

/-- ... and are never more than one apart. -/
theorem abs_clampAway_sub_saturate_round_le {lo hi : ℤ} (h : lo ≤ hi) (x : K) :
    |clampAway lo hi x - saturate lo hi (round x)| ≤ 1 := by
  rw [clampAway_eq_saturate h]
  exact (abs_saturate_sub_le lo hi _ _).trans (abs_away_sub_round_le x)

/-- Saturating a nearest integer gives an integer nearest to the saturated value. -/
theorem abs_clampAway_sub_clamp_le {lo hi : ℤ} (h : lo ≤ hi) (x : K) :
    |(clampAway lo hi x : K) - max (lo : K) (min (hi : K) x)| ≤ 1 / 2 := by
  rw [clampAway_eq_saturate h, saturate]
  push_cast
  rw [max_comm (lo : K), max_comm (lo : K), min_comm (hi : K), min_comm (hi : K)]
  refine (abs_max_sub_max_le_abs _ _ _).trans ((abs_min_sub_min_le_max _ _ _ _).trans ?_)
  simpa using abs_away_sub_le x

/-! ## Quanta -/

/-- `y` is the nearest to `x` of the multiples of a quantum `1 / scale` from `lo` to `hi` quanta, the upper of two. -/
def IsNearest (lo hi : ℤ) (scale x y : K) : Prop :=
  (∃ n : ℤ, lo ≤ n ∧ n ≤ hi ∧ y = n / scale) ∧
    ∀ n : ℤ, lo ≤ n → n ≤ hi → |y - x| ≤ |n / scale - x| ∧ (|y - x| = |n / scale - x| → n / scale ≤ y)

theorem round_le_of_lt {x : K} {n : ℤ} (h : x < n) : round x ≤ n := by
  simpa using round_le_round h.le

theorem le_round_of_lt {x : K} {n : ℤ} (h : (n : K) < x) : n ≤ round x := by
  simpa using round_le_round h.le

/-- No integer of the range is nearer than the rounded one, cut to the range; of two as near it is the upper one. -/
theorem saturate_round_nearest {lo hi : ℤ} (x : K) {n : ℤ} (h₁ : lo ≤ n) (h₂ : n ≤ hi) :
    |(saturate lo hi (round x) : K) - x| ≤ |(n : K) - x| ∧
      (|(saturate lo hi (round x) : K) - x| = |(n : K) - x| → n ≤ saturate lo hi (round x)) := by
  obtain ⟨hlo, hhi⟩ := round_bounds x
  rcases lt_trichotomy n (saturate lo hi (round x)) with hn | rfl | hn
  · -- an integer below: then the result is at most the rounded value
    have hr : saturate lo hi (round x) ≤ round x := by
      simp only [saturate] at hn ⊢
      omega
    have hc : ((n + 1 : ℤ) : K) ≤ saturate lo hi (round x) := Int.cast_le.2 (by omega)
    have hr' : (saturate lo hi (round x) : K) ≤ round x := Int.cast_le.2 hr
    push_cast at hc
    have hx : |(n : K) - x| = x - n := by
      rw [abs_sub_comm]
      exact abs_of_nonneg (by linarith)
    rw [hx]
    exact ⟨abs_le.2 ⟨by linarith, by linarith⟩, fun _ => hn.le⟩
  · exact ⟨le_rfl, fun _ => le_rfl⟩
  · -- an integer above: then the rounded value is at most the result, and the distance is strictly more
    have hr : round x ≤ saturate lo hi (round x) := by
      simp only [saturate] at hn ⊢
      omega
    have hc : (saturate lo hi (round x) : K) + 1 ≤ n := by exact_mod_cast (by omega : saturate lo hi (round x) + 1 ≤ n)
    have hr' : (round x : K) ≤ saturate lo hi (round x) := Int.cast_le.2 hr
    have hx : |(n : K) - x| = n - x := abs_of_nonneg (by linarith)
    have hlt : |(saturate lo hi (round x) : K) - x| < n - x := abs_lt.2 ⟨by linarith, by linarith⟩
    rw [hx]
    exact ⟨hlt.le, fun he => absurd he hlt.ne⟩

/-- Scaling, rounding, cutting and scaling back give the nearest value. -/
theorem isNearest_saturate_round {lo hi : ℤ} (h : lo ≤ hi) {scale : K} (hs : 0 < scale) (x : K) :
    IsNearest lo hi scale x (saturate lo hi (round (x * scale)) / scale) := by
  have hdist : ∀ m : ℤ, |(m : K) / scale - x| = |(m : K) - x * scale| / scale := by
    intro m
    rw [← abs_of_pos hs, ← abs_div, abs_of_pos hs, sub_div, mul_div_cancel_right₀ _ hs.ne']
  refine ⟨⟨_, lo_le_saturate lo hi _, saturate_le_hi h _, rfl⟩, fun n h₁ h₂ => ?_⟩
  obtain ⟨hle, hup⟩ := saturate_round_nearest (x * scale) h₁ h₂
  rw [hdist, hdist]
  refine ⟨by gcongr, fun he => ?_⟩
  have := hup ((div_left_inj' hs.ne').1 he)
  gcongr

/-- Below the range it is the lower end. -/
theorem saturate_round_of_lt {lo hi : ℤ} {scale x : K} (hs : 0 < scale) (hx : x < lo / scale) :
    saturate lo hi (round (x * scale)) = lo := by
  have := round_le_of_lt ((lt_div_iff₀ hs).1 hx)
  simp only [saturate]
  omega

/-- Above the range it is the upper end. -/
theorem saturate_round_of_gt {lo hi : ℤ} (h : lo ≤ hi) {scale x : K} (hs : 0 < scale) (hx : hi / scale < x) :
    saturate lo hi (round (x * scale)) = hi := by
  have := le_round_of_lt ((div_lt_iff₀ hs).1 hx)
  simp only [saturate]
  omega

/-- Within the range it is at most half a quantum away. -/
theorem abs_saturate_round_sub_le {lo hi : ℤ} {scale x : K} (hs : 0 < scale) (h₁ : lo / scale ≤ x) (h₂ : x ≤ hi / scale) :
    |(saturate lo hi (round (x * scale)) : K) / scale - x| ≤ 1 / (2 * scale) := by
  have hlo : lo ≤ round (x * scale) := by simpa using round_le_round ((div_le_iff₀ hs).1 h₁)
  have hhi : round (x * scale) ≤ hi := by simpa using round_le_round ((le_div_iff₀ hs).1 h₂)
  have hhalf := abs_sub_round (x * scale)
  rw [abs_sub_comm] at hhalf
  rw [saturate_of_mem hlo hhi]
  calc |(round (x * scale) : K) / scale - x|
      = |(round (x * scale) : K) - x * scale| / scale := by
        rw [← abs_of_pos hs, ← abs_div, abs_of_pos hs, sub_div, mul_div_cancel_right₀ _ hs.ne']
    _ ≤ 1 / 2 / scale := by gcongr
    _ = 1 / (2 * scale) := by rw [div_div]

end Rounding
