import AirQuality.Domain.Aqi
import AirQuality.Lib.Bands
import Mathlib.Data.List.Chain
import Mathlib.Tactic.IntervalCases
import Mathlib.Tactic.NormNum

/-!
# The law of the air quality index

`calculateAqi` over all concentrations. The lookup in a breakpoint table is `Bands.lookup`; `Table` says what the two tables have
in common, and the rest is proved of any such table.
-/

namespace AirQuality

/-- The linear interpolation of a band, before it is rounded. -/
def Breakpoint.interpolate (b : Breakpoint) (c : ℚ) : ℚ := (b.iHigh - b.iLow) / (b.cHigh - b.cLow) * (c - b.cLow) + b.iLow

/-- The index of a band at a concentration: the interpolation at the nearest value of the band, rounded. -/
def Breakpoint.index (b : Breakpoint) (c : ℚ) : ℤ := round (b.interpolate (min (max c b.cLow) b.cHigh))

theorem subIndex_eq (c : ℚ) (breakpoints : List Breakpoint) (truncate : ℚ → ℚ) :
    subIndex c breakpoints truncate =
      (breakpointOf (truncate (max 0 c)) breakpoints).index (truncate (max 0 c)) := rfl

/-- The concentration is in band `k` of a table: between its ends, or above the top of the last. -/
def InBand (breakpoints : List Breakpoint) (k : ℕ) (c : ℚ) : Prop :=
  ∃ b, breakpoints[k]? = some b ∧ b.cLow ≤ c ∧ (c ≤ b.cHigh ∨ k + 1 = breakpoints.length)

/-- The categories, from the best to the worst: band `k` of a table has category `k`. -/
def aqiCategories : List AqiCategory := [.good, .moderate, .unhealthySensitive, .unhealthy, .veryUnhealthy, .hazardous]

/-- The ends of the index range of each band. -/
def aqiRanges : List (ℤ × ℤ) := [(0, 50), (51, 100), (101, 150), (151, 200), (201, 300), (301, 500)]

/-- The sub-index of a pollutant. -/
def Pollutant.subIndex (pm25 pm10 : ℚ) : Pollutant → ℤ
  | .pm25 => AirQuality.subIndex pm25 pm25Breakpoints truncPm25
  | .pm10 => AirQuality.subIndex pm10 pm10Breakpoints truncPm10

/-! ## Index ranges -/

theorem aqiRanges_le : ∀ r ∈ aqiRanges, r.1 ≤ r.2 := by decide

theorem aqiRanges_bounds : ∀ r ∈ aqiRanges, 0 ≤ r.1 ∧ r.2 ≤ 500 := by decide

/-- The ranges follow one another. -/
theorem aqiRanges_lt {j k : ℕ} (hjk : j < k) {r s : ℤ × ℤ} (hr : aqiRanges[j]? = some r) (hs : aqiRanges[k]? = some s) :
    r.2 < s.1 := by
  have hpairwise : aqiRanges.Pairwise (fun r s => r.2 < s.1) := by decide
  obtain ⟨hj, rfl⟩ := List.getElem?_eq_some_iff.1 hr
  obtain ⟨hk, rfl⟩ := List.getElem?_eq_some_iff.1 hs
  exact List.pairwise_iff_getElem.1 hpairwise j k hj hk hjk

/-- An index of range `k` has category `k`. -/
theorem aqiCategory_of_range {k : ℕ} {r : ℤ × ℤ} (hr : aqiRanges[k]? = some r) {z : ℤ} (hlow : r.1 ≤ z) (hhigh : z ≤ r.2) :
    aqiCategories[k]? = some (aqiCategory z) := by
  have hk : k < 6 := (List.getElem?_eq_some_iff.1 hr).1
  unfold aqiCategory
  interval_cases k <;> obtain rfl := Option.some.inj hr <;> dsimp only at hlow hhigh
  · rw [if_pos hhigh]; rfl
  · rw [if_neg (by omega), if_pos hhigh]; rfl
  · rw [if_neg (by omega), if_neg (by omega), if_pos hhigh]; rfl
  · rw [if_neg (by omega), if_neg (by omega), if_neg (by omega), if_pos hhigh]; rfl
  · rw [if_neg (by omega), if_neg (by omega), if_neg (by omega), if_neg (by omega), if_pos hhigh]; rfl
  · rw [if_neg (by omega), if_neg (by omega), if_neg (by omega), if_neg (by omega), if_neg (by omega)]; rfl

/-- The greater of two indices is in the later of their ranges. -/
theorem aqiCategory_max {j k : ℕ} {r s : ℤ × ℤ} (hr : aqiRanges[j]? = some r) (hs : aqiRanges[k]? = some s) {y z : ℤ}
    (hy : r.1 ≤ y ∧ y ≤ r.2) (hz : s.1 ≤ z ∧ z ≤ s.2) : aqiCategories[max j k]? = some (aqiCategory (max y z)) := by
  rcases Nat.lt_trichotomy j k with hjk | rfl | hkj
  · have hlt := aqiRanges_lt hjk hr hs
    rw [Nat.max_eq_right hjk.le, max_eq_right (by omega)]
    exact aqiCategory_of_range hs hz.1 hz.2
  · rw [Nat.max_self]
    obtain rfl := Option.some.inj (hr.symm.trans hs)
    exact aqiCategory_of_range hr (by omega) (by omega)
  · have hlt := aqiRanges_lt hkj hs hr
    rw [Nat.max_eq_left hkj.le, max_eq_left (by omega)]
    exact aqiCategory_of_range hr hy.1 hy.2

/-! ## Breakpoint tables -/

/-- A table of breakpoints for concentrations on a grid of step `1 / res`: its bands are not empty, the first starts at 0, each
of the others one step above the end of the one before it, and their index ranges are `aqiRanges`. -/
structure Table (breakpoints : List Breakpoint) (res : ℚ) : Prop where
  res_pos : 0 < res
  start : ∀ b, breakpoints[0]? = some b → b.cLow = 0
  width : ∀ b ∈ breakpoints, b.cLow < b.cHigh
  below : breakpoints.Pairwise (fun a b => a.cHigh < b.cLow)
  step : breakpoints.IsChain (fun a b => ∃ m : ℤ, a.cHigh = m / res ∧ b.cLow = (m + 1) / res)
  ranges : breakpoints.map (fun b => (b.iLow, b.iHigh)) = aqiRanges.map (fun r => ((r.1 : ℚ), (r.2 : ℚ)))

theorem pm25Table : Table pm25Breakpoints 10 where
  res_pos := by norm_num
  start := by
    intro b hb
    obtain rfl := Option.some.inj hb
    rfl
  width := by simp only [pm25Breakpoints, List.forall_mem_cons]; norm_num
  below := by simp only [pm25Breakpoints, List.pairwise_cons, List.forall_mem_cons]; norm_num
  step := by
    simp only [pm25Breakpoints, List.isChain_cons_cons, List.isChain_singleton, and_true]
    exact ⟨⟨90, by norm_num⟩, ⟨354, by norm_num⟩, ⟨554, by norm_num⟩, ⟨1254, by norm_num⟩, ⟨2254, by norm_num⟩⟩
  ranges := by simp [pm25Breakpoints, aqiRanges]

theorem pm10Table : Table pm10Breakpoints 1 where
  res_pos := by norm_num
  start := by
    intro b hb
    obtain rfl := Option.some.inj hb
    rfl
  width := by simp only [pm10Breakpoints, List.forall_mem_cons]; norm_num
  below := by simp only [pm10Breakpoints, List.pairwise_cons, List.forall_mem_cons]; norm_num
  step := by
    simp only [pm10Breakpoints, List.isChain_cons_cons, List.isChain_singleton, and_true]
    exact ⟨⟨54, by norm_num⟩, ⟨154, by norm_num⟩, ⟨254, by norm_num⟩, ⟨354, by norm_num⟩, ⟨424, by norm_num⟩⟩
  ranges := by simp [pm10Breakpoints, aqiRanges]

section

variable {breakpoints : List Breakpoint} {res : ℚ} (h : Table breakpoints res)
include h

theorem Table.length_eq : breakpoints.length = 6 := by
  have hlength := congrArg List.length h.ranges
  simpa [aqiRanges] using hlength

theorem Table.ne_nil : breakpoints ≠ [] := by
  rintro rfl
  have hlength := h.length_eq
  simp at hlength

/-- The index range of band `k`. -/
theorem Table.range {k : ℕ} {b : Breakpoint} (hb : breakpoints[k]? = some b) :
    ∃ r, aqiRanges[k]? = some r ∧ b.iLow = r.1 ∧ b.iHigh = r.2 := by
  have hk := congrArg (·[k]?) h.ranges
  simp only [List.getElem?_map, hb, Option.map_some] at hk
  obtain ⟨r, hr, heq⟩ := Option.map_eq_some_iff.1 hk.symm
  obtain ⟨hlow, hhigh⟩ := Prod.mk.inj heq
  exact ⟨r, hr, hlow.symm, hhigh.symm⟩

/-- A band ends below the start of a later one. -/
theorem Table.cHigh_lt {j k : ℕ} (hjk : j < k) {a b : Breakpoint} (ha : breakpoints[j]? = some a)
    (hb : breakpoints[k]? = some b) : a.cHigh < b.cLow := by
  obtain ⟨hj, rfl⟩ := List.getElem?_eq_some_iff.1 ha
  obtain ⟨hk, rfl⟩ := List.getElem?_eq_some_iff.1 hb
  exact List.pairwise_iff_getElem.1 h.below j k hj hk hjk

/-- A concentration on the grid is in one of the bands: none falls between two of them. -/
theorem Table.inBand (n : ℤ) (hn : 0 ≤ n) :
    ∃ k, breakpoints[k]? = some (breakpointOf (n / res) breakpoints) ∧ InBand breakpoints k (n / res) := by
  obtain ⟨k, hk, hbelow, htop⟩ := Bands.lookup_spec Breakpoint.cHigh ⟨0, 0, 0, 0⟩ (n / res : ℚ) h.ne_nil
  refine ⟨k, hk, _, hk, ?_, htop⟩
  cases k with
  | zero =>
    rw [h.start _ hk]
    exact div_nonneg (by exact_mod_cast hn) h.res_pos.le
  | succ k =>
    obtain ⟨hlt, hget⟩ := List.getElem?_eq_some_iff.1 hk
    obtain ⟨m, hhigh, hlow⟩ := List.isChain_iff_getElem.1 h.step k hlt
    have hprev := hbelow k (Nat.lt_succ_self k) _ (List.getElem?_eq_getElem (Nat.lt_of_succ_lt hlt))
    rw [hhigh, div_lt_div_iff_of_pos_right h.res_pos] at hprev
    have hmn : m + 1 ≤ n := by exact_mod_cast hprev
    rw [← hget, hlow, div_le_div_iff_of_pos_right h.res_pos]
    exact_mod_cast hmn

/-- The lookup finds the band a concentration is in. -/
theorem Table.breakpointOf_eq {k : ℕ} {c : ℚ} {b : Breakpoint} (hk : breakpoints[k]? = some b) (hlow : b.cLow ≤ c)
    (htop : c ≤ b.cHigh ∨ k + 1 = breakpoints.length) : breakpointOf c breakpoints = b :=
  Bands.lookup_eq Breakpoint.cHigh ⟨0, 0, 0, 0⟩ hk (fun _ hj _ ha => (h.cHigh_lt hj ha hk).trans_le hlow) htop

/-- A concentration is in one band at most. -/
theorem Table.inBand_unique {j k : ℕ} {c : ℚ} (hj : InBand breakpoints j c) (hk : InBand breakpoints k c) : j = k := by
  wlog hjk : j < k generalizing j k
  · rcases Nat.lt_trichotomy j k with hlt | heq | hgt
    · exact absurd hlt hjk
    · exact heq
    · exact (this hk hj hgt).symm
  obtain ⟨a, ha, -, htop⟩ := hj
  obtain ⟨b, hb, hlow, -⟩ := hk
  have hlt := h.cHigh_lt hjk ha hb
  have hklt := (List.getElem?_eq_some_iff.1 hb).1
  rcases htop with hc | hlast
  · exact absurd (hlow.trans hc) (not_le.2 hlt)
  · omega

/-! ## Sub-indices -/

/-- The interpolation of a band rises, from the one end of its index range to the other. -/
theorem Table.interpolate_monotone {k : ℕ} {b : Breakpoint} (hk : breakpoints[k]? = some b) : Monotone b.interpolate := by
  obtain ⟨r, hr, hlow, hhigh⟩ := h.range hk
  have hle : (r.1 : ℚ) ≤ r.2 := by exact_mod_cast aqiRanges_le r (List.mem_of_getElem? hr)
  have hwidth := h.width b (List.mem_of_getElem? hk)
  have hslope : 0 ≤ (b.iHigh - b.iLow) / (b.cHigh - b.cLow) := by
    rw [hlow, hhigh]
    exact div_nonneg (by linarith) (by linarith)
  intro c c' hcc'
  unfold Breakpoint.interpolate
  have := mul_le_mul_of_nonneg_left (sub_le_sub_right hcc' b.cLow) hslope
  linarith

/-- The sub-index of a band lies in its index range. -/
theorem Table.bandIndex_mem {k : ℕ} {b : Breakpoint} (hk : breakpoints[k]? = some b) (c : ℚ) :
    ∃ r, aqiRanges[k]? = some r ∧ r.1 ≤ b.index c ∧ b.index c ≤ r.2 := by
  obtain ⟨r, hr, hlow, hhigh⟩ := h.range hk
  have hwidth := h.width b (List.mem_of_getElem? hk)
  have hends : b.interpolate b.cLow = r.1 ∧ b.interpolate b.cHigh = r.2 := by
    unfold Breakpoint.interpolate
    rw [sub_self, mul_zero, zero_add, div_mul_cancel₀ _ (sub_pos.2 hwidth).ne', sub_add_cancel]
    exact ⟨hlow, hhigh⟩
  have hle := Rounding.round_le_round (h.interpolate_monotone hk (le_min (le_max_right c b.cLow) hwidth.le))
  have hge := Rounding.round_le_round (h.interpolate_monotone hk (min_le_right (max c b.cLow) b.cHigh))
  rw [hends.1, round_intCast] at hle
  rw [hends.2, round_intCast] at hge
  exact ⟨r, hr, hle, hge⟩

/-- The sub-index of a concentration is the index of the band of the truncated, non-negative concentration. -/
theorem Table.subIndex_band {k : ℕ} {truncate : ℚ → ℚ} {c : ℚ} (hk : InBand breakpoints k (truncate (max 0 c))) :
    ∃ r, aqiRanges[k]? = some r ∧ r.1 ≤ subIndex c breakpoints truncate ∧ subIndex c breakpoints truncate ≤ r.2 := by
  obtain ⟨b, hb, hlow, htop⟩ := hk
  rw [subIndex_eq, h.breakpointOf_eq hb hlow htop]
  exact h.bandIndex_mem hb _

/-- Inside a band the sub-index is the interpolation, rounded. -/
theorem Table.subIndex_interpolate {b : Breakpoint} (hb : b ∈ breakpoints) {truncate : ℚ → ℚ} {c : ℚ}
    (hlow : b.cLow ≤ truncate (max 0 c)) (hhigh : truncate (max 0 c) ≤ b.cHigh) :
    subIndex c breakpoints truncate = round (b.interpolate (truncate (max 0 c))) := by
  obtain ⟨k, hk⟩ := List.getElem?_of_mem hb
  rw [subIndex_eq, h.breakpointOf_eq hk hlow (Or.inl hhigh), Breakpoint.index, max_eq_left hlow, min_eq_left hhigh]

/-- The sub-index rises with the concentration. -/
theorem Table.subIndex_le {truncate : ℚ → ℚ} (htruncate : Monotone truncate) {c c' : ℚ} (hcc' : c ≤ c') :
    subIndex c breakpoints truncate ≤ subIndex c' breakpoints truncate := by
  have hindex : Monotone (fun c => (breakpointOf c breakpoints).index c) := by
    refine Bands.lookup_monotone Breakpoint.cHigh ⟨0, 0, 0, 0⟩ (fun b => round b.iLow) (fun b => round b.iHigh)
      h.ne_nil ?_ ?_ ?_ ?_
    · intro b hb c c' hcc'
      obtain ⟨k, hk⟩ := List.getElem?_of_mem hb
      exact Rounding.round_le_round
        (h.interpolate_monotone hk (min_le_min (max_le_max hcc' le_rfl) le_rfl))
    · intro b hb c
      obtain ⟨k, hk⟩ := List.getElem?_of_mem hb
      obtain ⟨r, hr, hlow, -⟩ := h.range hk
      obtain ⟨s, hs, hle, -⟩ := h.bandIndex_mem hk c
      obtain rfl := Option.some.inj (hr.symm.trans hs)
      rwa [hlow, round_intCast]
    · intro b hb c
      obtain ⟨k, hk⟩ := List.getElem?_of_mem hb
      obtain ⟨r, hr, -, hhigh⟩ := h.range hk
      obtain ⟨s, hs, -, hle⟩ := h.bandIndex_mem hk c
      obtain rfl := Option.some.inj (hr.symm.trans hs)
      rwa [hhigh, round_intCast]
    · rw [List.pairwise_iff_getElem]
      intro j k hj hk hjk
      obtain ⟨r, hr, -, hhigh⟩ := h.range (List.getElem?_eq_getElem hj)
      obtain ⟨s, hs, hlow, -⟩ := h.range (List.getElem?_eq_getElem hk)
      rw [hhigh, hlow, round_intCast, round_intCast]
      exact (aqiRanges_lt hjk hr hs).le
  exact hindex (htruncate (max_le_max le_rfl hcc'))

end

/-! ## The law -/

theorem truncPm25_monotone : Monotone truncPm25 := by
  intro c c' hcc'
  have hfloor : ⌊c * 10⌋ ≤ ⌊c' * 10⌋ := Int.floor_le_floor (by linarith)
  exact div_le_div_of_nonneg_right (by exact_mod_cast hfloor) (by norm_num)

theorem truncPm10_monotone : Monotone truncPm10 := by
  intro c c' hcc'
  have hfloor : ⌊c⌋ ≤ ⌊c'⌋ := Int.floor_le_floor hcc'
  unfold truncPm10
  exact_mod_cast hfloor

/-- The truncated, non-negative concentration of PM2.5 is in one band. -/
theorem truncPm25_inBand (pm25 : ℚ) : ∃ k, InBand pm25Breakpoints k (truncPm25 (max 0 pm25)) := by
  have hfloor : 0 ≤ ⌊max 0 pm25 * 10⌋ := Int.floor_nonneg.2 (mul_nonneg (le_max_left _ _) (by norm_num))
  obtain ⟨k, -, hk⟩ := pm25Table.inBand _ hfloor
  exact ⟨k, hk⟩

theorem truncPm10_inBand (pm10 : ℚ) : ∃ k, InBand pm10Breakpoints k (truncPm10 (max 0 pm10)) := by
  have hfloor : 0 ≤ ⌊max 0 pm10⌋ := Int.floor_nonneg.2 (le_max_left _ _)
  obtain ⟨k, -, hk⟩ := pm10Table.inBand _ hfloor
  rw [div_one] at hk
  exact ⟨k, hk⟩

/-- The sub-index of the dominant pollutant is the AQI. -/
theorem dominantPollutant_subIndex (pm25 pm10 : ℚ) :
    (calculateAqi pm25 pm10).dominantPollutant.subIndex pm25 pm10 = (calculateAqi pm25 pm10).aqi := by
  unfold calculateAqi
  dsimp only
  split_ifs with hge
  · exact (max_eq_left hge).symm
  · exact (max_eq_right (not_le.1 hge).le).symm

/-- The AQI and its category, from the bands of the two truncated concentrations. -/
theorem calculateAqi_bands {pm25 pm10 : ℚ} {j k : ℕ} (hj : InBand pm25Breakpoints j (truncPm25 (max 0 pm25)))
    (hk : InBand pm10Breakpoints k (truncPm10 (max 0 pm10))) :
    (0 ≤ (calculateAqi pm25 pm10).aqi ∧ (calculateAqi pm25 pm10).aqi ≤ 500) ∧
      aqiCategories[max j k]? = some (calculateAqi pm25 pm10).category := by
  obtain ⟨r, hr, hr₁, hr₂⟩ := pm25Table.subIndex_band hj
  obtain ⟨s, hs, hs₁, hs₂⟩ := pm10Table.subIndex_band hk
  have hrb := aqiRanges_bounds r (List.mem_of_getElem? hr)
  have hsb := aqiRanges_bounds s (List.mem_of_getElem? hs)
  refine ⟨⟨?_, ?_⟩, aqiCategory_max hr hs ⟨hr₁, hr₂⟩ ⟨hs₁, hs₂⟩⟩
  · exact hrb.1.trans (hr₁.trans (le_max_left _ _))
  · exact max_le (hr₂.trans hrb.2) (hs₂.trans hsb.2)

/-- The law of the AQI. For all concentrations, negative and arbitrarily large ones included:
1. the AQI is an integer of 0 to 500, and rises with either concentration;
2. each truncated, non-negative concentration is in exactly one band of its table, and the category is the worse of the
   categories of the two bands;
3. the sub-index of the dominant pollutant is the AQI;
4. inside a band a sub-index is the linear interpolation of the band, rounded to the nearest integer. -/
theorem aqi_law (pm25 pm10 : ℚ) :
    ((0 ≤ (calculateAqi pm25 pm10).aqi ∧ (calculateAqi pm25 pm10).aqi ≤ 500) ∧
      (∀ c, pm25 ≤ c → (calculateAqi pm25 pm10).aqi ≤ (calculateAqi c pm10).aqi) ∧
      (∀ c, pm10 ≤ c → (calculateAqi pm25 pm10).aqi ≤ (calculateAqi pm25 c).aqi)) ∧
    ((∃! j, InBand pm25Breakpoints j (truncPm25 (max 0 pm25))) ∧ (∃! k, InBand pm10Breakpoints k (truncPm10 (max 0 pm10))) ∧
      ∀ j k, InBand pm25Breakpoints j (truncPm25 (max 0 pm25)) → InBand pm10Breakpoints k (truncPm10 (max 0 pm10)) →
        aqiCategories[max j k]? = some (calculateAqi pm25 pm10).category) ∧
    (calculateAqi pm25 pm10).dominantPollutant.subIndex pm25 pm10 = (calculateAqi pm25 pm10).aqi ∧
    (∀ b ∈ pm25Breakpoints, b.cLow ≤ truncPm25 (max 0 pm25) → truncPm25 (max 0 pm25) ≤ b.cHigh →
      subIndex pm25 pm25Breakpoints truncPm25 = round (b.interpolate (truncPm25 (max 0 pm25)))) ∧
    (∀ b ∈ pm10Breakpoints, b.cLow ≤ truncPm10 (max 0 pm10) → truncPm10 (max 0 pm10) ≤ b.cHigh →
      subIndex pm10 pm10Breakpoints truncPm10 = round (b.interpolate (truncPm10 (max 0 pm10)))) := by
  obtain ⟨j, hj⟩ := truncPm25_inBand pm25
  obtain ⟨k, hk⟩ := truncPm10_inBand pm10
  refine ⟨⟨(calculateAqi_bands hj hk).1, ?_, ?_⟩, ⟨⟨j, hj, ?_⟩, ⟨k, hk, ?_⟩, ?_⟩, dominantPollutant_subIndex pm25 pm10, ?_, ?_⟩
  · intro c hc
    exact max_le_max (pm25Table.subIndex_le truncPm25_monotone hc) le_rfl
  · intro c hc
    exact max_le_max le_rfl (pm10Table.subIndex_le truncPm10_monotone hc)
  · intro j' hj'
    exact pm25Table.inBand_unique hj' hj
  · intro k' hk'
    exact pm10Table.inBand_unique hk' hk
  · intro j' k' hj' hk'
    exact (calculateAqi_bands hj' hk').2
  · intro b hb hlow hhigh
    exact pm25Table.subIndex_interpolate hb hlow hhigh
  · intro b hb hlow hhigh
    exact pm10Table.subIndex_interpolate hb hlow hhigh

example : calculateAqi (-3) (909 / 100) = ⟨8, .good, .pm10⟩ := by decide +kernel

end AirQuality
