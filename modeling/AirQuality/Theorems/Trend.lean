import AirQuality.Dashboard.TrendChart
import AirQuality.Theorems.Scale

/-!
# The bands of the trend chart

The pieces by which a PM2.5 chart colours its line, against the category that the tooltip, the map and the lists show for the same
value. Both are lookups in a table of bands; the chart compares the value itself, the others its truncation to 0.1 µg/m³.
-/

namespace AirQuality.Dashboard

/-- The pieces of a PM2.5 chart. -/
def pm25Bands : List ChartBand :=
  [⟨-1, 9, "#2FA35B"⟩, ⟨9, 354 / 10, "#F2C230"⟩, ⟨354 / 10, 554 / 10, "#F08A24"⟩, ⟨554 / 10, 1254 / 10, "#CF2F28"⟩,
    ⟨1254 / 10, 2254 / 10, "#8B46B0"⟩, ⟨2254 / 10, 10000, "#7A1F3D"⟩]

theorem chartBands_pm25 : chartBands .pm25 = some pm25Bands := by rfl

theorem pm25Bands_color (k : Nat) : (pm25Bands[k]?).map ChartBand.color = (aqiCategories[k]?).map AqiCategory.solid := by
  rw [← List.getElem?_map, ← List.getElem?_map]
  rfl

/-- The pieces follow one another without a gap. -/
theorem pm25Bands_isChain : pm25Bands.IsChain (fun a b => a.lte = b.gt) := by
  simp [pm25Bands]

theorem pm25Bands_lt : ∀ b ∈ pm25Bands, b.gt < b.lte := by
  simp only [pm25Bands, List.forall_mem_cons]
  norm_num

/-- A value from 0 to 10000 lies in exactly one piece. -/
theorem bandsOf_pm25 {v : ℚ} (hlow : 0 ≤ v) (hhigh : v ≤ 10000) (d : ChartBand) :
    bandsOf pm25Bands v = [Bands.lookup ChartBand.lte d v pm25Bands] := by
  refine Bands.filter_eq_lookup ChartBand.lte d pm25Bands_lt pm25Bands_isChain ?_ ?_ (by simp [pm25Bands])
  · rintro b hb
    obtain rfl := Option.some.inj hb
    exact lt_of_lt_of_le (by norm_num) hlow
  · rintro b hb
    obtain rfl := Option.some.inj hb
    exact hhigh

/-- An edge is the upper end of the piece at its position. -/
theorem pm25Edges_band {j : Nat} {e : ℚ} (h : pm25Edges[j]? = some e) : ∃ a, pm25Bands[j]? = some a ∧ a.lte = e := by
  have hj : j < 5 := (List.getElem?_eq_some_iff.1 h).1
  interval_cases j <;> exact ⟨_, rfl, Option.some.inj h⟩

/-- The edges rise, by more than 0.1 each. -/
theorem pm25Edges_lt {j k : Nat} (hjk : j < k) {e f : ℚ} (he : pm25Edges[j]? = some e) (hf : pm25Edges[k]? = some f) :
    e + 1 / 10 < f := by
  have hpairwise : pm25Edges.Pairwise (fun e f => e + 1 / 10 < f) := by
    simp only [pm25Edges, List.pairwise_cons, List.forall_mem_cons]
    norm_num
  obtain ⟨hj, rfl⟩ := List.getElem?_eq_some_iff.1 he
  obtain ⟨hk, rfl⟩ := List.getElem?_eq_some_iff.1 hf
  exact List.pairwise_iff_getElem.1 hpairwise j k hj hk hjk

/-- The piece of a value: the edges before it are below the value, the one at its end is not. -/
theorem pm25_piece {v : ℚ} (hlow : 0 ≤ v) (hhigh : v ≤ 10000) :
    ∃ (k : Nat) (b : ChartBand), pm25Bands[k]? = some b ∧ bandsOf pm25Bands v = [b] ∧ (∀ j < k, ∀ e, pm25Edges[j]? = some e → e < v) ∧
      ∀ e, pm25Edges[k]? = some e → v ≤ e := by
  have d : ChartBand := ⟨0, 0, ""⟩
  obtain ⟨k, hk, hbelow, htop⟩ := Bands.lookup_spec ChartBand.lte d v (List.cons_ne_nil _ _ : pm25Bands ≠ [])
  refine ⟨k, _, hk, bandsOf_pm25 hlow hhigh d, fun j hj e he => ?_, fun e he => ?_⟩
  · obtain ⟨a, ha, rfl⟩ := pm25Edges_band he
    exact hbelow j hj a ha
  · have hlt : k < 5 := (List.getElem?_eq_some_iff.1 he).1
    obtain ⟨a, ha, rfl⟩ := pm25Edges_band he
    obtain rfl := Option.some.inj (hk.symm.trans ha)
    exact htop.resolve_right (by simp; omega)

/-! ## The category of a concentration -/

theorem le_truncPm25 {m : ℤ} {v : ℚ} (h : (m : ℚ) / 10 ≤ v) : (m : ℚ) / 10 ≤ truncPm25 v := by
  have hfloor : m ≤ ⌊v * 10⌋ := Int.le_floor.2 (by linarith)
  have hcast : (m : ℚ) ≤ ⌊v * 10⌋ := by exact_mod_cast hfloor
  rw [truncPm25]
  linarith

theorem truncPm25_le {m : ℤ} {v : ℚ} (h : v < m / 10 + 1 / 10) : truncPm25 v ≤ m / 10 := by
  have hfloor : ⌊v * 10⌋ < m + 1 := Int.floor_lt.2 (by push_cast; linarith)
  have hcast : (⌊v * 10⌋ : ℚ) ≤ m := by exact_mod_cast Int.lt_add_one_iff.1 hfloor
  rw [truncPm25]
  linarith

/-- An edge lies on the grid of 0.1 µg/m³, between two bands of the breakpoint table. -/
theorem pm25Edges_breakpoint {j : Nat} {e : ℚ} (h : pm25Edges[j]? = some e) :
    ∃ m : ℤ, e = m / 10 ∧ (∃ a, AirQuality.pm25Breakpoints[j]? = some a ∧ a.cHigh = e) ∧
      ∃ b, AirQuality.pm25Breakpoints[j + 1]? = some b ∧ b.cLow = e + 1 / 10 := by
  have hj : j < 5 := (List.getElem?_eq_some_iff.1 h).1
  interval_cases j <;> obtain rfl := Option.some.inj h
  · exact ⟨90, by norm_num, ⟨_, rfl, rfl⟩, _, rfl, by norm_num⟩
  · exact ⟨354, by norm_num, ⟨_, rfl, rfl⟩, _, rfl, by norm_num⟩
  · exact ⟨554, by norm_num, ⟨_, rfl, rfl⟩, _, rfl, by norm_num⟩
  · exact ⟨1254, by norm_num, ⟨_, rfl, rfl⟩, _, rfl, by norm_num⟩
  · exact ⟨2254, by norm_num, ⟨_, rfl, rfl⟩, _, rfl, by norm_num⟩

/-- The upper end of a category is that of its range. -/
theorem aqiCategories_max {k : Nat} {r : ℤ × ℤ} (hr : aqiRanges[k]? = some r) :
    ∃ c, aqiCategories[k]? = some c ∧ c.max = r.2 := by
  have hk : k < 6 := (List.getElem?_eq_some_iff.1 hr).1
  interval_cases k <;> obtain rfl := Option.some.inj hr <;> exact ⟨_, rfl, by norm_num⟩

/-- An index of range `k` has the dashboard's category `k`. -/
theorem aqiCategory_of_range {k : Nat} {r : ℤ × ℤ} (hr : aqiRanges[k]? = some r) {z : ℤ} (hlow : r.1 ≤ z) (hhigh : z ≤ r.2) :
    aqiCategories[k]? = some (aqiCategory z) := by
  obtain ⟨c, hc, hmax⟩ := aqiCategories_max hr
  have hlookup : Bands.lookup AqiCategory.max c (z : ℚ) aqiCategories = c := by
    refine Bands.lookup_eq AqiCategory.max c hc (fun j hj a ha => ?_) (.inl ?_)
    · have hlength : j < 6 := (List.getElem?_eq_some_iff.1 ha).1
      obtain ⟨a', ha', hamax⟩ := aqiCategories_max (List.getElem?_eq_getElem (l := aqiRanges) hlength)
      obtain rfl := Option.some.inj (ha.symm.trans ha')
      have hlt := aqiRanges_lt hj (List.getElem?_eq_getElem hlength) hr
      rw [hamax]
      exact_mod_cast lt_of_lt_of_le hlt hlow
    · rw [hmax]
      exact_mod_cast hhigh
  rw [hc, aqiCategory_eq_lookup z c, hlookup]

/-- A concentration has category `k` if it is at least 0.1 above the edges before it and less than that above the next. -/
theorem pm25_category {k : Nat} (hk : k < 6) {v : ℚ} (hv : 0 ≤ v)
    (hbelow : ∀ j < k, ∀ e, pm25Edges[j]? = some e → e + 1 / 10 ≤ v)
    (htop : ∀ e, pm25Edges[k]? = some e → v < e + 1 / 10) : aqiCategories[k]? = some (aqiCategory (pm25ToAqi v)) := by
  have hband : InBand AirQuality.pm25Breakpoints k (truncPm25 (max 0 v)) := by
    rw [max_eq_right hv]
    have hreach : ∀ b, AirQuality.pm25Breakpoints[k]? = some b →
        truncPm25 v ≤ b.cHigh ∨ k + 1 = AirQuality.pm25Breakpoints.length := by
      intro b hb
      by_cases hlast : k = 5
      · exact .inr (by rw [hlast]; rfl)
      · have he : pm25Edges[k]? = some (pm25Edges.get ⟨k, by simp [pm25Edges]; omega⟩) := List.getElem?_eq_getElem _
        obtain ⟨m, hm, ⟨a, ha, hhigh⟩, -⟩ := pm25Edges_breakpoint he
        obtain rfl := Option.some.inj (hb.symm.trans ha)
        have hlt := htop _ he
        rw [hm] at hlt
        rw [hhigh, hm]
        exact .inl (truncPm25_le hlt)
    cases k with
    | zero =>
      have hzero : ((0 : ℤ) : ℚ) / 10 ≤ truncPm25 v := le_truncPm25 (by simpa using hv)
      exact ⟨_, rfl, by simpa using hzero, hreach _ rfl⟩
    | succ k =>
      have he : pm25Edges[k]? = some (pm25Edges.get ⟨k, by simp [pm25Edges]; omega⟩) := List.getElem?_eq_getElem _
      obtain ⟨m, hm, -, b, hb, hlow⟩ := pm25Edges_breakpoint he
      have hge := hbelow k (Nat.lt_succ_self k) _ he
      have hgrid : ((m + 1 : ℤ) : ℚ) / 10 ≤ truncPm25 v := le_truncPm25 (by rw [hm] at hge; push_cast; linarith)
      refine ⟨b, hb, ?_, hreach b hb⟩
      rw [hlow, hm]
      push_cast at hgrid
      linarith
  obtain ⟨r, hr, hrlow, hrhigh⟩ := pm25Table.subIndex_band hband
  rw [pm25ToAqi_eq]
  exact aqiCategory_of_range hr hrlow hrhigh

/-! ## The chart and the tooltip -/

/-- Two categories with one colour are the same. -/
theorem aqiCategories_solid {j k : Nat} {c c' : AqiCategory} (hj : aqiCategories[j]? = some c) (hk : aqiCategories[k]? = some c')
    (h : c.solid = c'.solid) : j = k := by
  have hnodup : (aqiCategories.map AqiCategory.solid).Nodup := by decide
  have hlt : j < (aqiCategories.map AqiCategory.solid).length := by
    rw [List.length_map]
    exact (List.getElem?_eq_some_iff.1 hj).1
  refine (List.getElem?_inj hlt hnodup).1 ?_
  rw [List.getElem?_map, List.getElem?_map, hj, hk, Option.map_some, Option.map_some, h]

/-- A PM2.5 chart gives a value the colour of the category its tooltip names, from a single piece, exactly if the value is not less
than 0.1 above an edge. -/
theorem pm25_chart_iff (v : ℚ) (hlow : 0 ≤ v) (hhigh : v ≤ 10000) :
    (∃ b, (chartBands .pm25).map (bandsOf · v) = some [b] ∧ b.color = aqiSolid (tooltipIndex .pm25 v)) ↔
      ∀ e ∈ pm25Edges, ¬(e < v ∧ v < e + 1 / 10) := by
  obtain ⟨k, b, hk, hpiece, hbelow, htop⟩ := pm25_piece hlow hhigh
  obtain ⟨c, hc, hcolor⟩ : ∃ c, aqiCategories[k]? = some c ∧ c.solid = b.color := by
    have hmap := pm25Bands_color k
    rw [hk, Option.map_some] at hmap
    exact Option.map_eq_some_iff.1 hmap.symm
  have hsolid : aqiSolid (tooltipIndex .pm25 v) = (aqiCategory (pm25ToAqi v)).solid := rfl
  have hbands : (∃ b, (chartBands .pm25).map (bandsOf · v) = some [b] ∧ b.color = aqiSolid (tooltipIndex .pm25 v)) ↔
      c.solid = (aqiCategory (pm25ToAqi v)).solid := by
    rw [chartBands_pm25, Option.map_some, hpiece, hcolor, hsolid]
    simp
  rw [hbands]
  constructor
  · rintro hsame e he ⟨hlt, hthin⟩
    obtain ⟨i, hi⟩ := List.getElem?_of_mem he
    -- the truncated value is on the edge, in the category that ends there
    have hcat := pm25_category (Nat.lt_succ_of_lt (List.getElem?_eq_some_iff.1 hi).1) hlow
      (fun j hj f hf => ((pm25Edges_lt hj hf hi).trans hlt).le)
      (fun f hf => by rw [← Option.some.inj (hi.symm.trans hf)]; exact hthin)
    obtain rfl := aqiCategories_solid hc hcat hsame
    exact absurd (htop e hi) (not_le.2 hlt)
  · intro hclear
    have hcat := pm25_category (List.getElem?_eq_some_iff.1 hk).1 hlow
      (fun j hj e he => not_lt.1 fun hlt => hclear e (List.mem_of_getElem? he) ⟨hbelow j hj e he, hlt⟩)
      (fun e he => lt_of_le_of_lt (htop e he) (by linarith))
    rw [Option.some.inj (hc.symm.trans hcat)]

/-- At 12 µg/m³ the chart and the tooltip both say moderate. -/
theorem pm25_chart_iff_moderate :
    (∃ b, (chartBands .pm25).map (bandsOf · 12) = some [b] ∧ b.color = aqiSolid (tooltipIndex .pm25 12)) ↔
      ∀ e ∈ pm25Edges, ¬(e < 12 ∧ 12 < e + 1 / 10) :=
  pm25_chart_iff 12 (by norm_num) (by norm_num)

/-- At 9.05 µg/m³ the line is coloured moderate, and the tooltip says good. -/
theorem pm25_chart_false :
    ¬∀ v : ℚ, 0 ≤ v → v ≤ 10000 →
      ∃ b, (chartBands .pm25).map (bandsOf · v) = some [b] ∧ b.color = aqiSolid (tooltipIndex .pm25 v) := by
  intro h
  obtain ⟨b, hb, hcolor⟩ := h (905 / 100) (by norm_num) (by norm_num)
  have hpiece : (chartBands .pm25).map (bandsOf · (905 / 100)) = some [⟨9, 354 / 10, "#F2C230"⟩] := by decide +kernel
  obtain rfl := List.singleton_injective (Option.some.inj (hpiece.symm.trans hb))
  revert hcolor
  decide +kernel

end AirQuality.Dashboard
