import AirQuality.Dashboard.Sparkline
import AirQuality.Theorems.Trend

/-!
# The colours of the sparkline

The gradient of the sparkline at the height of a value, against the colour of the value's category. Where two categories meet, the
sort leaves the stop of the lower one before that of the upper one, so that between the two ends of a category the gradient starts
in the colour of a higher category and ends in that of a lower one.
-/

namespace AirQuality.Dashboard

/-! ## The colours of the categories -/

/-- The categories' colours, in numbers. -/
def categoryRgbs : List (ℚ × ℚ × ℚ) :=
  [(47, 163, 91), (242, 194, 48), (240, 138, 36), (207, 47, 40), (139, 70, 176), (122, 31, 61)]

theorem categoryRgbs_eq : aqiCategories.map (fun c => hexRgb c.solid) = categoryRgbs := by
  decide +kernel

/-- No three of the colours lie on one line. -/
theorem categoryRgbs_not_collinear : ∀ x ∈ categoryRgbs, ∀ y ∈ categoryRgbs, ∀ z ∈ categoryRgbs, x ≠ y → y ≠ z → x ≠ z →
    (y.1 - x.1) * (z.2.1 - x.2.1) ≠ (y.2.1 - x.2.1) * (z.1 - x.1) := by
  decide +kernel

/-- On the way from one of the colours to another lies no third one, nor, if they differ, one of the two. -/
theorem categoryRgbs_between {x y z : ℚ × ℚ × ℚ} (hx : x ∈ categoryRgbs) (hy : y ∈ categoryRgbs) (hz : z ∈ categoryRgbs)
    (hne : ¬(x = z ∧ y = z)) {t : ℚ} (hpos : 0 < t) (hlt : t < 1) : x + t • (y - x) ≠ z := by
  intro h
  by_cases hxy : x = y
  · rw [hxy, sub_self, smul_zero, add_zero] at h
    exact hne ⟨hxy.trans h, h⟩
  · obtain ⟨hleft, hright⟩ := Gradient.ne_of_between hxy hpos hlt
    refine categoryRgbs_not_collinear x hx y hy z hz hxy (fun hyz => hright (h.trans hyz.symm)) (fun hxz => hleft (h.trans hxz.symm)) ?_
    subst h
    simp only [Prod.fst_add, Prod.snd_add, Prod.smul_fst, Prod.smul_snd, Prod.fst_sub, Prod.snd_sub, smul_eq_mul]
    ring

/-! ## The ends of the categories -/

/-- The upper (`true`) and the lower end of each category, in the order their stops are listed. -/
def edges : List (AqiCategory × Bool) := aqiCategories.flatMap fun c => [(c, true), (c, false)]

/-- The AQI at an end. -/
def edgeValue (e : AqiCategory × Bool) : ℚ := if e.2 then e.1.max + 1 / 2 else e.1.min - 1 / 2

theorem aqiCategories_rgb_nodup : (aqiCategories.map fun c => hexRgb c.solid).Nodup := by
  rw [categoryRgbs_eq]
  decide +kernel

/-- Two categories with one colour are the same. -/
theorem eq_of_rgb {c d : AqiCategory} (hc : c ∈ aqiCategories) (hd : d ∈ aqiCategories) (h : hexRgb c.solid = hexRgb d.solid) :
    c = d :=
  List.inj_on_of_nodup_map aqiCategories_rgb_nodup hc hd h

theorem rgb_mem {c : AqiCategory} (hc : c ∈ aqiCategories) : hexRgb c.solid ∈ categoryRgbs := by
  rw [← categoryRgbs_eq]
  exact List.mem_map_of_mem hc

theorem mem_edges {e : AqiCategory × Bool} : e ∈ edges ↔ e.1 ∈ aqiCategories := by
  obtain ⟨c, top⟩ := e
  cases top <;> simp [edges]

theorem edges_nodup : edges.Nodup := by
  have hmap : (edges.map fun e => (e.1.solid, e.2)).Nodup := by decide
  exact List.Nodup.of_map _ hmap

/-- Each category starts one above the end of the one before it. -/
theorem aqiCategories_isChain : aqiCategories.IsChain (fun c d => d.min = c.max + 1) := by
  simp only [aqiCategories, List.isChain_cons_cons, List.isChain_singleton, and_true]
  norm_num

/-- No end of a category lies strictly inside another. -/
theorem edge_outside : ∀ c ∈ aqiCategories, ∀ d ∈ aqiCategories, ∀ top,
    edgeValue (d, top) ≤ c.min - 1 / 2 ∨ c.max + 1 / 2 ≤ edgeValue (d, top) := by
  simp only [aqiCategories, List.forall_mem_cons, Bool.forall_bool, edgeValue]
  norm_num

/-- Where two categories meet, the stop of the lower one is listed first. -/
theorem meeting_sublist {pre post : List AqiCategory} {c d : AqiCategory} (h : aqiCategories = pre ++ c :: d :: post) :
    [(c, true), (d, false)].Sublist edges ∧ edgeValue (c, true) = edgeValue (d, false) := by
  have hchain := aqiCategories_isChain
  rw [h, List.isChain_append_cons_cons] at hchain
  constructor
  · rw [edges, h]
    simp only [List.flatMap_append, List.flatMap_cons]
    refine List.Sublist.trans ?_ (List.sublist_append_right _ _)
    exact .cons_cons _ (.cons _ (.cons _ (.cons_cons _ (List.nil_sublist _))))
  · simp only [edgeValue, if_true, Bool.false_eq_true, if_false]
    rw [hchain.2.1]
    ring

/-- A category meets the next, or the one before it. -/
theorem exists_meeting {c : AqiCategory} (hc : c ∈ aqiCategories) :
    (∃ d ∈ aqiCategories, [(c, true), (d, false)].Sublist edges ∧ edgeValue (c, true) = edgeValue (d, false)) ∨
      ∃ d ∈ aqiCategories, [(d, true), (c, false)].Sublist edges ∧ edgeValue (d, true) = edgeValue (c, false) := by
  obtain ⟨pre, post, h⟩ := List.append_of_mem hc
  cases post with
  | cons d post => exact .inl ⟨d, by rw [h]; simp, meeting_sublist h⟩
  | nil =>
    rcases List.eq_nil_or_concat pre with rfl | ⟨pre, d, rfl⟩
    · have hlength := congrArg List.length h
      simp [aqiCategories] at hlength
    · rw [List.concat_eq_append, List.append_assoc, List.singleton_append] at h
      exact .inr ⟨d, by rw [h]; simp, meeting_sublist h⟩

/-! ## The scale of the sparkline -/

/-- The AQI values plotted, from the smallest to the largest. -/
def Plotted (points : List SeriesPoint) (v : ℚ) : Prop := (∃ p ∈ points, p.aqi ≤ v) ∧ ∃ p ∈ points, v ≤ p.aqi

theorem sparkLo_add_lt_hi (points : List SeriesPoint) : sparkLo points + 38 ≤ sparkHi points := by
  have h := le_max_right ((sparkValues points).max?.getD 0) (sparkLo points + 30)
  rw [sparkHi]
  linarith

theorem exists_lowest {points : List SeriesPoint} (hne : points ≠ []) :
    ∃ p ∈ points, (sparkValues points).min?.getD 0 = p.aqi ∧ ∀ q ∈ points, p.aqi ≤ q.aqi := by
  obtain ⟨m, hm⟩ := Option.isSome_iff_exists.1 (List.isSome_min?_of_ne_nil (mt List.map_eq_nil_iff.1 hne : sparkValues points ≠ []))
  obtain ⟨hmem, hle⟩ := List.min?_eq_some_iff.1 hm
  obtain ⟨p, hp, rfl⟩ := List.mem_map.1 hmem
  exact ⟨p, hp, by rw [hm]; rfl, fun q hq => hle _ (List.mem_map_of_mem hq)⟩

theorem exists_highest {points : List SeriesPoint} (hne : points ≠ []) :
    ∃ p ∈ points, (sparkValues points).max?.getD 0 = p.aqi ∧ ∀ q ∈ points, q.aqi ≤ p.aqi := by
  obtain ⟨m, hm⟩ := Option.isSome_iff_exists.1 (List.isSome_max?_of_ne_nil (mt List.map_eq_nil_iff.1 hne : sparkValues points ≠ []))
  obtain ⟨hmem, hle⟩ := List.max?_eq_some_iff.1 hm
  obtain ⟨p, hp, rfl⟩ := List.mem_map.1 hmem
  exact ⟨p, hp, by rw [hm]; rfl, fun q hq => hle _ (List.mem_map_of_mem hq)⟩

theorem Plotted.le_sparkHi {points : List SeriesPoint} {v : ℚ} (h : Plotted points v) : v ≤ sparkHi points := by
  obtain ⟨-, p, hp, hv⟩ := h
  obtain ⟨q, -, hmax, hq⟩ := exists_highest (List.ne_nil_of_mem hp)
  rw [sparkHi, hmax]
  linarith [le_max_left q.aqi (sparkLo points + 30), hq p hp]

/-- The height falls with the AQI. -/
theorem sparkY_lt_iff {points : List SeriesPoint} {height : ℚ} (hheight : 12 < height) {a b : ℚ} :
    sparkY points height b < sparkY points height a ↔ a < b := by
  have hspan : 0 < sparkHi points - sparkLo points := by linarith [sparkLo_add_lt_hi points]
  have hscale : 0 < height - sparkPad * 2 := by rw [sparkPad]; linarith
  rw [sparkY, sparkY, sub_lt_sub_iff_left, mul_lt_mul_iff_left₀ hscale, div_lt_div_iff_of_pos_right hspan, sub_lt_sub_iff_right]

theorem sparkY_pos {points : List SeriesPoint} {height : ℚ} (hheight : 12 < height) {v : ℚ} (h : v ≤ sparkHi points) :
    0 < sparkY points height v := by
  have hspan : 0 < sparkHi points - sparkLo points := by linarith [sparkLo_add_lt_hi points]
  have hle : (v - sparkLo points) / (sparkHi points - sparkLo points) ≤ 1 := (div_le_one hspan).2 (by linarith)
  have hscale : 0 < height - sparkPad * 2 := by rw [sparkPad]; linarith
  have hmul := mul_le_of_le_one_left hscale.le hle
  rw [sparkY]
  rw [sparkPad] at *
  linarith

/-! ## The stops in order -/

/-- The offset of an end's stop. -/
def edgeOffset (points : List SeriesPoint) (height : ℚ) (e : AqiCategory × Bool) : ℚ :=
  clampOffset (sparkY points height (edgeValue e) / height)

/-- The ends, as the sort leaves their stops. -/
def sortedEdges (points : List SeriesPoint) (height : ℚ) : List (AqiCategory × Bool) :=
  Gradient.sortBy (edgeOffset points height) edges

/-- The stop of an end, as SVG reads it. -/
def edgeStop (points : List SeriesPoint) (height : ℚ) (e : AqiCategory × Bool) : ℚ × (ℚ × ℚ × ℚ) :=
  (edgeOffset points height e, hexRgb e.1.solid)

theorem svgColorAt_sparkStops (points : List SeriesPoint) (height o : ℚ) :
    svgColorAt (sparkStops points height) o = Gradient.colorAt o ((sortedEdges points height).map (edgeStop points height)) := by
  have hstops : sparkStops points height =
      (sortedEdges points height).map fun e => { offset := edgeOffset points height e, color := e.1.solid } := by
    rw [sortedEdges, Gradient.map_sortBy GradientStop.offset fun _ => rfl, Gradient.sortBy, sparkStops, edges,
      List.map_flatMap]
    simp only [sub_nonpos]
    rfl
  rw [svgColorAt, hstops, List.map_map]
  rfl

/-- An end above a value has its stop before the value's offset. -/
theorem edgeOffset_lt {points : List SeriesPoint} {height v : ℚ} (hheight : 12 < height) (hv : v ≤ sparkHi points)
    {e : AqiCategory × Bool} (h : v < edgeValue e) : edgeOffset points height e < sparkY points height v / height := by
  have hpos : 0 < height := by linarith
  rw [edgeOffset, clampOffset]
  refine min_lt_of_right_lt (max_lt (div_pos (sparkY_pos hheight hv) hpos) ?_)
  exact div_lt_div_of_pos_right ((sparkY_lt_iff hheight).2 h) hpos

/-- An end below a value drawn inside the picture has its stop behind the value's offset. -/
theorem lt_edgeOffset {points : List SeriesPoint} {height v : ℚ} (hheight : 12 < height)
    (hinside : sparkY points height v < height) {e : AqiCategory × Bool} (h : edgeValue e < v) : sparkY points height v / height < edgeOffset points height e := by
  have hpos : 0 < height := by linarith
  rw [edgeOffset, clampOffset]
  refine lt_min ((div_lt_one hpos).2 hinside) (lt_max_of_lt_right ?_)
  exact div_lt_div_of_pos_right ((sparkY_lt_iff hheight).2 h) hpos

/-- The two stops of a category are not neighbours in the sorted list: where it meets another, that one's stop comes between. -/
theorem not_neighbours {points : List SeriesPoint} {height o : ℚ} {c : AqiCategory} (hc : c ∈ aqiCategories)
    {before after : List (AqiCategory × Bool)} (heq : sortedEdges points height = before ++ (c, true) :: (c, false) :: after)
    (hle : ∀ e ∈ before, edgeOffset points height e ≤ o) (hc₁ : edgeOffset points height (c, true) ≤ o)
    (hc₂ : o < edgeOffset points height (c, false)) : False := by
  have hsorted : (sortedEdges points height).Pairwise fun s t => edgeOffset points height s ≤ edgeOffset points height t :=
    Gradient.sortBy_pairwise _ edges
  have hnodup : (sortedEdges points height).Nodup := Gradient.sortBy_nodup edges_nodup
  obtain ⟨d, hd, hsub, hval⟩ | ⟨d, hd, hsub, hval⟩ := exists_meeting hc
  · have hoffset : edgeOffset points height (c, true) = edgeOffset points height (d, false) := by rw [edgeOffset, hval, edgeOffset]
    have hsub' : [(c, true), (d, false)].Sublist (sortedEdges points height) := Gradient.pair_sublist_sortBy hsub hoffset.le
    rw [heq] at hsub' hnodup hsorted
    have hafter : edgeOffset points height (c, false) ≤ edgeOffset points height (d, false) := by
      rcases List.mem_cons.1 (Gradient.mem_after_of_sublist hsub' hnodup) with h | h
      · rw [h]
      · exact List.rel_of_pairwise_cons (List.pairwise_append.1 hsorted).2.1.of_cons h
    rw [← hoffset] at hafter
    exact absurd (hc₂.trans_le hafter) (not_lt.2 hc₁)
  · have hoffset : edgeOffset points height (d, true) = edgeOffset points height (c, false) := by rw [edgeOffset, hval, edgeOffset]
    have hsub' : [(d, true), (c, false)].Sublist (sortedEdges points height) := Gradient.pair_sublist_sortBy hsub hoffset.le
    rw [heq, List.append_cons] at hsub' hnodup
    have hbefore : edgeOffset points height (d, true) ≤ o := by
      rcases List.mem_append.1 (Gradient.mem_before_of_sublist hsub' hnodup) with h | h
      · exact hle _ h
      · rw [List.mem_singleton.1 h]
        exact hc₁
    rw [hoffset] at hbefore
    exact absurd hc₂ (not_lt.2 hbefore)

/-- Inside a category, and inside the picture, the gradient does not have the category's colour. -/
theorem color_ne {points : List SeriesPoint} {height v : ℚ} (hheight : 12 < height) (hv : v ≤ sparkHi points)
    (hinside : sparkY points height v < height) {c : AqiCategory} (hc : c ∈ aqiCategories) (hlow : c.min - 1 / 2 < v)
    (hhigh : v < c.max + 1 / 2) :
    svgColorAt (sparkStops points height) (sparkY points height v / height) ≠ some (hexRgb c.solid) := by
  have htop : v < edgeValue (c, true) := hhigh
  have hbottom : edgeValue (c, false) < v := hlow
  have hedge : ∀ e ∈ edges, v < edgeValue e ∨ edgeValue e < v := fun e he =>
    (edge_outside c hc e.1 (mem_edges.1 he) e.2).symm.imp (lt_of_lt_of_le hhigh) fun h => lt_of_le_of_lt h hlow
  -- the stops on both sides of the value, and their places among the others
  obtain ⟨before, a, b, after, heq, hle, ha, hb⟩ := Gradient.exists_between
    (Gradient.sortBy_pairwise (edgeOffset points height) edges)
    (Gradient.mem_sortBy.2 (mem_edges.2 hc : (c, true) ∈ edges)) (edgeOffset_lt hheight hv htop).le
    (Gradient.mem_sortBy.2 (mem_edges.2 hc : (c, false) ∈ edges)) (lt_edgeOffset hheight hinside hbottom)
  have hmem : ∀ e ∈ before ++ a :: b :: after, e ∈ edges := fun e he => Gradient.mem_sortBy.1 (heq ▸ he)
  have hamem : a ∈ edges := hmem a (by simp)
  have hbmem : b ∈ edges := hmem b (by simp)
  have hav : v < edgeValue a :=
    (hedge a hamem).resolve_right fun h => absurd ha (not_le.2 (lt_edgeOffset hheight hinside h))
  have hbv : edgeValue b < v := (hedge b hbmem).resolve_left fun h => absurd hb (not_lt.2 (edgeOffset_lt hheight hv h).le)
  have hne : ¬(hexRgb a.1.solid = hexRgb c.solid ∧ hexRgb b.1.solid = hexRgb c.solid) := by
    rintro ⟨hac, hbc⟩
    obtain ⟨a, atop⟩ := a
    obtain ⟨b, btop⟩ := b
    obtain rfl := eq_of_rgb (mem_edges.1 hamem) hc hac
    obtain rfl := eq_of_rgb (mem_edges.1 hbmem) hc hbc
    cases atop with
    | false => exact absurd (hav.trans hbottom) (lt_irrefl v)
    | true =>
      cases btop with
      | true => exact absurd (hbv.trans htop) (lt_irrefl _)
      | false => exact not_neighbours hc heq hle ha hb
  obtain ⟨t, hpos, hlt, hblend⟩ := Gradient.blend_eq (a := edgeStop points height a) (b := edgeStop points height b)
    (edgeOffset_lt hheight hv hav) hb
  rw [svgColorAt_sparkStops, sortedEdges, heq, List.map_append, List.map_cons, List.map_cons,
    Gradient.colorAt_between (List.forall_mem_map.2 hle) ha hb, hblend]
  intro h
  exact categoryRgbs_between (rgb_mem (mem_edges.1 hamem)) (rgb_mem (mem_edges.1 hbmem)) (rgb_mem hc) hne hpos hlt (Option.some.inj h)

/-! ## Below the picture -/

theorem le_sparkY_iff {points : List SeriesPoint} {height : ℚ} {v : ℚ} :
    height ≤ sparkY points height v ↔ 6 * (sparkHi points - sparkLo points) ≤ (sparkLo points - v) * (height - 12) := by
  have hspan : 0 < sparkHi points - sparkLo points := by linarith [sparkLo_add_lt_hi points]
  have hmul : (v - sparkLo points) / (sparkHi points - sparkLo points) * (height - 6 * 2) =
      -((sparkLo points - v) * (height - 12) / (sparkHi points - sparkLo points)) := by ring
  rw [sparkY, sparkPad, hmul, ← le_div_iff₀ hspan]
  constructor
  · intro h
    linarith
  · intro h
    linarith

/-- What is drawn below the picture is less than the scale starts at. -/
theorem lt_sparkLo_of_outside {points : List SeriesPoint} {height v : ℚ} (hheight : 12 < height)
    (houtside : height ≤ sparkY points height v) : v < sparkLo points := by
  by_contra hge
  have hspan := sparkLo_add_lt_hi points
  have hneg : (sparkLo points - v) * (height - 12) ≤ 0 := mul_nonpos_of_nonpos_of_nonneg (by linarith) (by linarith)
  linarith [le_sparkY_iff.1 houtside]

/-- Only a negative value is drawn below the picture, and then the scale starts at zero. -/
theorem sparkLo_of_outside {points : List SeriesPoint} {height v : ℚ} (hheight : 12 < height) (hv : Plotted points v)
    (houtside : height ≤ sparkY points height v) : sparkLo points = 0 ∧ v < 0 := by
  obtain ⟨⟨q, hq, hqv⟩, -⟩ := hv
  obtain ⟨p, -, hmin, hp⟩ := exists_lowest (List.ne_nil_of_mem hq)
  have hlt := lt_sparkLo_of_outside hheight houtside
  have hzero : sparkLo points = 0 := by
    rw [sparkLo, hmin] at hlt ⊢
    refine max_eq_left (le_of_not_gt fun hpos => ?_)
    rw [max_eq_right hpos.le] at hlt
    linarith [hp q hq]
  exact ⟨hzero, hzero ▸ hlt⟩

/-- Only the lowest category reaches below zero. -/
theorem edges_neg : ∀ c ∈ aqiCategories, ∀ d ∈ aqiCategories, ∀ top, c.min - 1 / 2 < 0 → edgeValue (d, top) < 0 →
    d.solid = c.solid := by
  simp only [aqiCategories, List.forall_mem_cons, Bool.forall_bool, edgeValue]
  norm_num

/-- Below the picture the gradient has the colour of the lowest category. -/
theorem color_eq {points : List SeriesPoint} {height v : ℚ} (hheight : 12 < height) (hv : Plotted points v)
    (houtside : height ≤ sparkY points height v) {c : AqiCategory} (hc : c ∈ aqiCategories) (hlow : c.min - 1 / 2 < v) :
    svgColorAt (sparkStops points height) (sparkY points height v / height) = some (hexRgb c.solid) := by
  have hpos : 0 < height := by linarith
  obtain ⟨hzero, hneg⟩ := sparkLo_of_outside hheight hv houtside
  have hone : 1 ≤ sparkY points height v / height := (one_le_div hpos).2 houtside
  have hle : ∀ e, edgeOffset points height e ≤ sparkY points height v / height := fun e => (min_le_left _ _).trans hone
  -- the last stop is at least as far as the lower end's, at 1
  have hmem : (c, false) ∈ sortedEdges points height := Gradient.mem_sortBy.2 (mem_edges.2 hc)
  obtain ⟨before, last, heq⟩ : ∃ before last, sortedEdges points height = before ++ [last] := by
    rcases List.eq_nil_or_concat (sortedEdges points height) with h | ⟨before, last, h⟩
    · rw [h] at hmem
      cases hmem
    · exact ⟨before, last, by rw [h, List.concat_eq_append]⟩
  have hsorted : (sortedEdges points height).Pairwise fun s t => edgeOffset points height s ≤ edgeOffset points height t :=
    Gradient.sortBy_pairwise _ edges
  have hlastmem : last ∈ edges := Gradient.mem_sortBy.1 (heq ▸ List.mem_append_right _ (List.mem_singleton.2 rfl))
  have hbottom : 1 ≤ edgeOffset points height (c, false) := by
    have hlt : edgeValue (c, false) < v := hlow
    have hedge : height ≤ sparkY points height (edgeValue (c, false)) := houtside.trans ((sparkY_lt_iff hheight).2 hlt).le
    exact le_min (le_refl 1) (le_max_of_le_right ((one_le_div hpos).2 hedge))
  have hlast : 1 ≤ edgeOffset points height last := by
    rw [heq] at hmem hsorted
    rcases List.mem_append.1 hmem with h | h
    · exact hbottom.trans ((List.pairwise_append.1 hsorted).2.2 _ h last (List.mem_singleton.2 rfl))
    · rw [← List.mem_singleton.1 h]
      exact hbottom
  have hvalue : edgeValue last < 0 := by
    have hone' := (le_max_iff.1 (hlast.trans (min_le_right _ _))).resolve_left (by norm_num)
    exact hzero ▸ lt_sparkLo_of_outside hheight ((one_le_div hpos).1 hone')
  rw [svgColorAt_sparkStops, heq, List.map_append, List.map_singleton,
    Gradient.colorAt_last (List.forall_mem_map.2 fun e _ => hle e) (hle last)]
  rw [edgeStop, edges_neg c hc last.1 (mem_edges.1 hlastmem) last.2 (hlow.trans hneg) hvalue]

/-! ## When the colours are right -/

/-- The AQI at which two categories meet. -/
def meetingValues : List ℚ := [101 / 2, 201 / 2, 301 / 2, 401 / 2, 601 / 2]

/-- Nothing is plotted inside a category and in the picture: all points lie off the scale of the categories, or on one value at which
two meet, or are drawn below the picture. -/
def OffScale (points : List SeriesPoint) (height : ℚ) : Prop :=
  (∀ p ∈ points, p.aqi ≤ -1 / 2) ∨ (∀ p ∈ points, 1001 / 2 ≤ p.aqi) ∨ (∃ e ∈ meetingValues, ∀ p ∈ points, p.aqi = e) ∨
    ∀ p ∈ points, p.aqi < 0 ∧ 228 ≤ -p.aqi * (height - 12)

theorem category_range : ∀ c ∈ aqiCategories, -1 / 2 ≤ c.min - 1 / 2 ∧ c.max + 1 / 2 ≤ 1001 / 2 := by
  simp only [aqiCategories, List.forall_mem_cons]
  norm_num

theorem meetingValues_edge : ∀ e ∈ meetingValues, ∃ d ∈ aqiCategories, edgeValue (d, true) = e := by
  simp only [meetingValues, aqiCategories, List.forall_mem_cons, List.exists_mem_cons_iff, edgeValue]
  norm_num

theorem meetingValues_range : ∀ e ∈ meetingValues, 0 < e ∧ e ≤ 601 / 2 := by
  simp only [meetingValues, List.forall_mem_cons]
  norm_num

theorem meetingValues_apart : ∀ e ∈ meetingValues, ∀ f ∈ meetingValues, e < f → e + 1 ≤ f := by
  simp only [meetingValues, List.forall_mem_cons]
  norm_num

/-- A value on the scale at which no two categories meet lies inside one. -/
theorem exists_inside {a : ℚ} (hlow : -1 / 2 < a) (hhigh : a < 1001 / 2) (hne : a ∉ meetingValues) :
    ∃ c ∈ aqiCategories, c.min - 1 / 2 < a ∧ a < c.max + 1 / 2 := by
  by_contra h
  push Not at h
  simp only [aqiCategories, List.forall_mem_cons] at h
  simp only [meetingValues, List.mem_cons, not_or] at hne
  obtain ⟨hgood, hmoderate, hsensitive, hunhealthy, hvery, hhazardous, -⟩ := h
  obtain ⟨hne₁, hne₂, hne₃, hne₄, hne₅, -⟩ := hne
  have h₁ : 101 / 2 < a := lt_of_le_of_ne (by linarith [hgood (by linarith)]) (Ne.symm hne₁)
  have h₂ : 201 / 2 < a := lt_of_le_of_ne (by linarith [hmoderate (by linarith)]) (Ne.symm hne₂)
  have h₃ : 301 / 2 < a := lt_of_le_of_ne (by linarith [hsensitive (by linarith)]) (Ne.symm hne₃)
  have h₄ : 401 / 2 < a := lt_of_le_of_ne (by linarith [hunhealthy (by linarith)]) (Ne.symm hne₄)
  have h₅ : 601 / 2 < a := lt_of_le_of_ne (by linarith [hvery (by linarith)]) (Ne.symm hne₅)
  linarith [hhazardous (by linarith)]

/-- Where all points are negative, the scale goes from 0 to 38. -/
theorem spark_scale_of_neg {points : List SeriesPoint} (hne : points ≠ []) (h : ∀ p ∈ points, p.aqi < 0) :
    sparkLo points = 0 ∧ sparkHi points = 38 := by
  obtain ⟨p, hp, hmin, -⟩ := exists_lowest hne
  obtain ⟨q, hq, hmax, -⟩ := exists_highest hne
  have hlo : sparkLo points = 0 := by
    rw [sparkLo, hmin]
    exact max_eq_left (by linarith [h p hp])
  refine ⟨hlo, ?_⟩
  rw [sparkHi, hmax, hlo, max_eq_right (by linarith [h q hq])]
  norm_num

theorem outside_of_offScale {points : List SeriesPoint} {height v : ℚ} (hheight : 12 < height) (h : OffScale points height)
    (hv : Plotted points v) {c : AqiCategory} (hc : c ∈ aqiCategories) (hlow : c.min - 1 / 2 < v) (hhigh : v < c.max + 1 / 2) :
    height ≤ sparkY points height v := by
  obtain ⟨⟨p, hp, hpv⟩, q, hq, hvq⟩ := hv
  have hrange := category_range c hc
  rcases h with h | h | ⟨e, he, h⟩ | h
  · linarith [h q hq]
  · linarith [h p hp]
  · obtain ⟨d, hd, hde⟩ := meetingValues_edge e he
    have hve : v = e := le_antisymm (hvq.trans (h q hq).le) ((h p hp).symm.le.trans hpv)
    rcases edge_outside c hc d hd true with hle | hle
    · linarith
    · linarith
  · obtain ⟨hlo, hhi⟩ := spark_scale_of_neg (List.ne_nil_of_mem hp) fun p hp => (h p hp).1
    have hmono : -q.aqi * (height - 12) ≤ -v * (height - 12) := mul_le_mul_of_nonneg_right (by linarith) (by linarith)
    rw [le_sparkY_iff, hlo, hhi]
    linarith [(h q hq).2]

theorem offScale_of_outside {points : List SeriesPoint} (hne : points ≠ []) {height : ℚ} (hheight : 12 < height)
    (h : ∀ v, Plotted points v → ∀ c ∈ aqiCategories, c.min - 1 / 2 < v → v < c.max + 1 / 2 → height ≤ sparkY points height v) :
    OffScale points height := by
  obtain ⟨p, hp, hmin, hple⟩ := exists_lowest hne
  obtain ⟨q, hq, -, hleq⟩ := exists_highest hne
  -- a plotted value above the start of the scale, and on it, is one at which two categories meet
  have hmeet : ∀ v, Plotted points v → -1 / 2 < v → v < 1001 / 2 → sparkLo points ≤ v → v ∈ meetingValues := by
    intro v hv hlow hhigh hlo
    by_contra hnot
    obtain ⟨c, hc, hcv⟩ := exists_inside hlow hhigh hnot
    exact absurd (lt_sparkLo_of_outside hheight (h v hv c hc hcv.1 hcv.2)) (not_lt.2 hlo)
  by_cases hlow : q.aqi ≤ -1 / 2
  · exact .inl fun r hr => (hleq r hr).trans hlow
  by_cases hhigh : 1001 / 2 ≤ p.aqi
  · exact .inr (.inl fun r hr => hhigh.trans (hple r hr))
  rw [not_le] at hlow hhigh
  have hplotted (v : ℚ) (hpv : p.aqi ≤ v) (hvq : v ≤ q.aqi) : Plotted points v := ⟨⟨p, hp, hpv⟩, q, hq, hvq⟩
  by_cases hneg : q.aqi < 0
  · -- all points are negative, and the greatest is drawn below the picture
    have hnot : q.aqi ∉ meetingValues := fun hmem => absurd (meetingValues_range _ hmem).1 (not_lt.2 hneg.le)
    obtain ⟨c, hc, hcq⟩ := exists_inside hlow (by linarith) hnot
    have houtside := h q.aqi (hplotted _ (hple q hq) le_rfl) c hc hcq.1 hcq.2
    obtain ⟨hlo, hhi⟩ := spark_scale_of_neg hne fun r hr => lt_of_le_of_lt (hleq r hr) hneg
    rw [le_sparkY_iff, hlo, hhi] at houtside
    refine .inr (.inr (.inr fun r hr => ⟨lt_of_le_of_lt (hleq r hr) hneg, ?_⟩))
    have hmono : -q.aqi * (height - 12) ≤ -r.aqi * (height - 12) :=
      mul_le_mul_of_nonneg_right (by linarith [hleq r hr]) (by linarith)
    linarith
  · rw [not_lt] at hneg
    have hlo : sparkLo points ≤ max p.aqi 0 := by
      rw [sparkLo, hmin, max_comm p.aqi]
      exact max_le_max le_rfl (by linarith)
    have hfirst := hmeet (max p.aqi 0) (hplotted _ (le_max_left _ _) (max_le (hple q hq) hneg))
      (lt_of_lt_of_le (by norm_num) (le_max_right _ _)) (max_lt hhigh (by norm_num)) hlo
    have hpos : max p.aqi 0 = p.aqi := by
      refine max_eq_left (le_of_not_gt fun hlt => ?_)
      rw [max_eq_right hlt.le] at hfirst
      exact absurd (meetingValues_range _ hfirst).1 (lt_irrefl 0)
    rw [hpos] at hfirst hlo
    refine .inr (.inr (.inl ⟨p.aqi, hfirst, fun r hr => ?_⟩))
    by_contra hne'
    -- a little above the smallest value lies another that is plotted
    have hlt : p.aqi < min q.aqi (p.aqi + 1 / 2) :=
      lt_min (lt_of_lt_of_le (lt_of_le_of_ne (hple r hr) (Ne.symm hne')) (hleq r hr)) (by linarith)
    have hle := min_le_right q.aqi (p.aqi + 1 / 2)
    have hrange := meetingValues_range _ hfirst
    have hsecond := hmeet _ (hplotted _ hlt.le (min_le_left _ _)) (by linarith) (by linarith) (hlo.trans hlt.le)
    linarith [meetingValues_apart _ hfirst _ hsecond hlt]

/-- The gradient of a sparkline has, at every plotted value inside a category, the category's colour exactly if no such value is in
the picture. -/
theorem sparkline_color_iff (points : List SeriesPoint) (hlength : 2 ≤ points.length) (height : ℚ) (hheight : 12 < height) :
    (∃ g, sparkGeometry points height = some g ∧
      ∀ v, Plotted points v → ∀ c ∈ aqiCategories, c.min - 1 / 2 < v → v < c.max + 1 / 2 →
        svgColorAt g.stops (sparkY points height v / height) = some (hexRgb c.solid)) ↔
      OffScale points height := by
  have hne : points ≠ [] := by
    rintro rfl
    exact absurd hlength (by decide)
  have hgeometry : sparkGeometry points height = some
      { coords := points.map fun p => (sparkX points p.time, sparkY points height p.aqi)
        stops := sparkStops points height
        H := height } := if_neg (not_lt.2 hlength)
  constructor
  · rintro ⟨g, hg, hcolor⟩
    obtain rfl := Option.some.inj (hgeometry.symm.trans hg)
    refine offScale_of_outside hne hheight fun v hv c hc hlow hhigh => ?_
    by_contra hinside
    exact color_ne hheight hv.le_sparkHi (not_le.1 hinside) hc hlow hhigh (hcolor v hv c hc hlow hhigh)
  · intro hoff
    exact ⟨_, hgeometry, fun v hv c hc hlow hhigh => color_eq hheight hv (outside_of_offScale hheight hoff hv hc hlow hhigh) hc hlow⟩

/-- Two points of good and unhealthy air, an hour apart. -/
def risingPoints : List SeriesPoint :=
  [{ time := 0, pm25 := 7, pm10 := 10, aqi := 40, sensors := 1 }, { time := 3600000, pm25 := 70, pm10 := 90, aqi := 160, sensors := 1 }]

/-- They are drawn in wrong colours. -/
theorem sparkline_color_iff_rising :
    (∃ g, sparkGeometry risingPoints 72 = some g ∧
      ∀ v, Plotted risingPoints v → ∀ c ∈ aqiCategories, c.min - 1 / 2 < v → v < c.max + 1 / 2 →
        svgColorAt g.stops (sparkY risingPoints 72 v / 72) = some (hexRgb c.solid)) ↔
      OffScale risingPoints 72 :=
  sparkline_color_iff risingPoints (by decide) 72 (by norm_num)

/-- Between them, at an AQI of 75, the line is not coloured moderate. -/
theorem sparkline_color_false :
    ¬∀ (points : List SeriesPoint) (height : ℚ), 2 ≤ points.length → points.Pairwise (fun p q => p.time ≤ q.time) → 12 < height →
      ∃ g, sparkGeometry points height = some g ∧
        ∀ v, Plotted points v → ∀ c ∈ aqiCategories, c.min - 1 / 2 < v → v < c.max + 1 / 2 →
          svgColorAt g.stops (sparkY points height v / height) = some (hexRgb c.solid) := by
  intro h
  obtain ⟨g, hg, hcolor⟩ := h risingPoints 72 (by decide) (by simp [risingPoints]) (by norm_num)
  obtain rfl := Option.some.inj (hg.symm.trans rfl)
  have hplotted : Plotted risingPoints 75 :=
    ⟨⟨_, List.mem_cons_self, by norm_num⟩, _, List.mem_cons_of_mem _ List.mem_cons_self, by norm_num⟩
  obtain ⟨c, hc, hmin, hmax⟩ : ∃ c ∈ aqiCategories, c.min = 51 ∧ c.max = 100 :=
    ⟨_, List.mem_cons_of_mem _ List.mem_cons_self, rfl, rfl⟩
  have hinside : sparkY risingPoints 72 75 < 72 := by
    by_contra hnot
    have hlo : sparkLo risingPoints = 32 := by decide +kernel
    have hlt := lt_sparkLo_of_outside (by norm_num) (not_lt.1 hnot)
    rw [hlo] at hlt
    norm_num at hlt
  have hlow : c.min - 1 / 2 < 75 := by rw [hmin]; norm_num
  have hhigh : (75 : ℚ) < c.max + 1 / 2 := by rw [hmax]; norm_num
  exact color_ne (by norm_num) hplotted.le_sparkHi hinside hc hlow hhigh (hcolor 75 hplotted c hc hlow hhigh)

end AirQuality.Dashboard
