import AirQuality.Dashboard.Series

/-!
# The range of the hourly history

A series of the store covers a range of days. An answer or a failure of an unforced call leaves the range at least as wide; a
forced reload sets it to the range that was current when `refreshSeries` made the call, however wide it has become since.
-/

namespace AirQuality

/-- The event does not bring the answer of a forced reload whose range its series has outgrown. -/
def SeriesPage.ReloadsStillWide (w : SeriesPage) : SeriesEvent → Prop
  | .answered k _ => ∀ c ∈ w.requests[k]?, c.force = true → (w.store.series c.scope).days ≤ c.days
  | _ => True

/-- A failure leaves every range at least as wide. -/
theorem failed_days (st : SeriesStore) (c : SeriesCall) (scope : Option String) :
    (st.series scope).days ≤ ((st.failed c).series scope).days := by
  rw [failed_series]
  split_ifs with h
  · exact h.2.le
  · exact le_rfl

/-- An answer leaves every range at least as wide exactly if it is not that of a reload whose range has been outgrown. -/
theorem answered_days_iff (st : SeriesStore) (c : SeriesCall) (points : List NetworkHourlyPoint) :
    (∀ scope, (st.series scope).days ≤ ((st.answered c points).series scope).days) ↔
      (c.force = true → (st.series c.scope).days ≤ c.days) := by
  constructor
  · intro h hforce
    have hscope := h c.scope
    rwa [answered_series, if_pos ⟨rfl, Or.inl hforce⟩] at hscope
  · intro h scope
    rw [answered_series]
    split_ifs with htaken
    · obtain ⟨rfl, hforce | hwide⟩ := htaken
      · exact h hforce
      · exact hwide
    · exact le_rfl

/-- An answer that settles nothing is not that of a request. -/
theorem requests_of_answered {w : SeriesPage} {k : Nat} {points : List NetworkHourlyPoint}
    (h : (w.step (.answered k points)).2 = none) : w.requests[k]? = none := by
  cases hc : w.requests[k]? with
  | none => rfl
  | some c => simp [SeriesPage.step, hc] at h

/-- A step leaves every range at least as wide exactly if it does not bring the answer of a reload whose range has been
outgrown. -/
theorem step_days_iff (w : SeriesPage) (e : SeriesEvent) :
    (∀ scope, (w.store.series scope).days ≤ ((w.step e).1.store.series scope).days) ↔ w.ReloadsStillWide e := by
  rcases series_cases w e with ⟨k, c, points, rfl, hc, heq⟩ | ⟨k, c, rfl, hc, heq⟩ | ⟨k, c, rfl, hc, -, heq⟩ | ⟨waiting, heq⟩
  · rw [heq, answered_days_iff, SeriesPage.ReloadsStillWide, hc]
    simp
  · rw [heq]
    exact iff_of_true (failed_days w.store c) trivial
  · rw [heq]
    exact iff_of_true (fun scope => (requested_series w.store c scope).symm ▸ le_rfl) trivial
  · rw [heq]
    refine iff_of_true (fun scope => le_rfl) ?_
    cases e with
    | answered k points => simp [SeriesPage.ReloadsStillWide, requests_of_answered (congrArg Prod.snd heq)]
    | _ => trivial

/-! ## Runs -/

/-- A range that is covered stays covered: in any run, from any page, the range of every series never decreases exactly if no
reload is answered whose range the series has outgrown since `refreshSeries` read it. -/
theorem series_covered_iff (w : SeriesPage) (es : List SeriesEvent) :
    (∀ j k, j ≤ k → ∀ scope, ((seriesMachine.run w (es.take j)).store.series scope).days ≤
      ((seriesMachine.run w (es.take k)).store.series scope).days) ↔
    seriesMachine.Along SeriesPage.ReloadsStillWide w es :=
  seriesMachine.rel_take_iff_along (R := fun w w' => ∀ scope, (w.store.series scope).days ≤ (w'.store.series scope).days)
    (fun _ _ => le_rfl) (fun _ _ _ h h' scope => (h scope).trans (h' scope)) step_days_iff w es

/-- A week is loaded, and the timer asks for it again; before it answers a page loads a month. -/
def monthThenReload : List SeriesEvent :=
  [.loadCitySeries 7, .started 0 true, .answered 0 [], .refreshSeries [], .started 0 true, .loadCitySeries 30, .started 0 true,
    .answered 1 [], .answered 0 []]

/-- The answer of the reload takes the range back to a week. -/
theorem series_covered_false :
    ¬ ∀ (es : List SeriesEvent) (j k : Nat), j ≤ k → ∀ scope,
      ((seriesMachine.run SeriesPage.init (es.take j)).store.series scope).days ≤
        ((seriesMachine.run SeriesPage.init (es.take k)).store.series scope).days := by
  intro h
  exact absurd (h monthThenReload 8 9 (by decide) none) (by decide +kernel)

end AirQuality
