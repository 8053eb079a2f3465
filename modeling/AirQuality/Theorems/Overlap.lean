import AirQuality.Lib.Widest
import AirQuality.Theorems.Coverage
import Mathlib.Data.List.Perm.Basic

/-!
# Overlapping requests of the hourly history

What a series holds once unforced requests for it have settled, some with an answer and some by failing, is what `Widest.settle`
records of them in the order in which they settled (`recorded_run`). Which requests there are, and the ranges recorded, do not
depend on what the answers hold (`outline_refines`).
-/

namespace AirQuality

/-- The event is no reload of `refreshSeries`. -/
def SeriesEvent.unforced : SeriesEvent → Bool
  | .refreshSeries _ => false
  | _ => true

/-- The event with other points in its answer, if it is one. -/
def SeriesEvent.answeredWith (points : List NetworkHourlyPoint) : SeriesEvent → SeriesEvent
  | .answered k _ => .answered k points
  | e => e

/-- The event, whatever its answer holds. -/
def SeriesEvent.outcome (e : SeriesEvent) : SeriesEvent := e.answeredWith []

/-- A settled request of a series: its range, and its answer unless it failed. -/
def SeriesSettled.of (scope : Option String) (r : SeriesSettled) : Option (ℚ × Option (List NetworkHourlyPoint)) :=
  if r.call.scope = scope then some (r.call.days, r.answer) else none

/-- The requests of a series that settle in a run, in order. -/
def SeriesPage.settled (w : SeriesPage) (es : List SeriesEvent) (scope : Option String) :
    List (ℚ × Option (List NetworkHourlyPoint)) :=
  (seriesMachine.outputs w es).filterMap (fun o => o.bind (SeriesSettled.of scope))

/-- What is recorded of a series. -/
def SeriesPage.recorded (w : SeriesPage) (scope : Option String) : ℚ × List NetworkHourlyPoint :=
  ((w.store.series scope).days, (w.store.series scope).points)

/-- No call is under way. -/
structure SeriesPage.Idle (w : SeriesPage) : Prop where
  waiting : w.waiting = []
  requests : w.requests = []
  cityRequests : w.store.cityRequests = 0
  citySeriesLoading : w.store.citySeriesLoading = false

/-! ## Unforced calls -/

/-- All calls are unforced, and the requests are for ranges beyond those there were at first. -/
structure SeriesPage.Unforced (first : Option String → ℚ) (w : SeriesPage) : Prop where
  waiting : ∀ c ∈ w.waiting, c.force = false
  requests : ∀ c ∈ w.requests, c.force = false ∧ first c.scope ≤ c.days
  days : ∀ scope, first scope ≤ (w.store.series scope).days

theorem SeriesPage.Idle.unforced {w : SeriesPage} (h : w.Idle) : w.Unforced (fun scope => (w.store.series scope).days) where
  waiting := by simp [h.waiting]
  requests := by simp [h.requests]
  days := fun _ => le_rfl

/-- Without a reload, the calls that wait after an event waited before it or are unforced. -/
theorem mem_waiting_step {w : SeriesPage} {e : SeriesEvent} (he : e.unforced = true) {c : SeriesCall}
    (hc : c ∈ (w.step e).1.waiting) : c ∈ w.waiting ∨ c.force = false := by
  cases e with
  | loadCitySeries days =>
    rcases List.mem_append.1 hc with hc | hc
    · exact Or.inl hc
    · exact Or.inr (by rw [List.mem_singleton.1 hc])
  | loadPlaceSeries place days =>
    rcases List.mem_append.1 hc with hc | hc
    · exact Or.inl hc
    · exact Or.inr (by rw [List.mem_singleton.1 hc])
  | refreshSeries neighborhoods => cases he
  | started k service =>
    rw [SeriesPage.step] at hc
    split at hc
    · split at hc
      · exact Or.inl (List.mem_of_mem_eraseIdx hc)
      · exact Or.inl (List.mem_of_mem_eraseIdx hc)
    · exact Or.inl hc
  | answered k points =>
    rw [SeriesPage.step] at hc
    split at hc <;> exact Or.inl hc
  | failed k =>
    rw [SeriesPage.step] at hc
    split at hc <;> exact Or.inl hc

/-- Where no request is forced, a step leaves every range at least as wide. -/
theorem reloadsStillWide_of_unforced {first : Option String → ℚ} {w : SeriesPage} (h : w.Unforced first) (e : SeriesEvent) :
    w.ReloadsStillWide e := by
  cases e with
  | answered k points =>
    intro c hc hforce
    rw [(h.requests c (List.mem_of_getElem? hc)).1] at hforce
    cases hforce
  | _ => trivial

theorem unforced_step {first : Option String → ℚ} {w : SeriesPage} (h : w.Unforced first) {e : SeriesEvent}
    (he : e.unforced = true) : (w.step e).1.Unforced first where
  waiting := fun c hc => (mem_waiting_step he hc).elim (h.waiting c) id
  days := fun scope => (h.days scope).trans ((step_days_iff w e).2 (reloadsStillWide_of_unforced h e) scope)
  requests := by
    rcases series_cases w e with ⟨k, c, points, -, -, heq⟩ | ⟨k, c, -, -, heq⟩ | ⟨k, c, -, hc, hwants, heq⟩ | ⟨waiting, heq⟩
    · rw [heq]
      exact fun c' hc' => h.requests c' (List.mem_of_mem_eraseIdx hc')
    · rw [heq]
      exact fun c' hc' => h.requests c' (List.mem_of_mem_eraseIdx hc')
    · rw [heq]
      intro c' hc'
      rcases List.mem_append.1 hc' with hc' | hc'
      · exact h.requests c' hc'
      · obtain rfl := List.mem_singleton.1 hc'
        have hforce := h.waiting _ (List.mem_of_getElem? hc)
        rw [wants_eq, hforce] at hwants
        exact ⟨hforce, (h.days _).trans (not_le.1 (by simpa using hwants)).le⟩
    · rw [heq]
      exact h.requests

/-! ## What is recorded -/

/-- An event records the request that it settles, if it is one of the series. -/
theorem recorded_step {first : Option String → ℚ} {w : SeriesPage} (h : w.Unforced first) (e : SeriesEvent)
    (scope : Option String) :
    (w.step e).1.recorded scope =
      ((w.step e).2.bind (SeriesSettled.of scope)).elim (w.recorded scope) (Widest.settle (w.recorded scope)) := by
  rcases series_cases w e with ⟨k, c, points, -, hc, heq⟩ | ⟨k, c, -, hc, heq⟩ | ⟨k, c, -, -, -, heq⟩ | ⟨waiting, heq⟩
  · have hforce := (h.requests c (List.mem_of_getElem? hc)).1
    rw [heq, Option.bind_some, SeriesSettled.of, SeriesPage.recorded, answered_series, hforce]
    by_cases hscope : c.scope = scope
    · rw [if_pos hscope, Option.elim_some, Widest.settle_some, SeriesPage.recorded]
      by_cases hwide : (w.store.series scope).days ≤ c.days
      · rw [if_pos ⟨hscope.symm, Or.inr hwide⟩, if_pos hwide]
      · rw [if_neg (fun hcond => hcond.2.elim Bool.false_ne_true hwide), if_neg hwide]
    · rw [if_neg hscope, if_neg (fun hcond => hscope hcond.1.symm)]
      rfl
  · rw [heq, Option.bind_some, SeriesSettled.of, SeriesPage.recorded, failed_series]
    by_cases hscope : c.scope = scope
    · rw [if_pos hscope, Option.elim_some, Widest.settle_none, SeriesPage.recorded]
      by_cases hwide : (w.store.series scope).days < c.days
      · rw [if_pos ⟨hscope.symm, hwide⟩, if_pos hwide]
      · rw [if_neg (fun hcond => hwide hcond.2), if_neg hwide]
    · rw [if_neg hscope, if_neg (fun hcond => hscope hcond.1.symm)]
      rfl
  · rw [heq, SeriesPage.recorded, requested_series]
    rfl
  · rw [heq]
    rfl

theorem settled_cons (w : SeriesPage) (e : SeriesEvent) (es : List SeriesEvent) (scope : Option String) :
    w.settled (e :: es) scope =
      ((seriesMachine.step w e).2.bind (SeriesSettled.of scope)).toList ++ (w.step e).1.settled es scope := by
  rw [SeriesPage.settled, Machine.outputs_cons, List.filterMap_cons]
  cases (seriesMachine.step w e).2.bind (SeriesSettled.of scope) <;> rfl

/-- A run records, of each series, the requests of it in the order in which they settled. -/
theorem recorded_run {first : Option String → ℚ} {w : SeriesPage} (h : w.Unforced first) {es : List SeriesEvent}
    (hes : ∀ e ∈ es, e.unforced = true) (scope : Option String) :
    (seriesMachine.run w es).recorded scope = (w.settled es scope).foldl Widest.settle (w.recorded scope) := by
  induction es generalizing w with
  | nil => rfl
  | cons e es ih =>
    have hnext := unforced_step h (hes e List.mem_cons_self)
    refine (ih hnext (fun e' he' => hes e' (List.mem_cons_of_mem _ he'))).trans ?_
    rw [recorded_step h e scope, settled_cons, List.foldl_append, Option.foldl_toList]
    rfl

/-- The requests that settle are for ranges beyond those there were at first. -/
theorem settled_days {first : Option String → ℚ} {w : SeriesPage} (h : w.Unforced first) {es : List SeriesEvent}
    (hes : ∀ e ∈ es, e.unforced = true) (scope : Option String) : ∀ r ∈ w.settled es scope, first scope ≤ r.1 := by
  have hstep : ∀ (w : SeriesPage) (e : SeriesEvent), e.unforced = true → w.Unforced first →
      (seriesMachine.step w e).1.Unforced first ∧
        ∀ r ∈ (seriesMachine.step w e).2, first r.call.scope ≤ r.call.days := by
    intro w e he h
    refine ⟨unforced_step h he, ?_⟩
    rcases series_cases w e with ⟨k, c, points, -, hc, heq⟩ | ⟨k, c, -, hc, heq⟩ | ⟨k, c, -, -, -, heq⟩ | ⟨waiting, heq⟩
    · simpa [seriesMachine, heq] using (h.requests c (List.mem_of_getElem? hc)).2
    · simpa [seriesMachine, heq] using (h.requests c (List.mem_of_getElem? hc)).2
    · simp [seriesMachine, heq]
    · simp [seriesMachine, heq]
  intro r hr
  obtain ⟨o, ho, hor⟩ := List.mem_filterMap.1 hr
  obtain ⟨q, rfl, hq⟩ := Option.bind_eq_some_iff.1 hor
  have hdays := seriesMachine.outputs_forall (Q := fun o => ∀ q ∈ o, first q.call.scope ≤ q.call.days) hstep h hes _ ho q rfl
  rw [SeriesSettled.of] at hq
  split_ifs at hq with hscope
  obtain rfl := Option.some.inj hq
  rwa [hscope] at hdays

/-! ## Whether a request is pending -/

/-- The counter counts the requests of the city, and the flag tells whether there are any. -/
def SeriesPage.CountsPending (w : SeriesPage) : Prop :=
  w.store.cityRequests = w.requests.countP (fun c => c.place.isNone) ∧
    w.store.citySeriesLoading = decide (0 < w.store.cityRequests)

theorem SeriesPage.Idle.countsPending {w : SeriesPage} (h : w.Idle) : w.CountsPending := by
  simp [SeriesPage.CountsPending, h.requests, h.cityRequests, h.citySeriesLoading]

theorem SeriesPage.CountsPending.loading_iff {w : SeriesPage} (h : w.CountsPending) :
    w.store.citySeriesLoading = true ↔ ∃ c ∈ w.requests, c.place = none := by
  rw [h.2, decide_eq_true_eq, h.1, Int.natCast_pos, List.countP_pos_iff]
  simp only [Option.isNone_iff_eq_none]

/-- Without the one at a position, there is one less of its kind. -/
theorem countP_eraseIdx_add {requests : List SeriesCall} {k : Nat} {c : SeriesCall} (hc : requests[k]? = some c)
    (p : SeriesCall → Bool) : (requests.eraseIdx k).countP p + (if p c = true then 1 else 0) = requests.countP p := by
  obtain ⟨hk, rfl⟩ := List.getElem?_eq_some_iff.1 hc
  rw [← (List.getElem_cons_eraseIdx_perm hk).countP_eq p, List.countP_cons]

/-- A request of the city that settles is counted off, whatever it brought. -/
theorem countsPending_settled {w : SeriesPage} (h : w.CountsPending) {k : Nat} {c : SeriesCall} (hc : w.requests[k]? = some c)
    {st : SeriesStore}
    (hcity : c.place = none → st.cityRequests = w.store.cityRequests - 1 ∧
      st.citySeriesLoading = decide (0 < w.store.cityRequests - 1))
    (hplace : c.place ≠ none → st.cityRequests = w.store.cityRequests ∧ st.citySeriesLoading = w.store.citySeriesLoading) :
    SeriesPage.CountsPending { w with store := st, requests := w.requests.eraseIdx k } := by
  have hcount := countP_eraseIdx_add hc (fun c => c.place.isNone)
  obtain ⟨hrequests, hloading⟩ := h
  by_cases hp : c.place = none
  · obtain ⟨hst, hflag⟩ := hcity hp
    simp only [hp, Option.isNone_none, if_true] at hcount
    refine ⟨?_, hflag.trans (by rw [hst])⟩
    simp only [hst]
    omega
  · obtain ⟨hst, hflag⟩ := hplace hp
    simp only [Option.isNone_iff_eq_none, hp, if_false, add_zero] at hcount
    refine ⟨?_, hflag.trans (by rw [hst, hloading])⟩
    simp only [hst]
    omega

theorem countsPending_step {w : SeriesPage} (h : w.CountsPending) (e : SeriesEvent) : (w.step e).1.CountsPending := by
  rcases series_cases w e with ⟨k, c, points, -, hc, heq⟩ | ⟨k, c, -, hc, heq⟩ | ⟨k, c, -, -, -, heq⟩ | ⟨waiting, heq⟩
  · rw [heq]
    obtain ⟨_ | place, days, force⟩ := c
    · refine countsPending_settled h hc (fun _ => ?_) (absurd rfl)
      simp only [SeriesStore.answered, SeriesStore.cityAnswered]
      split_ifs <;> exact ⟨rfl, rfl⟩
    · refine countsPending_settled h hc (fun hp => absurd hp (Option.some_ne_none place)) (fun _ => ?_)
      simp only [SeriesStore.answered, SeriesStore.placeAnswered]
      split_ifs <;> exact ⟨rfl, rfl⟩
  · rw [heq]
    obtain ⟨_ | place, days, force⟩ := c
    · refine countsPending_settled h hc (fun _ => ?_) (absurd rfl)
      simp only [SeriesStore.failed, SeriesStore.cityFailed]
      split_ifs <;> exact ⟨rfl, rfl⟩
    · refine countsPending_settled h hc (fun hp => absurd hp (Option.some_ne_none place)) (fun _ => ?_)
      simp only [SeriesStore.failed, SeriesStore.placeFailed]
      split_ifs <;> exact ⟨rfl, rfl⟩
  · rw [heq]
    obtain ⟨hrequests, hloading⟩ := h
    obtain ⟨_ | place, days, force⟩ := c
    · simp only [SeriesPage.CountsPending, SeriesStore.requested, SeriesStore.cityRequested, hrequests, List.countP_append]
      constructor
      · simp
      · exact (decide_eq_true (by omega)).symm
    · simpa [SeriesPage.CountsPending, SeriesStore.requested, List.countP_append] using ⟨hrequests, hloading⟩
  · rw [heq]
    exact h

theorem countsPending_run {w : SeriesPage} (h : w.CountsPending) (es : List SeriesEvent) :
    (seriesMachine.run w es).CountsPending := by
  have hstep : ∀ w e, SeriesPage.CountsPending w → SeriesPage.CountsPending (seriesMachine.step w e).1 :=
    fun w e h => countsPending_step h e
  exact seriesMachine.run_inv hstep h es

/-! ## Whatever the answers hold -/

def NetworkSeries.outline (series : NetworkSeries) : NetworkSeries := ⟨series.days, []⟩

/-- The store without its points. -/
def SeriesStore.outline (st : SeriesStore) : SeriesStore :=
  { st with citySeries := st.citySeries.outline, placeSeries := fun id => (st.placeSeries id).map NetworkSeries.outline }

def SeriesPage.outline (w : SeriesPage) : SeriesPage := { w with store := w.store.outline }

def SeriesSettled.outline (r : SeriesSettled) : SeriesSettled := ⟨r.call, r.answer.map (fun _ => [])⟩

theorem outline_placeDays (st : SeriesStore) (id : String) : st.outline.placeDays id = st.placeDays id := by
  simp only [SeriesStore.placeDays, SeriesStore.outline, Option.map_map]
  rfl

theorem outline_wants (st : SeriesStore) (c : SeriesCall) : st.outline.wants c = st.wants c := by
  obtain ⟨_ | place, days, force⟩ := c
  · rfl
  · simp only [SeriesStore.wants, SeriesStore.wantsPlace, outline_placeDays]

theorem outline_refreshSeries (st : SeriesStore) (neighborhoods : List Place) :
    st.outline.refreshSeries neighborhoods = st.refreshSeries neighborhoods := by
  simp only [SeriesStore.refreshSeries, SeriesStore.outline, Option.map_map]
  rfl

theorem outline_updatePlace (st : SeriesStore) (id : String) (days : ℚ) (points : List NetworkHourlyPoint) :
    { st.outline with placeSeries := Function.update st.outline.placeSeries id (some ⟨days, []⟩) : SeriesStore } =
      SeriesStore.outline { st with placeSeries := Function.update st.placeSeries id (some ⟨days, points⟩) } := by
  simp only [SeriesStore.outline, SeriesStore.mk.injEq, true_and]
  funext id'
  rw [Function.update_apply, Function.update_apply]
  split_ifs <;> rfl

theorem outline_placePoints (st : SeriesStore) (id : String) : st.outline.placePoints id = [] := by
  simp only [SeriesStore.placePoints, SeriesStore.outline, Option.map_map]
  cases st.placeSeries id <;> rfl

theorem outline_answered (st : SeriesStore) (c : SeriesCall) (points : List NetworkHourlyPoint) :
    st.outline.answered c [] = (st.answered c points).outline := by
  obtain ⟨_ | place, days, force⟩ := c
  · simp only [SeriesStore.answered, SeriesStore.cityAnswered, apply_ite SeriesStore.citySettled,
      apply_ite SeriesStore.outline]
    rfl
  · simp only [SeriesStore.answered, SeriesStore.placeAnswered, outline_placeDays, apply_ite SeriesStore.outline,
      outline_updatePlace st place.id days points]

theorem outline_failed (st : SeriesStore) (c : SeriesCall) : st.outline.failed c = (st.failed c).outline := by
  obtain ⟨_ | place, days, force⟩ := c
  · simp only [SeriesStore.failed, SeriesStore.cityFailed, apply_ite SeriesStore.citySettled, apply_ite SeriesStore.outline]
    rfl
  · simp only [SeriesStore.failed, SeriesStore.placeFailed, outline_placeDays, outline_placePoints,
      apply_ite SeriesStore.outline, outline_updatePlace st place.id days (st.placePoints place.id)]

theorem outline_requested (st : SeriesStore) (c : SeriesCall) : st.outline.requested c = (st.requested c).outline := by
  obtain ⟨_ | place, _, _⟩ := c <;> rfl

/-- A step, seen without the points, does not depend on them. -/
theorem outline_step (w : SeriesPage) (e : SeriesEvent) :
    w.outline.step e.outcome = ((w.step e).1.outline, (w.step e).2.map SeriesSettled.outline) := by
  cases e with
  | loadCitySeries days => rfl
  | loadPlaceSeries place days => rfl
  | refreshSeries neighborhoods =>
    simp only [SeriesEvent.outcome, SeriesEvent.answeredWith, SeriesPage.step, SeriesPage.outline, outline_refreshSeries,
      Option.map_none]
  | started k service =>
    simp only [SeriesEvent.outcome, SeriesEvent.answeredWith, SeriesPage.step, SeriesPage.outline, outline_wants]
    split
    · split_ifs
      · rw [outline_requested]
        rfl
      · rfl
    · rfl
  | answered k points =>
    simp only [SeriesEvent.outcome, SeriesEvent.answeredWith, SeriesPage.step, SeriesPage.outline]
    split
    · rw [outline_answered]
      rfl
    · rfl
  | failed k =>
    simp only [SeriesEvent.outcome, SeriesEvent.answeredWith, SeriesPage.step, SeriesPage.outline]
    split
    · rw [outline_failed]
      rfl
    · rfl

/-- The machine refines itself, its answers emptied. -/
theorem outline_refines : seriesMachine.Refines seriesMachine (fun _ e => SeriesEvent.outcome e)
    (Option.map SeriesSettled.outline) (fun w w' => w' = w.outline) := by
  rintro w _ e rfl
  exact ⟨congrArg Prod.fst (outline_step w e), (congrArg Prod.snd (outline_step w e)).symm⟩

/-- The shape of what settles, seen without the points. -/
theorem map_shape_settled (w : SeriesPage) (es : List SeriesEvent) (scope : Option String) :
    (w.settled es scope).map Widest.shape =
      ((seriesMachine.outputs w es).map (Option.map SeriesSettled.outline)).filterMap
        (fun o => (o.bind (SeriesSettled.of scope)).map Widest.shape) := by
  rw [SeriesPage.settled, List.map_filterMap, List.filterMap_map]
  congr 1
  funext o
  cases o with
  | none => rfl
  | some r =>
    simp only [Option.bind_some, Function.comp_apply, Option.map_some, SeriesSettled.of, SeriesSettled.outline]
    split_ifs
    · simp [Widest.shape]
    · rfl

theorem unforced_congr {es es' : List SeriesEvent} (h : es'.map SeriesEvent.outcome = es.map SeriesEvent.outcome)
    (hes : ∀ e ∈ es, e.unforced = true) : ∀ e ∈ es', e.unforced = true := by
  have houtcome : ∀ e : SeriesEvent, e.outcome.unforced = e.unforced := fun e => by cases e <;> rfl
  intro e' he'
  obtain ⟨e, he, heq⟩ := List.mem_map.1 (h ▸ List.mem_map_of_mem he' : e'.outcome ∈ es.map SeriesEvent.outcome)
  rw [← houtcome, ← heq, houtcome]
  exact hes e he

/-- Runs that differ in what their answers hold settle the same requests. -/
theorem shape_congr (w : SeriesPage) {es es' : List SeriesEvent}
    (h : es'.map SeriesEvent.outcome = es.map SeriesEvent.outcome) (scope : Option String) :
    (w.settled es' scope).map Widest.shape = (w.settled es scope).map Widest.shape := by
  rw [map_shape_settled, map_shape_settled, outline_refines.outputs_eq rfl, outline_refines.outputs_eq rfl,
    Machine.inputs_const, Machine.inputs_const, h]

/-! ## Answers that can be told apart -/

/-- The run with an answer of another length at each event, all from `n` on. -/
def numbered (n : Nat) (es : List SeriesEvent) : List SeriesEvent :=
  es.mapIdx (fun k e => e.answeredWith (List.replicate (n + k) ⟨0, 0, 0, 0, 0, 0, 0⟩))

theorem numbered_outcome (n : Nat) (es : List SeriesEvent) :
    (numbered n es).map SeriesEvent.outcome = es.map SeriesEvent.outcome := by
  refine List.ext_getElem? (fun k => ?_)
  rw [numbered, List.getElem?_map, List.getElem?_mapIdx, List.getElem?_map, Option.map_map]
  congr 1
  funext e
  cases e <;> rfl

theorem length_of_numbered {n : Nat} {es : List SeriesEvent} {k j : Nat} {a : List NetworkHourlyPoint}
    (h : (numbered n es)[k]? = some (.answered j a)) : a.length = n + k := by
  rw [numbered, List.getElem?_mapIdx] at h
  obtain ⟨e, -, he⟩ := Option.map_eq_some_iff.1 h
  cases e with
  | answered j' points =>
    obtain ⟨-, rfl⟩ := SeriesEvent.answered.inj he
    exact List.length_replicate
  | _ => cases he

/-- A request that settles with an answer settles at the event that brings it. -/
theorem answer_of_step {w : SeriesPage} {e : SeriesEvent} {q : SeriesSettled} (h : (w.step e).2 = some q)
    {a : List NetworkHourlyPoint} (ha : q.answer = some a) : ∃ k, e = .answered k a := by
  rcases series_cases w e with ⟨k, c, points, rfl, -, heq⟩ | ⟨k, c, -, -, heq⟩ | ⟨k, c, -, -, -, heq⟩ | ⟨waiting, heq⟩
  · rw [heq] at h
    obtain rfl := Option.some.inj h
    obtain rfl := Option.some.inj ha
    exact ⟨k, rfl⟩
  · rw [heq] at h
    obtain rfl := Option.some.inj h
    cases ha
  · rw [heq] at h
    cases h
  · rw [heq] at h
    cases h

/-- A request of the numbered run, and its answer, which tells at which event it came. -/
theorem settled_numbered {w : SeriesPage} {n : Nat} {es : List SeriesEvent} {scope : Option String}
    {r : ℚ × Option (List NetworkHourlyPoint)} (hr : r ∈ w.settled (numbered n es) scope) :
    ∃ k q, (seriesMachine.outputs w (numbered n es))[k]? = some (some q) ∧ q.of scope = some r ∧
      ∀ a, r.2 = some a → a.length = n + k := by
  obtain ⟨o, ho, hor⟩ := List.mem_filterMap.1 hr
  obtain ⟨q, rfl, hq⟩ := Option.bind_eq_some_iff.1 hor
  obtain ⟨k, hk⟩ := List.mem_iff_getElem?.1 ho
  refine ⟨k, q, hk, hq, fun a ha => ?_⟩
  have hanswer : q.answer = r.2 := by
    rw [SeriesSettled.of] at hq
    split_ifs at hq
    exact congrArg Prod.snd (Option.some.inj hq)
  rw [Machine.outputs_getElem?] at hk
  obtain ⟨e, he, hstep⟩ := Option.map_eq_some_iff.1 hk
  obtain ⟨j, rfl⟩ := answer_of_step hstep (hanswer.trans ha)
  exact length_of_numbered he

/-- In the numbered run no answer is the same as another, or as what was there. -/
theorem numbered_apart (w : SeriesPage) (es : List SeriesEvent) (scope : Option String) (points : List NetworkHourlyPoint) :
    (∀ r ∈ w.settled (numbered (points.length + 1) es) scope, r.2 ≠ some points) ∧
      ∀ r ∈ w.settled (numbered (points.length + 1) es) scope, ∀ r' ∈ w.settled (numbered (points.length + 1) es) scope,
        r.2 ≠ none → r.2 = r'.2 → r.1 = r'.1 := by
  constructor
  · intro r hr hold
    obtain ⟨k, -, -, -, hlength⟩ := settled_numbered hr
    have := hlength points hold
    omega
  · intro r hr r' hr' hanswered hsame
    obtain ⟨a, ha⟩ := Option.ne_none_iff_exists'.1 hanswered
    obtain ⟨k, q, hq, hqr, hlength⟩ := settled_numbered hr
    obtain ⟨k', q', hq', hqr', hlength'⟩ := settled_numbered hr'
    obtain rfl : k = k' := by
      have := hlength a ha
      have := hlength' a (hsame.symm.trans ha)
      omega
    obtain rfl := Option.some.inj (Option.some.inj (hq.symm.trans hq'))
    rw [Option.some.inj (hqr.symm.trans hqr')]

/-! ## Runs -/

/-- Failed requests and the answers of others. For every page without calls under way, every run of unforced calls and every
series: the flag of the city is up exactly while a request of it is pending and, if a request of the series succeeded, the series
shows the answer of a widest one that did, whatever the answers hold; that is so exactly if then some widest request that succeeded
settled before any wider one had failed. -/
theorem widest_answer_iff (w : SeriesPage) (hw : w.Idle) (es : List SeriesEvent) (hes : ∀ e ∈ es, e.unforced = true)
    (scope : Option String) :
    ((∀ k, (seriesMachine.run w (es.take k)).store.citySeriesLoading = true ↔
        ∃ c ∈ (seriesMachine.run w (es.take k)).requests, c.place = none) ∧
      ∀ es' : List SeriesEvent, es'.map SeriesEvent.outcome = es.map SeriesEvent.outcome → Widest.Answered (w.settled es' scope) →
        Widest.IsWidest (w.settled es' scope) ((seriesMachine.run w es').store.series scope).points) ↔
    (Widest.Answered (w.settled es scope) → Widest.InTime (w.settled es scope)) := by
  have hpoints : ∀ es' : List SeriesEvent, (∀ e ∈ es', e.unforced = true) →
      ((seriesMachine.run w es').store.series scope).points =
        ((w.settled es' scope).foldl Widest.settle (w.recorded scope)).2 :=
    fun es' hes' => congrArg Prod.snd (recorded_run hw.unforced hes' scope)
  constructor
  · rintro ⟨-, h⟩ hanswered
    -- the same run with answers that can be told apart
    have hsame := numbered_outcome ((w.recorded scope).2.length + 1) es
    have hwidest := h _ hsame ((Widest.answered_congr (shape_congr w hsame scope)).2 hanswered)
    rw [hpoints _ (unforced_congr hsame hes)] at hwidest
    obtain ⟨hnew, hapart⟩ := numbered_apart w es scope (w.recorded scope).2
    exact (Widest.inTime_congr (shape_congr w hsame scope)).1 (Widest.inTime_of_snd hwidest hnew hapart)
  · intro h
    refine ⟨fun k => ?_, fun es' hsame hanswered => ?_⟩
    · exact (countsPending_run hw.countsPending (es.take k)).loading_iff
    · rw [hpoints es' (unforced_congr hsame hes)]
      have hintime := h ((Widest.answered_congr (shape_congr w hsame scope)).1 hanswered)
      exact Widest.snd_of_inTime ((Widest.inTime_congr (shape_congr w hsame scope)).2 hintime)
        (settled_days hw.unforced (unforced_congr hsame hes) scope)

theorem idle_init : SeriesPage.init.Idle := ⟨rfl, rfl, rfl, rfl⟩

/-- An hour of the network, for the runs below. -/
def someHour : NetworkHourlyPoint := ⟨0, 10, 20, 30, 40, 50, 1⟩

/-- A week and a month are asked for, the week is answered, and then the month fails. -/
def weekThenFailure (points : List NetworkHourlyPoint) : List SeriesEvent :=
  [.loadCitySeries 7, .loadCitySeries 30, .started 0 true, .started 0 true, .answered 0 points, .failed 0]

theorem widest_answer_iff_week :
    Widest.IsWidest (SeriesPage.init.settled (weekThenFailure [someHour]) none)
      (seriesMachine.run SeriesPage.init (weekThenFailure [someHour])).store.citySeries.points := by
  have hsettled : SeriesPage.init.settled (weekThenFailure [someHour]) none = [(7, some [someHour]), (30, none)] := by
    decide +kernel
  have h := widest_answer_iff SeriesPage.init idle_init (weekThenFailure [someHour]) (by decide) none
  refine (h.2 fun _ => ?_).2 (weekThenFailure [someHour]) rfl ?_
  · rw [hsettled]
    exact ⟨[], 7, [someHour], [(30, none)], rfl, by simp [Widest.AnsweredWithin], by simp⟩
  · rw [hsettled]
    exact ⟨_, List.mem_cons_self, Option.some_ne_none _⟩

/-- The month fails first, and the answer of the week is not shown. -/
def failureThenWeek (points : List NetworkHourlyPoint) : List SeriesEvent :=
  [.loadCitySeries 7, .loadCitySeries 30, .started 0 true, .started 0 true, .failed 1, .answered 0 points]

theorem widest_answer_false :
    ¬ ∀ es : List SeriesEvent, (∀ e ∈ es, e.unforced = true) → (seriesMachine.run SeriesPage.init es).waiting = [] →
      (seriesMachine.run SeriesPage.init es).requests = [] → Widest.Answered (SeriesPage.init.settled es none) →
      Widest.IsWidest (SeriesPage.init.settled es none) (seriesMachine.run SeriesPage.init es).store.citySeries.points := by
  intro h
  have hsettled : SeriesPage.init.settled (failureThenWeek [someHour]) none =
      [(30, none), (7, some [someHour])] := by
    decide +kernel
  obtain ⟨d, hd, -⟩ := h (failureThenWeek [someHour]) (by decide) (by decide +kernel) (by decide +kernel)
    (by rw [hsettled]; exact ⟨_, List.mem_cons_of_mem _ List.mem_cons_self, by decide⟩)
  have hnone : (seriesMachine.run SeriesPage.init (failureThenWeek [someHour])).store.citySeries.points = [] := by
    decide +kernel
  rw [hsettled, hnone] at hd
  simp at hd

end AirQuality
