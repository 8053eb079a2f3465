import AirQuality.Lib.Machine
import Mathlib.Algebra.Order.Field.Rat
import Mathlib.Logic.Function.Basic

/-!
# Hourly history in the store

The series of the store: `loadCitySeries`, `loadPlaceSeries` and `refreshSeries`, cut at their awaits. A call waits for `start`,
then makes its request unless the range is covered, and settles when the request is answered or fails. Calls and requests of the
city and of the neighbourhoods may overlap and settle in any order.
-/

namespace AirQuality

/-- One hour of the whole network, or of one neighbourhood. -/
structure NetworkHourlyPoint where
  time : ℤ
  pm25 : ℚ
  pm10 : ℚ
  temperature : ℚ
  humidity : ℚ
  maxAqi : ℚ
  sensors : ℚ
deriving DecidableEq

structure NetworkSeries where
  days : ℚ
  points : List NetworkHourlyPoint
deriving DecidableEq

/-- `Pick<NeighborhoodSummary, 'id' | 'name'>` -/
structure Place where
  id : String
  name : String
deriving DecidableEq, Repr

structure SeriesStore where
  citySeries : NetworkSeries
  citySeriesLoading : Bool
  cityRequests : ℤ
  placeSeries : String → Option NetworkSeries

def SeriesStore.init : SeriesStore where
  citySeries := ⟨0, []⟩
  citySeriesLoading := false
  cityRequests := 0
  placeSeries := fun _ => none

/-! ## The city -/

/-- `loadCitySeries` goes on to make a request. -/
def SeriesStore.wantsCity (st : SeriesStore) (days : ℚ) (force : Bool) : Bool := force || !decide (days ≤ st.citySeries.days)

/-- The statements before the request. -/
def SeriesStore.cityRequested (st : SeriesStore) : SeriesStore :=
  { st with cityRequests := st.cityRequests + 1, citySeriesLoading := true }

/-- `finally` -/
def SeriesStore.citySettled (st : SeriesStore) : SeriesStore :=
  { st with cityRequests := st.cityRequests - 1, citySeriesLoading := decide (0 < st.cityRequests - 1) }

/-- The request is answered. -/
def SeriesStore.cityAnswered (st : SeriesStore) (days : ℚ) (force : Bool) (points : List NetworkHourlyPoint) : SeriesStore :=
  (if force = true ∨ st.citySeries.days ≤ days then { st with citySeries := ⟨days, points⟩ } else st).citySettled

/-- The request fails. -/
def SeriesStore.cityFailed (st : SeriesStore) (days : ℚ) : SeriesStore :=
  (if st.citySeries.days < days then { st with citySeries := ⟨days, st.citySeries.points⟩ } else st).citySettled

/-! ## The neighbourhoods -/

/-- `placeSeries[id]?.days ?? 0` -/
def SeriesStore.placeDays (st : SeriesStore) (id : String) : ℚ := ((st.placeSeries id).map (·.days)).getD 0

/-- `placeSeries[id]?.points ?? []` -/
def SeriesStore.placePoints (st : SeriesStore) (id : String) : List NetworkHourlyPoint :=
  ((st.placeSeries id).map (·.points)).getD []

def SeriesStore.wantsPlace (st : SeriesStore) (place : Place) (days : ℚ) (force : Bool) : Bool :=
  force || !decide (days ≤ st.placeDays place.id)

def SeriesStore.placeAnswered (st : SeriesStore) (place : Place) (days : ℚ) (force : Bool)
    (points : List NetworkHourlyPoint) : SeriesStore :=
  if force = true ∨ st.placeDays place.id ≤ days then
    { st with placeSeries := Function.update st.placeSeries place.id (some ⟨days, points⟩) }
  else st

def SeriesStore.placeFailed (st : SeriesStore) (place : Place) (days : ℚ) : SeriesStore :=
  if st.placeDays place.id < days then
    { st with placeSeries := Function.update st.placeSeries place.id (some ⟨days, st.placePoints place.id⟩) }
  else st

/-! ## Calls -/

/-- A call of `loadCitySeries` (no place) or of `loadPlaceSeries`. -/
structure SeriesCall where
  place : Option Place
  days : ℚ
  force : Bool
deriving DecidableEq

def SeriesStore.wants (st : SeriesStore) (c : SeriesCall) : Bool :=
  match c.place with
  | none => st.wantsCity c.days c.force
  | some place => st.wantsPlace place c.days c.force

def SeriesStore.requested (st : SeriesStore) (c : SeriesCall) : SeriesStore :=
  match c.place with
  | none => st.cityRequested
  | some _ => st

def SeriesStore.answered (st : SeriesStore) (c : SeriesCall) (points : List NetworkHourlyPoint) : SeriesStore :=
  match c.place with
  | none => st.cityAnswered c.days c.force points
  | some place => st.placeAnswered place c.days c.force points

def SeriesStore.failed (st : SeriesStore) (c : SeriesCall) : SeriesStore :=
  match c.place with
  | none => st.cityFailed c.days
  | some place => st.placeFailed place c.days

/-- The calls that `refreshSeries` makes. -/
def SeriesStore.refreshSeries (st : SeriesStore) (neighborhoods : List Place) : List SeriesCall :=
  (if st.citySeries.days ≠ 0 then [⟨none, st.citySeries.days, true⟩] else []) ++
    neighborhoods.filterMap (fun place => (st.placeSeries place.id).map (fun loaded => ⟨some place, loaded.days, true⟩))

/-! ## The machine -/

/-- The store, the calls that wait for `start`, and the requests that wait for an answer. -/
structure SeriesPage where
  store : SeriesStore
  waiting : List SeriesCall
  requests : List SeriesCall

def SeriesPage.init : SeriesPage := ⟨SeriesStore.init, [], []⟩

inductive SeriesEvent where
  /-- A view calls `loadCitySeries`. -/
  | loadCitySeries (days : ℚ)
  /-- A view calls `loadPlaceSeries`. -/
  | loadPlaceSeries (place : Place) (days : ℚ)
  /-- The timer calls `refreshSeries`, with the neighbourhoods there are. -/
  | refreshSeries (neighborhoods : List Place)
  /-- `start` has ended for the call at a position, with a service or without. -/
  | started (k : Nat) (service : Bool)
  /-- The request at a position is answered. -/
  | answered (k : Nat) (points : List NetworkHourlyPoint)
  /-- The request at a position fails. -/
  | failed (k : Nat)
deriving DecidableEq

/-- A request that has settled, with its answer unless it failed. -/
structure SeriesSettled where
  call : SeriesCall
  answer : Option (List NetworkHourlyPoint)
deriving DecidableEq

def SeriesPage.step (w : SeriesPage) : SeriesEvent → SeriesPage × Option SeriesSettled
  | .loadCitySeries days => ({ w with waiting := w.waiting ++ [⟨none, days, false⟩] }, none)
  | .loadPlaceSeries place days => ({ w with waiting := w.waiting ++ [⟨some place, days, false⟩] }, none)
  | .refreshSeries neighborhoods => ({ w with waiting := w.waiting ++ w.store.refreshSeries neighborhoods }, none)
  | .started k service =>
    match w.waiting[k]? with
    | some c =>
      if (service && w.store.wants c) = true then
        (⟨w.store.requested c, w.waiting.eraseIdx k, w.requests ++ [c]⟩, none)
      else ({ w with waiting := w.waiting.eraseIdx k }, none)
    | none => (w, none)
  | .answered k points =>
    match w.requests[k]? with
    | some c => ({ w with store := w.store.answered c points, requests := w.requests.eraseIdx k }, some ⟨c, some points⟩)
    | none => (w, none)
  | .failed k =>
    match w.requests[k]? with
    | some c => ({ w with store := w.store.failed c, requests := w.requests.eraseIdx k }, some ⟨c, none⟩)
    | none => (w, none)

def seriesMachine : Machine SeriesPage SeriesEvent (Option SeriesSettled) := ⟨SeriesPage.step⟩

/-! ## One series -/

/-- The series of the city (none) or of a neighbourhood. -/
def SeriesStore.series (st : SeriesStore) : Option String → NetworkSeries
  | none => st.citySeries
  | some id => ⟨st.placeDays id, st.placePoints id⟩

/-- The series a call is for. -/
def SeriesCall.scope (c : SeriesCall) : Option String := c.place.map (·.id)

theorem requested_series (st : SeriesStore) (c : SeriesCall) (scope : Option String) :
    (st.requested c).series scope = st.series scope := by
  obtain ⟨_ | place, _, _⟩ := c <;> cases scope <;> rfl

/-- A call goes on to a request if it is forced or its range is not covered. -/
theorem wants_eq (st : SeriesStore) (c : SeriesCall) :
    st.wants c = (c.force || !decide (c.days ≤ (st.series c.scope).days)) := by
  obtain ⟨_ | place, _, _⟩ := c <;> rfl

/-- A series of the city that is replaced on a condition, and the others as they were. -/
theorem series_iteCity (st : SeriesStore) (C : Prop) [Decidable C] (series : NetworkSeries) (scope : Option String) :
    (if C then { st with citySeries := series } else st).citySettled.series scope =
      if scope = none ∧ C then series else st.series scope := by
  by_cases hC : C
  · cases scope <;> simp [hC] <;> rfl
  · cases scope <;> simp [hC] <;> rfl

/-- A series of a neighbourhood that is replaced on a condition, and the others as they were. -/
theorem series_itePlace (st : SeriesStore) (id : String) (C : Prop) [Decidable C] (series : NetworkSeries)
    (scope : Option String) :
    (if C then { st with placeSeries := Function.update st.placeSeries id (some series) } else st).series scope =
      if scope = some id ∧ C then series else st.series scope := by
  by_cases hC : C
  · rw [if_pos hC]
    cases scope with
    | none => simp [SeriesStore.series]
    | some id' =>
      by_cases hid : id' = id
      · subst hid
        simp [SeriesStore.series, SeriesStore.placeDays, SeriesStore.placePoints, hC]
      · simp [SeriesStore.series, SeriesStore.placeDays, SeriesStore.placePoints, hid]
  · simp [hC]

theorem cityAnswered_series (st : SeriesStore) (days : ℚ) (force : Bool) (points : List NetworkHourlyPoint)
    (scope : Option String) :
    (st.cityAnswered days force points).series scope =
      if scope = none ∧ (force = true ∨ (st.series scope).days ≤ days) then ⟨days, points⟩ else st.series scope := by
  rw [SeriesStore.cityAnswered, series_iteCity]
  exact if_congr (and_congr_right (fun h => by rw [h]; rfl)) rfl rfl

theorem cityFailed_series (st : SeriesStore) (days : ℚ) (scope : Option String) :
    (st.cityFailed days).series scope =
      if scope = none ∧ (st.series scope).days < days then ⟨days, (st.series scope).points⟩ else st.series scope := by
  rw [SeriesStore.cityFailed, series_iteCity]
  exact ite_congr (propext (and_congr_right (fun h => by rw [h]; rfl))) (fun h => by rw [h.1]; rfl) (fun _ => rfl)

theorem placeAnswered_series (st : SeriesStore) (place : Place) (days : ℚ) (force : Bool) (points : List NetworkHourlyPoint)
    (scope : Option String) :
    (st.placeAnswered place days force points).series scope =
      if scope = some place.id ∧ (force = true ∨ (st.series scope).days ≤ days) then ⟨days, points⟩ else st.series scope := by
  rw [SeriesStore.placeAnswered, series_itePlace]
  exact if_congr (and_congr_right (fun h => by rw [h]; rfl)) rfl rfl

theorem placeFailed_series (st : SeriesStore) (place : Place) (days : ℚ) (scope : Option String) :
    (st.placeFailed place days).series scope =
      if scope = some place.id ∧ (st.series scope).days < days then ⟨days, (st.series scope).points⟩ else st.series scope := by
  rw [SeriesStore.placeFailed, series_itePlace]
  exact ite_congr (propext (and_congr_right (fun h => by rw [h]; rfl))) (fun h => by rw [h.1]; rfl) (fun _ => rfl)

/-- An answer replaces the series it is for if it is forced or at least as wide, and leaves the others. -/
theorem answered_series (st : SeriesStore) (c : SeriesCall) (points : List NetworkHourlyPoint) (scope : Option String) :
    (st.answered c points).series scope =
      if scope = c.scope ∧ (c.force = true ∨ (st.series scope).days ≤ c.days) then ⟨c.days, points⟩ else st.series scope := by
  obtain ⟨_ | place, days, force⟩ := c
  · exact cityAnswered_series st days force points scope
  · exact placeAnswered_series st place days force points scope

/-- A failure records its range if it is wider, with the points that are there, and leaves the other series. -/
theorem failed_series (st : SeriesStore) (c : SeriesCall) (scope : Option String) :
    (st.failed c).series scope =
      if scope = c.scope ∧ (st.series scope).days < c.days then ⟨c.days, (st.series scope).points⟩ else st.series scope := by
  obtain ⟨_ | place, days, force⟩ := c
  · exact cityFailed_series st days scope
  · exact placeFailed_series st place days scope

/-! ## What a step can do -/

/-- A step settles a request, with an answer or without, or it leaves every series as it was. -/
theorem series_cases (w : SeriesPage) (e : SeriesEvent) :
    (∃ k c points, e = .answered k points ∧ w.requests[k]? = some c ∧ w.step e =
      ({ w with store := w.store.answered c points, requests := w.requests.eraseIdx k }, some ⟨c, some points⟩)) ∨
    (∃ k c, e = .failed k ∧ w.requests[k]? = some c ∧ w.step e =
      ({ w with store := w.store.failed c, requests := w.requests.eraseIdx k }, some ⟨c, none⟩)) ∨
    (∃ k c, e = .started k true ∧ w.waiting[k]? = some c ∧ w.store.wants c = true ∧ w.step e =
      (⟨w.store.requested c, w.waiting.eraseIdx k, w.requests ++ [c]⟩, none)) ∨
    (∃ waiting, w.step e = ({ w with waiting }, none)) := by
  cases e with
  | loadCitySeries days => exact Or.inr (Or.inr (Or.inr ⟨_, rfl⟩))
  | loadPlaceSeries place days => exact Or.inr (Or.inr (Or.inr ⟨_, rfl⟩))
  | refreshSeries neighborhoods => exact Or.inr (Or.inr (Or.inr ⟨_, rfl⟩))
  | started k service =>
    cases hc : w.waiting[k]? with
    | none => exact Or.inr (Or.inr (Or.inr ⟨w.waiting, by simp [SeriesPage.step, hc]⟩))
    | some c =>
      by_cases h : (service && w.store.wants c) = true
      · obtain ⟨rfl, hwants⟩ := (Bool.and_eq_true_iff).1 h
        exact Or.inr (Or.inr (Or.inl ⟨k, c, rfl, hc, hwants, by simp [SeriesPage.step, hc, hwants]⟩))
      · exact Or.inr (Or.inr (Or.inr ⟨w.waiting.eraseIdx k, by simp only [SeriesPage.step, hc, if_neg h]⟩))
  | answered k points =>
    cases hc : w.requests[k]? with
    | none => exact Or.inr (Or.inr (Or.inr ⟨w.waiting, by simp [SeriesPage.step, hc]⟩))
    | some c => exact Or.inl ⟨k, c, points, rfl, hc, by simp [SeriesPage.step, hc]⟩
  | failed k =>
    cases hc : w.requests[k]? with
    | none => exact Or.inr (Or.inr (Or.inr ⟨w.waiting, by simp [SeriesPage.step, hc]⟩))
    | some c => exact Or.inr (Or.inl ⟨k, c, rfl, hc, by simp [SeriesPage.step, hc]⟩)

end AirQuality
