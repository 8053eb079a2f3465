import AirQuality.Dashboard.Requests
import AirQuality.Dashboard.SensorPage
import AirQuality.Lib.History
import AirQuality.Lib.Line
import Mathlib.Data.List.ReduceOption

/-!
# What the chart of a sensor shows

Whatever the order in which requests answer, the chart never shows another sensor's or another range's history, and it is loading
exactly while the latest request is not over.
-/

namespace AirQuality.Dashboard

/-! ## Keys -/

/-- The hours of the hourly ranges make whole days. -/
theorem hourlyKey_week (id : String) : hourlyKey id HistoryRange.week.days = id ++ ":7" := by
  unfold hourlyKey
  rw [String.append_assoc]
  rfl

theorem hourlyKey_month (id : String) : hourlyKey id HistoryRange.month.days = id ++ ":30" := by
  unfold hourlyKey
  rw [String.append_assoc]
  rfl

theorem hourlyKey_inj {id id' : String} {range range' : HistoryRange} (hrange : range ≠ .day) (hrange' : range' ≠ .day) :
    hourlyKey id range.days = hourlyKey id' range'.days ↔ id = id' ∧ range = range' := by
  constructor
  swap
  · rintro ⟨rfl, rfl⟩
    rfl
  intro h
  have hlist := congrArg String.toList h
  cases range with
  | day => exact absurd rfl hrange
  | week =>
    cases range' with
    | day => exact absurd rfl hrange'
    | week =>
      rw [hourlyKey_week, hourlyKey_week, String.toList_append, String.toList_append] at hlist
      exact ⟨String.toList_injective (List.append_cancel_right hlist), rfl⟩
    | month =>
      rw [hourlyKey_week, hourlyKey_month, String.toList_append, String.toList_append] at hlist
      have hlast := congrArg List.getLast? hlist
      simp at hlast
  | month =>
    cases range' with
    | day => exact absurd rfl hrange'
    | week =>
      rw [hourlyKey_week, hourlyKey_month, String.toList_append, String.toList_append] at hlist
      have hlast := congrArg List.getLast? hlist
      simp at hlast
    | month =>
      rw [hourlyKey_month, hourlyKey_month, String.toList_append, String.toList_append] at hlist
      exact ⟨String.toList_injective (List.append_cancel_right hlist), rfl⟩

/-! ## The store -/

/-- What a history shows after a reading is applied, it showed before, or it is that reading, live. -/
theorem shows_of_applyReading {st : AirStore} {reading r : Reading} {live : Bool} {id : String}
    (h : (st.applyReading reading live).Shows id r) : st.Shows id r ∨ live = true ∧ r = reading ∧ reading.sensorId = id := by
  unfold AirStore.applyReading at h
  split_ifs at h with hold hlive
  · exact Or.inl h
  · unfold AirStore.appendLive at h
    dsimp only at h
    cases hhistory : st.rawHistory reading.sensorId with
    | none =>
      rw [hhistory] at h
      exact Or.inl h
    | some history =>
      rw [hhistory] at h
      obtain ⟨shown, hshown, hr⟩ := h
      by_cases hid : id = reading.sensorId
      · subst hid
        simp only [Function.update_self, Option.mem_def, Option.some.injEq] at hshown
        subst hshown
        rcases List.mem_append.1 ((List.dropWhile_suffix _).subset hr) with hin | hnew
        · exact Or.inl ⟨history, hhistory, hin⟩
        · exact Or.inr ⟨hlive, List.mem_singleton.1 hnew, rfl⟩
      · dsimp only at hshown
        rw [Function.update_of_ne hid] at hshown
        exact Or.inl ⟨shown, hshown, hr⟩
  · exact Or.inl h

/-- A history that is open stays open. -/
theorem open_applyReading {st : AirStore} {id : String} (h : st.rawHistory id ≠ none) (reading : Reading) (live : Bool) :
    (st.applyReading reading live).rawHistory id ≠ none := by
  unfold AirStore.applyReading
  split_ifs with hold hlive
  · exact h
  · unfold AirStore.appendLive
    dsimp only
    cases hhistory : st.rawHistory reading.sensorId with
    | none => exact h
    | some history =>
      by_cases hid : id = reading.sensorId
      · subst hid
        simp
      · dsimp only
        rwa [Function.update_of_ne hid]
  · exact h

/-! ## Every run -/

/-- The hourly points that a request for this sensor and range was answered with. -/
def hourlyAnswer (id : String) (range : HistoryRange) (o : HistorySettled) : Option (List HourlyPoint) :=
  if o.request.sensorId = id ∧ o.request.range = range then
    match o.answer with
    | some (.hourly points) => some points
    | _ => none
  else none

/-- A reading that came for the history of a sensor: in an answer to a request for it, or live. -/
def CameFor (id : String) (es : List SensorPageEvent) (outs : List HistorySettled) (r : Reading) : Prop :=
  (∃ o ∈ outs, ∃ readings, o.answer = some (.readings readings) ∧ o.request.sensorId = id ∧ o.request.range = .day ∧ r ∈ readings) ∨
    .live r ∈ es ∧ r.sensorId = id

structure PageInv (es : List SensorPageEvent) (outs : List HistorySettled) (s : SensorPage) : Prop where
  made : 1 ≤ s.historyRequest
  /-- Requests are numbered as they are made, and every one is pending or over, once. -/
  numbers : (outs.map (fun o => o.request.number) ++ s.pending.map HistoryRequest.number).Perm (List.range' 1 s.historyRequest)
  /-- The latest is for what the page is about. -/
  latest : ∀ q, q ∈ s.pending ∨ q ∈ outs.map HistorySettled.request → q.number = s.historyRequest →
    q.sensorId = s.sensorId ∧ q.range = s.range
  loading : s.historyLoading = true ↔ ∃ q ∈ s.pending, q.number = s.historyRequest
  fits : ∀ o ∈ outs, (∀ readings, o.answer = some (.readings readings) → o.request.range = .day) ∧
    ∀ points, o.answer = some (.hourly points) → o.request.range ≠ .day
  hourly : ∀ id range, range ≠ .day → s.hourlyHistory (hourlyKey id range.days) = (outs.filterMap (hourlyAnswer id range)).getLast?
  raw : ∀ id r, s.store.Shows id r → CameFor id es outs r
  opened : ∀ o ∈ outs, ∀ readings, o.answer = some (.readings readings) → s.store.rawHistory o.request.sensorId ≠ none

theorem CameFor.mono {id : String} {es es' : List SensorPageEvent} {outs outs' : List HistorySettled} {r : Reading}
    (h : CameFor id es outs r) (hes : es ⊆ es') (houts : outs ⊆ outs') : CameFor id es' outs' r := by
  rcases h with ⟨o, ho, hanswer⟩ | ⟨hlive, hid⟩
  · exact Or.inl ⟨o, houts ho, hanswer⟩
  · exact Or.inr ⟨hes hlive, hid⟩

variable {es : List SensorPageEvent} {outs : List HistorySettled} {s : SensorPage}

theorem PageInv.nodup (h : PageInv es outs s) : (s.pending.map HistoryRequest.number).Nodup :=
  (List.nodup_append.1 (h.numbers.nodup_iff.2 List.nodup_range')).2.1

theorem PageInv.le (h : PageInv es outs s) {q : HistoryRequest} (hq : q ∈ s.pending ∨ q ∈ outs.map HistorySettled.request) :
    q.number ≤ s.historyRequest := by
  have hmem : q.number ∈ List.range' 1 s.historyRequest := by
    refine h.numbers.mem_iff.1 (List.mem_append.2 ?_)
    rcases hq with hq | hq
    · exact Or.inr (List.mem_map_of_mem hq)
    · obtain ⟨o, ho, rfl⟩ := List.mem_map.1 hq
      exact Or.inl (List.mem_map.2 ⟨o, ho, rfl⟩)
  have hrange := List.mem_range'_1.1 hmem
  omega

/-- An event that changes nothing the invariant is about. -/
theorem PageInv.snoc (h : PageInv es outs s) (e : SensorPageEvent) : PageInv (es ++ [e]) outs s :=
  { h with raw := fun id r hr => (h.raw id r hr).mono (List.subset_append_left es [e]) (List.Subset.refl outs) }

/-- The page turns to another sensor or range, and asks for its history. -/
theorem PageInv.loadHistory (h : PageInv es outs s) (e : SensorPageEvent) (sensorId : String) (range : HistoryRange) :
    PageInv (es ++ [e]) outs ({ s with sensorId, range }).loadHistory := by
  have h := h.snoc e
  refine ⟨Nat.le_add_left 1 _, ?_, ?_, ?_, h.fits, h.hourly, h.raw, h.opened⟩
  · change (_ ++ (s.pending ++ [_]).map HistoryRequest.number).Perm (List.range' 1 (s.historyRequest + 1))
    rw [List.map_append, ← List.append_assoc, List.range'_1_concat, Nat.add_comm 1]
    exact h.numbers.append_right _
  · intro q hq hnumber
    change q ∈ s.pending ++ [⟨s.historyRequest + 1, sensorId, range⟩] ∨ _ at hq
    change q.number = s.historyRequest + 1 at hnumber
    have hold : ¬(q ∈ s.pending ∨ q ∈ outs.map HistorySettled.request) := by
      intro hq
      have hle := h.le hq
      omega
    rw [List.mem_append, List.mem_singleton] at hq
    rcases hq with (hq | rfl) | hq
    · exact absurd (Or.inl hq) hold
    · exact ⟨rfl, rfl⟩
    · exact absurd (Or.inr hq) hold
  · exact iff_of_true rfl ⟨_, List.mem_append_right _ (List.mem_singleton_self _), rfl⟩

/-- A request is over, and takes its place among those that are. -/
theorem numbers_settle (h : PageInv es outs s) {q : HistoryRequest} (hq : q ∈ s.pending) (answer : Option HistoryAnswer) :
    ((outs ++ [HistorySettled.mk q answer]).map (fun o => o.request.number) ++
      (s.pending.filter (fun p => decide (p.number ≠ q.number))).map HistoryRequest.number).Perm
      (List.range' 1 s.historyRequest) := by
  have hfilter : (s.pending.filter (fun p => decide (p.number ≠ q.number))).map HistoryRequest.number =
      (s.pending.map HistoryRequest.number).filter (fun n => decide (n ≠ q.number)) := by
    rw [List.filter_map]
    rfl
  rw [List.map_append, List.append_assoc, hfilter]
  exact ((Line.perm_cons_filter h.nodup (List.mem_map_of_mem hq)).append_left _).trans h.numbers

/-- A request is over, and what it was answered with is in the store. -/
theorem PageInv.settle (h : PageInv es outs s) {q : HistoryRequest} (hq : q ∈ s.pending) {answer : Option HistoryAnswer}
    {store : AirStore} {hourlyHistory : String → Option (List HourlyPoint)}
    (hfits : (∀ readings, answer = some (.readings readings) → q.range = .day) ∧
      ∀ points, answer = some (.hourly points) → q.range ≠ .day)
    (hhourly : ∀ id range, range ≠ .day →
      hourlyHistory (hourlyKey id range.days) = ((outs ++ [HistorySettled.mk q answer]).filterMap (hourlyAnswer id range)).getLast?)
    (hraw : ∀ id r, store.Shows id r → CameFor id es (outs ++ [HistorySettled.mk q answer]) r)
    (hopened : ∀ o ∈ outs ++ [HistorySettled.mk q answer], ∀ readings, o.answer = some (.readings readings) →
      store.rawHistory o.request.sensorId ≠ none) :
    PageInv es (outs ++ [HistorySettled.mk q answer]) ({ s with store, hourlyHistory }.settle q) := by
  refine ⟨h.made, numbers_settle h hq answer, ?_, ?_, ?_, hhourly, hraw, hopened⟩
  · intro p hp hnumber
    refine h.latest p ?_ hnumber
    rcases hp with hp | hp
    · exact Or.inl (List.mem_of_mem_filter hp)
    · rw [List.map_append, List.mem_append] at hp
      rcases hp with hp | hp
      · exact Or.inr hp
      · obtain rfl : p = q := List.mem_singleton.1 hp
        exact Or.inl hq
  · change (if q.number = s.historyRequest then false else s.historyLoading) = true ↔
      ∃ p ∈ s.pending.filter (fun p => decide (p.number ≠ q.number)), p.number = s.historyRequest
    split_ifs with hlatest
    · refine iff_of_false id ?_
      rintro ⟨p, hp, hnumber⟩
      exact of_decide_eq_true (List.mem_filter.1 hp).2 (hnumber.trans hlatest.symm)
    · rw [h.loading]
      constructor
      · rintro ⟨p, hp, hnumber⟩
        refine ⟨p, List.mem_filter.2 ⟨hp, decide_eq_true ?_⟩, hnumber⟩
        intro heq
        exact hlatest (heq.symm.trans hnumber)
      · rintro ⟨p, hp, hnumber⟩
        exact ⟨p, List.mem_of_mem_filter hp, hnumber⟩
  · intro o ho
    rcases List.mem_append.1 ho with ho | ho
    · exact h.fits o ho
    · rw [List.mem_singleton.1 ho]
      exact hfits

/-- Where a request is over without hourly points, no hourly history changes. -/
theorem hourly_other (h : PageInv es outs s) {q : HistoryRequest} {answer : Option HistoryAnswer}
    (hanswer : ∀ points, answer ≠ some (.hourly points)) (id : String) (range : HistoryRange) (hrange : range ≠ .day) :
    s.hourlyHistory (hourlyKey id range.days) = ((outs ++ [HistorySettled.mk q answer]).filterMap (hourlyAnswer id range)).getLast? := by
  have hnone : [HistorySettled.mk q answer].filterMap (hourlyAnswer id range) = [] := by
    refine List.filterMap_cons_none ?_
    unfold hourlyAnswer
    split_ifs
    · cases answer with
      | none => rfl
      | some a =>
        cases a with
        | readings readings => rfl
        | hourly points => exact absurd rfl (hanswer points)
    · rfl
  rw [List.filterMap_append, hnone, List.append_nil]
  exact h.hourly id range hrange

theorem PageInv.failed (h : PageInv es outs s) {q : HistoryRequest} (hq : q ∈ s.pending) :
    PageInv es (outs ++ [HistorySettled.mk q none]) (s.settle q) := by
  refine h.settle hq ⟨by simp, by simp⟩ ?_ ?_ ?_
  · exact hourly_other h (by simp)
  · intro id r hr
    exact (h.raw id r hr).mono (List.Subset.refl es) (List.subset_append_left outs _)
  · intro o ho readings hanswer
    rcases List.mem_append.1 ho with ho | ho
    · exact h.opened o ho readings hanswer
    · rw [List.mem_singleton.1 ho] at hanswer
      cases hanswer

theorem PageInv.readings (h : PageInv es outs s) {q : HistoryRequest} (hq : q ∈ s.pending) (hday : q.range = .day)
    (readings : List Reading) :
    PageInv es (outs ++ [HistorySettled.mk q (some (.readings readings))])
      ({ s with store := s.store.loadReadings q.sensorId q.range.hours readings }.settle q) := by
  refine h.settle hq ⟨fun _ _ => hday, by simp⟩ ?_ ?_ ?_
  · exact hourly_other h (by simp)
  · intro id r hr
    have hold : s.store.Shows id r → CameFor id es (outs ++ [HistorySettled.mk q (some (.readings readings))]) r := fun hr =>
      (h.raw id r hr).mono (List.Subset.refl es) (List.subset_append_left outs _)
    by_cases hid : id = q.sensorId
    · subst hid
      rcases (shows_loadReadings_iff s.store q.sensorId q.range.hours readings r).1 hr with hin | ⟨-, hin⟩
      · exact Or.inl ⟨_, List.mem_append_right _ (List.mem_singleton_self _), readings, rfl, rfl, hday, hin⟩
      · exact hold hin
    · unfold AirStore.Shows at hr
      rw [loadReadings_other _ _ _ _ hid] at hr
      exact hold hr
  · intro o ho readings' hanswer
    by_cases hid : o.request.sensorId = q.sensorId
    · rw [hid]
      simp [AirStore.loadReadings]
    · rw [loadReadings_other _ _ _ _ hid]
      rcases List.mem_append.1 ho with ho | ho
      · exact h.opened o ho readings' hanswer
      · rw [List.mem_singleton.1 ho] at hid
        exact absurd rfl hid

theorem PageInv.hourlyPoints (h : PageInv es outs s) {q : HistoryRequest} (hq : q ∈ s.pending) (hday : q.range ≠ .day)
    (points : List HourlyPoint) :
    PageInv es (outs ++ [HistorySettled.mk q (some (.hourly points))])
      ({ s with hourlyHistory := Function.update s.hourlyHistory (hourlyKey q.sensorId q.range.days) (some points) }.settle q) := by
  refine h.settle hq ⟨by simp, fun _ _ => hday⟩ ?_ ?_ ?_
  · intro id range hrange
    rw [List.filterMap_append]
    by_cases hsame : q.sensorId = id ∧ q.range = range
    · obtain ⟨rfl, rfl⟩ := hsame
      have hlast : [HistorySettled.mk q (some (.hourly points))].filterMap (hourlyAnswer q.sensorId q.range) = [points] :=
        List.filterMap_cons_some (if_pos ⟨rfl, rfl⟩)
      rw [Function.update_self, hlast, List.getLast?_concat]
    · have hkey : hourlyKey id range.days ≠ hourlyKey q.sensorId q.range.days := by
        intro heq
        obtain ⟨rfl, rfl⟩ := (hourlyKey_inj hrange hday).1 heq
        exact hsame ⟨rfl, rfl⟩
      have hnone : [HistorySettled.mk q (some (.hourly points))].filterMap (hourlyAnswer id range) = [] :=
        List.filterMap_cons_none (if_neg hsame)
      rw [Function.update_of_ne hkey, hnone, List.append_nil]
      exact h.hourly id range hrange
  · intro id r hr
    exact (h.raw id r hr).mono (List.Subset.refl es) (List.subset_append_left outs _)
  · intro o ho readings hanswer
    rcases List.mem_append.1 ho with ho | ho
    · exact h.opened o ho readings hanswer
    · rw [List.mem_singleton.1 ho] at hanswer
      cases hanswer

/-- A reading comes to the store. -/
theorem PageInv.applyReading (h : PageInv es outs s) (reading : Reading) {live : Bool} {e : SensorPageEvent}
    (he : live = true → e = .live reading) :
    PageInv (es ++ [e]) outs { s with store := s.store.applyReading reading live } := by
  refine { h.snoc e with raw := ?_, opened := ?_ }
  · intro id r hr
    rcases shows_of_applyReading hr with hold | ⟨hlive, rfl, hid⟩
    · exact (h.snoc e).raw id r hold
    · exact Or.inr ⟨he hlive ▸ List.mem_append_right _ (List.mem_singleton_self _), hid⟩
  · intro o ho readings hanswer
    exact open_applyReading (h.opened o ho readings hanswer) reading live

/-- The latest request is pending, or over. -/
theorem PageInv.exists_latest (h : PageInv es outs s) :
    ∃ q, (q ∈ s.pending ∨ q ∈ outs.map HistorySettled.request) ∧ q.number = s.historyRequest := by
  have hnumber : s.historyRequest ∈ List.range' 1 s.historyRequest := List.mem_range'_1.2 ⟨h.made, by omega⟩
  rcases List.mem_append.1 (h.numbers.mem_iff.2 hnumber) with hmem | hmem
  · obtain ⟨o, ho, heq⟩ := List.mem_map.1 hmem
    exact ⟨o.request, Or.inr (List.mem_map_of_mem ho), heq⟩
  · obtain ⟨q, hq, heq⟩ := List.mem_map.1 hmem
    exact ⟨q, Or.inl hq, heq⟩

/-- The page is loading exactly while the latest request is not over. -/
theorem PageInv.loading_iff (h : PageInv es outs s) :
    s.historyLoading = true ↔ ∀ o ∈ outs, o.request.number ≠ s.historyRequest := by
  rw [h.loading]
  have hnodup := h.numbers.nodup_iff.2 List.nodup_range'
  constructor
  · rintro ⟨q, hq, hnumber⟩ o ho heq
    exact (List.nodup_append.1 hnodup).2.2 _ (List.mem_map_of_mem ho) _ (List.mem_map_of_mem hq) (heq.trans hnumber.symm)
  · intro hover
    obtain ⟨q, hq | hq, hnumber⟩ := h.exists_latest
    · exact ⟨q, hq, hnumber⟩
    · obtain ⟨o, ho, rfl⟩ := List.mem_map.1 hq
      exact absurd hnumber (hover o ho)

/-- There is one latest request, and it is for the sensor and the range that are shown. -/
theorem PageInv.latest_iff (h : PageInv es outs s) (q : HistoryRequest) :
    (q ∈ s.pending ∨ q ∈ outs.map HistorySettled.request) ∧ q.number = s.historyRequest ↔
      q = ⟨s.historyRequest, s.sensorId, s.range⟩ := by
  have hshown : ∀ q, (q ∈ s.pending ∨ q ∈ outs.map HistorySettled.request) ∧ q.number = s.historyRequest →
      q = ⟨s.historyRequest, s.sensorId, s.range⟩ := by
    rintro ⟨number, sensorId, range⟩ ⟨hq, hnumber⟩
    obtain ⟨rfl, rfl⟩ := h.latest _ hq hnumber
    obtain rfl : number = s.historyRequest := hnumber
    rfl
  constructor
  · exact hshown q
  · rintro rfl
    obtain ⟨q, hq⟩ := h.exists_latest
    exact hshown q hq ▸ hq

/-- A request for the sensor and the range that are shown leaves their history behind if it is answered. -/
theorem PageInv.left (h : PageInv es outs s) {o : HistorySettled} (ho : o ∈ outs) (hid : o.request.sensorId = s.sensorId)
    (hrange : o.request.range = s.range) (hanswer : o.answer ≠ none) :
    if s.range = .day then s.store.rawHistory s.sensorId ≠ none
    else s.hourlyHistory (hourlyKey s.sensorId s.range.days) ≠ none := by
  cases ha : o.answer with
  | none => exact absurd ha hanswer
  | some answer =>
    cases answer with
    | readings readings =>
      have hday := (h.fits o ho).1 readings ha
      rw [if_pos (hrange ▸ hday), ← hid]
      exact h.opened o ho readings ha
    | hourly points =>
      have hday := (h.fits o ho).2 points ha
      rw [if_neg (hrange ▸ hday), h.hourly s.sensorId s.range (hrange ▸ hday)]
      intro hnone
      have hmem : points ∈ outs.filterMap (hourlyAnswer s.sensorId s.range) := by
        refine List.mem_filterMap.2 ⟨o, ho, ?_⟩
        unfold hourlyAnswer
        rw [if_pos ⟨hid, hrange⟩, ha]
      rw [List.getLast?_eq_none_iff] at hnone
      rw [hnone] at hmem
      cases hmem

/-- A point of the last day is a reading that came for the sensor. -/
theorem PageInv.point_came (h : PageInv es outs s) (hrange : s.range = .day) {metric : MetricId} {point : ℤ × ℚ}
    (hpoint : point ∈ s.points metric) : ∃ r, point = (r.time, metric.value r) ∧ CameFor s.sensorId es outs r := by
  unfold SensorPage.points at hpoint
  rw [if_pos hrange] at hpoint
  obtain ⟨r, hr, rfl⟩ := List.mem_map.1 hpoint
  refine ⟨r, rfl, h.raw s.sensorId r ?_⟩
  cases hhistory : s.store.rawHistory s.sensorId with
  | none =>
    rw [hhistory] at hr
    cases hr
  | some history =>
    rw [hhistory] at hr
    exact ⟨history, hhistory, hr⟩

theorem pageInv_init (unicodeLower : String → String) (id : String) : PageInv [] [] (SensorPage.init unicodeLower id) := by
  refine ⟨Nat.le_refl 1, List.Perm.refl _, ?_, ?_, ?_, fun _ _ _ => rfl, ?_, ?_⟩
  · rintro q (hq | hq) -
    · obtain rfl := List.mem_singleton.1 hq
      exact ⟨rfl, rfl⟩
    · cases hq
  · exact iff_of_true rfl ⟨_, List.mem_singleton_self _, rfl⟩
  · intro o ho
    cases ho
  · rintro id r ⟨history, hhistory, -⟩
    cases hhistory
  · intro o ho
    cases ho

theorem pageInv_step (unicodeLower : String → String) (h : PageInv es outs s) (e : SensorPageEvent) :
    PageInv (es ++ [e]) (outs ++ (s.step unicodeLower e).2.toList) (s.step unicodeLower e).1 := by
  have hidle : PageInv (es ++ [e]) (outs ++ []) s := (List.append_nil outs).symm ▸ h.snoc e
  cases e with
  | goTo id range =>
    simp only [SensorPage.step]
    split_ifs
    · exact hidle
    · exact (List.append_nil outs).symm ▸ h.loadHistory _ _ range
  | live reading => exact (List.append_nil outs).symm ▸ h.applyReading reading (fun _ => rfl)
  | polled reading => exact (List.append_nil outs).symm ▸ h.applyReading reading (fun hlive => absurd hlive Bool.false_ne_true)
  | failed number =>
    cases hfind : s.pending.find? (fun q => decide (q.number = number)) with
    | none =>
      simp only [SensorPage.step, hfind]
      exact hidle
    | some q =>
      simp only [SensorPage.step, hfind]
      exact (h.snoc _).failed (List.mem_of_find?_eq_some hfind)
  | answered number answer =>
    cases hfind : s.pending.find? (fun q => decide (q.number = number)) with
    | none =>
      simp only [SensorPage.step, hfind]
      exact hidle
    | some q =>
      have hq := List.mem_of_find?_eq_some hfind
      by_cases hday : q.range = .day
      · cases answer with
        | readings readings =>
          simp only [SensorPage.step, hfind, SensorPage.answered, if_pos hday]
          exact (h.snoc _).readings hq hday readings
        | hourly points =>
          simp only [SensorPage.step, hfind, SensorPage.answered, if_pos hday]
          exact hidle
      · cases answer with
        | readings readings =>
          simp only [SensorPage.step, hfind, SensorPage.answered, if_neg hday]
          exact hidle
        | hourly points =>
          simp only [SensorPage.step, hfind, SensorPage.answered, if_neg hday]
          exact (h.snoc _).hourlyPoints hq hday points

section

variable (unicodeLower : String → String) (id : String)

/-- The requests that are over after a run, in the order in which they ended. -/
def pageSettled (es : List SensorPageEvent) : List HistorySettled :=
  ((sensorPageMachine unicodeLower).outputs (SensorPage.init unicodeLower id) es).reduceOption

def pageRun (es : List SensorPageEvent) : SensorPage := (sensorPageMachine unicodeLower).run (SensorPage.init unicodeLower id) es

theorem pageInv_run (es : List SensorPageEvent) : PageInv es (pageSettled unicodeLower id es) (pageRun unicodeLower id es) := by
  refine @Machine.run_history _ _ _ (sensorPageMachine unicodeLower)
    (fun es s => PageInv es (pageSettled unicodeLower id es) s) _ (pageInv_init unicodeLower id) ?_ es
  intro es e h
  have hsettled : pageSettled unicodeLower id (es ++ [e]) =
      pageSettled unicodeLower id es ++ ((pageRun unicodeLower id es).step unicodeLower e).2.toList := by
    unfold pageSettled
    rw [Machine.outputs_snoc, List.reduceOption_append, List.reduceOption_singleton]
    rfl
  rw [hsettled]
  exact pageInv_step unicodeLower h e

/-- In every run of the page, whatever sensors and ranges the reader goes through and in whatever order the requests answer or fail:
it is loading exactly while the latest request is not over; there is one such, pending or over, it is for the sensor and the range
chosen, and it leaves their history behind if it is answered; the chart of an hourly range is the last answer to a request for this sensor and this range, and nothing
before there is one; and a point of the last day is a reading that came for this sensor. -/
theorem sensor_page (es : List SensorPageEvent) :
    let s := pageRun unicodeLower id es
    let settled := pageSettled unicodeLower id es
    (s.historyLoading = true ↔ ∀ o ∈ settled, o.request.number ≠ s.historyRequest) ∧
      (∀ q : HistoryRequest, (q ∈ s.pending ∨ q ∈ settled.map HistorySettled.request) ∧ q.number = s.historyRequest ↔
        q = ⟨s.historyRequest, s.sensorId, s.range⟩) ∧
      (∀ o ∈ settled, o.request.number = s.historyRequest → o.request.sensorId = s.sensorId ∧ o.request.range = s.range ∧
        (o.answer ≠ none → if s.range = .day then s.store.rawHistory s.sensorId ≠ none
          else s.hourlyHistory (hourlyKey s.sensorId s.range.days) ≠ none)) ∧
      (s.range ≠ .day → ∀ metric : MetricId, s.points metric =
        ((settled.filterMap (hourlyAnswer s.sensorId s.range)).getLast?.getD []).map (fun p => (p.time, metric.hourly p))) ∧
      (s.range = .day → ∀ metric : MetricId, ∀ point ∈ s.points metric, ∃ r, point = (r.time, metric.value r) ∧
        CameFor s.sensorId es settled r) := by
  intro s settled
  have h : PageInv es settled s := pageInv_run unicodeLower id es
  refine ⟨h.loading_iff, h.latest_iff, ?_, ?_, ?_⟩
  · intro o ho hnumber
    obtain ⟨hid, hrange⟩ := h.latest o.request (Or.inr (List.mem_map_of_mem ho)) hnumber
    exact ⟨hid, hrange, h.left ho hid hrange⟩
  · intro hrange metric
    unfold SensorPage.points
    rw [if_neg hrange, h.hourly s.sensorId s.range hrange]
  · intro hrange metric point hpoint
    exact h.point_came hrange hpoint

end

end AirQuality.Dashboard
