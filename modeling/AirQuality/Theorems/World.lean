import AirQuality.System.World
import AirQuality.Theorems.Fleet
import AirQuality.Theorems.Routes

/-!
# What a page shows

Whatever is on screen was measured. The page only ever works on what the stores of ingestion held, by way of the three routes; so
what is known of the readings there is known of the readings here.
-/

namespace AirQuality

open Dashboard

/-! ## The store of the page -/

/-- Every reading the store shows has `R`, and a latest reading is under its own sensor. -/
structure AirStore.All (R : Reading → Prop) (st : AirStore) : Prop where
  latest : ∀ sensorId, ∀ reading ∈ st.latest sensorId, reading.sensorId = sensorId ∧ R reading
  rawHistory : ∀ sensorId, ∀ history ∈ st.rawHistory sensorId, ∀ reading ∈ history.readings, R reading

variable {R R' : Reading → Prop} {st : AirStore}

theorem AirStore.All.mono (h : st.All R) (hR : ∀ reading, R reading → R' reading) : st.All R' where
  latest := fun sensorId reading hreading =>
    ⟨(h.latest sensorId reading hreading).1, hR reading (h.latest sensorId reading hreading).2⟩
  rawHistory := fun sensorId history hhistory reading hreading =>
    hR reading (h.rawHistory sensorId history hhistory reading hreading)

/-- Only the latest readings and the histories matter. -/
theorem all_congr {st' : AirStore} (h : st.All R) (hlatest : st'.latest = st.latest) (hraw : st'.rawHistory = st.rawHistory) :
    st'.All R := by
  refine ⟨?_, ?_⟩
  · rw [hlatest]
    exact h.latest
  · rw [hraw]
    exact h.rawHistory

theorem all_applyReading (h : st.All R) {reading : Reading} (hreading : R reading) (live : Bool) :
    (st.applyReading reading live).All R := by
  refine ⟨?_, ?_⟩
  · intro sensorId r hr
    rw [applyReading_eq] at hr
    change Newest.put Reading.sensorId Reading.time st.latest reading sensorId = some r at hr
    by_cases hhas : st.Has reading
    · rw [Newest.put_of_caughtUp hhas] at hr
      exact h.latest sensorId r hr
    · rw [Newest.put_of_not_caughtUp hhas, Function.update_apply] at hr
      split_ifs at hr with hsensor
      · obtain rfl := Option.some.inj hr
        exact ⟨hsensor.symm, hreading⟩
      · exact h.latest sensorId r hr
  · intro sensorId history hhistory r hr
    rw [Option.mem_def, applyReading_rawHistory] at hhistory
    split_ifs at hhistory with hlive
    · obtain ⟨old, hold, rfl⟩ := Option.map_eq_some_iff.1 hhistory
      rcases List.mem_append.1 ((List.dropWhile_suffix _).subset hr) with hr | hr
      · exact h.rawHistory sensorId old hold r hr
      · rw [List.mem_singleton.1 hr]
        exact hreading
    · exact h.rawHistory sensorId history hhistory r hr

theorem all_applyAll (h : st.All R) {readings : List Reading} (hreadings : ∀ r ∈ readings, R r) :
    (st.applyAll readings).All R := by
  unfold AirStore.applyAll
  induction readings generalizing st with
  | nil => exact h
  | cons reading readings ih =>
    rw [List.foldl_cons]
    refine ih (all_applyReading h (hreadings reading List.mem_cons_self) false) ?_
    intro r hr
    exact hreadings r (List.mem_cons_of_mem _ hr)

theorem all_loadReadings (h : st.All R) (sensorId : String) (hours : Nat) {readings : List Reading}
    (hreadings : ∀ r ∈ readings, R r) : (st.loadReadings sensorId hours readings).All R := by
  refine ⟨h.latest, ?_⟩
  intro other history hhistory r hr
  by_cases hother : other = sensorId
  · subst hother
    rcases (shows_loadReadings_iff st other hours readings r).1 ⟨history, hhistory, hr⟩ with hr | ⟨-, old, hold, hr⟩
    · exact hreadings r hr
    · exact h.rawHistory other old hold r hr
  · rw [Option.mem_def, loadReadings_other st sensorId hours readings hother] at hhistory
    exact h.rawHistory other history hhistory r hr

theorem all_pollDone (h : st.All R) : st.pollDone.All R := by
  unfold AirStore.pollDone
  split_ifs
  · exact all_congr h rfl rfl
  · exact h

theorem all_pollFailed (h : st.All R) : st.pollFailed.All R := by
  unfold AirStore.pollFailed
  split_ifs
  · exact all_congr h rfl rfl
  · exact h

theorem all_answered (h : st.All R) (caller : LatestCaller) {readings : List Reading} (hreadings : ∀ r ∈ readings, R r) :
    (st.answered caller readings).All R := by
  have happlied := all_applyAll h hreadings
  cases caller with
  | load => exact all_congr happlied rfl rfl
  | syncLatest => exact happlied
  | poll => exact all_pollDone happlied

theorem onConnection_data (st : AirStore) (connected : Bool) :
    (st.onConnection connected).1.latest = st.latest ∧ (st.onConnection connected).1.rawHistory = st.rawHistory := by
  cases connected with
  | true => exact ⟨rfl, rfl⟩
  | false =>
    simp only [AirStore.onConnection, Bool.false_eq_true, if_false]
    constructor
    · split_ifs <;> rfl
    · split_ifs <;> rfl

/-! ## The page -/

section

variable {unicodeLower : String → String} {dateParse : String → Option ℤ} {toISOString : ℤ → String}
  {P P' : ReadingPayload → Prop} {w : World}

variable (unicodeLower) in
/-- The reading is how the views have a payload with `P`. -/
def ShownOf (P : ReadingPayload → Prop) (reading : Reading) : Prop := ∃ p, P p ∧ reading = p.shown unicodeLower

variable (toISOString) in
/-- Everything in an answer is a payload with `P`. -/
def PageRequest.Answers (P : ReadingPayload → Prop) : PageRequest → Prop
  | .latest _ answer => ∀ rs ∈ answer, ∀ r ∈ rs, ∃ p, P p ∧ r = p.response toISOString
  | .readings _ _ answer => ∀ rs ∈ answer, ∀ r ∈ rs, ∃ p, P p ∧ r = p.row toISOString

variable (unicodeLower toISOString) in
/-- Everything that has reached the page is of payloads with `P`. -/
structure PageOk (P : ReadingPayload → Prop) (w : World) : Prop where
  queue : ∀ r ∈ w.queue, ∃ p, P p ∧ r = p.response toISOString
  requests : ∀ r ∈ w.requests, r.Answers toISOString P
  store : w.store.All (ShownOf unicodeLower P)

theorem answers_mono {r : PageRequest} (h : r.Answers toISOString P) (hP : ∀ p, P p → P' p) : r.Answers toISOString P' := by
  cases r with
  | latest caller answer =>
    intro rs hrs r hr
    obtain ⟨p, hp, hrp⟩ := h rs hrs r hr
    exact ⟨p, hP p hp, hrp⟩
  | readings sensorId hours answer =>
    intro rs hrs r hr
    obtain ⟨p, hp, hrp⟩ := h rs hrs r hr
    exact ⟨p, hP p hp, hrp⟩

theorem PageOk.mono (h : PageOk unicodeLower toISOString P w) (hP : ∀ p, P p → P' p) :
    PageOk unicodeLower toISOString P' w where
  queue := by
    intro r hr
    obtain ⟨p, hp, hrp⟩ := h.queue r hr
    exact ⟨p, hP p hp, hrp⟩
  requests := fun r hr => answers_mono (h.requests r hr) hP
  store := by
    refine h.store.mono ?_
    rintro reading ⟨p, hp, hrp⟩
    exact ⟨p, hP p hp, hrp⟩

/-- A request that is made has no answer yet. -/
theorem pageOk_ask (h : PageOk unicodeLower toISOString P w) {r : PageRequest} (hr : r.Answers toISOString P) :
    PageOk unicodeLower toISOString P (w.ask r) where
  queue := h.queue
  requests := by
    intro r' hr'
    rcases List.mem_append.1 hr' with hr' | hr'
    · exact h.requests r' hr'
    · rw [List.mem_singleton.1 hr']
      exact hr
  store := h.store

/-- The store may change in all but its readings. -/
theorem pageOk_with_store (h : PageOk unicodeLower toISOString P w) {st : AirStore} (hst : st.All (ShownOf unicodeLower P)) :
    PageOk unicodeLower toISOString P { w with store := st } := ⟨h.queue, h.requests, hst⟩

/-- What the API reads is what ingestion has stored. -/
theorem answers_read (hlatest : ∀ d, ∀ p ∈ w.fleet.service.latest d, P p) (hreadings : ∀ p ∈ w.fleet.service.readings, P p)
    (now : ℤ) {r : PageRequest} (hr : r.Answers toISOString P) : (w.read toISOString now r).Answers toISOString P := by
  cases r with
  | latest caller answer =>
    cases answer with
    | some rs => exact hr
    | none =>
      intro rs hrs r hr
      obtain rfl := Option.some.inj hrs
      obtain ⟨d, -, hd⟩ := List.mem_filterMap.1 hr
      obtain ⟨p, hp, rfl⟩ := Option.map_eq_some_iff.1 hd
      exact ⟨p, hlatest d p hp, rfl⟩
  | readings sensorId hours answer =>
    cases answer with
    | some rs => exact hr
    | none =>
      intro rs hrs r hr
      obtain rfl := Option.some.inj hrs
      obtain ⟨p, hp, rfl⟩ := mem_sensorReadings hr
      exact ⟨p, hreadings p hp, rfl⟩

/-- An answer that comes is of payloads with `P`, and so is what the store then shows. -/
theorem pageOk_answer (hP : ∀ p, P p → p.reading.deviceId ≠ "" ∧
      dateParse (toISOString p.reading.timestamp) = some p.reading.timestamp)
    (h : PageOk unicodeLower toISOString P w) {r : PageRequest} (hr : r.Answers toISOString P) :
    PageOk unicodeLower toISOString P (w.answer unicodeLower dateParse r) := by
  cases r with
  | latest caller answer =>
    cases answer with
    | none => exact h
    | some rs =>
      refine pageOk_with_store h (all_answered h.store caller ?_)
      intro reading hreading
      obtain ⟨o, ho, hread⟩ := List.mem_filterMap.1 hreading
      obtain ⟨r, hmem, rfl⟩ := List.mem_map.1 ho
      obtain ⟨p, hp, rfl⟩ := hr rs rfl r hmem
      rw [toReading_response (hP p hp).1 (hP p hp).2] at hread
      exact ⟨p, hp, (Option.some.inj hread).symm⟩
  | readings sensorId hours answer =>
    cases answer with
    | none => exact h
    | some rs =>
      refine pageOk_with_store h (all_loadReadings h.store sensorId hours ?_)
      intro reading hreading
      obtain ⟨o, ho, hread⟩ := List.mem_filterMap.1 (List.mem_reverse.1 hreading)
      obtain ⟨r, hmem, rfl⟩ := List.mem_map.1 ho
      obtain ⟨p, hp, rfl⟩ := hr rs rfl r hmem
      rw [toReading_row (hP p hp).1 (hP p hp).2] at hread
      exact ⟨p, hp, (Option.some.inj hread).symm⟩

/-- An event that is not one of the fleet leaves the fleet as it is, and brings nothing else to the page. -/
theorem pageOk_step (hP : ∀ p, P p → p.reading.deviceId ≠ "" ∧
      dateParse (toISOString p.reading.timestamp) = some p.reading.timestamp)
    (hlatest : ∀ d, ∀ p ∈ w.fleet.service.latest d, P p) (hreadings : ∀ p ∈ w.fleet.service.readings, P p)
    (h : PageOk unicodeLower toISOString P w) {e : WorldEvent} (he : e.fleetEvent = none) :
    (w.step unicodeLower dateParse toISOString e).fleet = w.fleet ∧
      PageOk unicodeLower toISOString P (w.step unicodeLower dateParse toISOString e) := by
  have hnone : ∀ caller, (PageRequest.latest caller none).Answers toISOString P := by
    intro caller rs hrs
    cases hrs
  cases e with
  | fleet e relayed => cases he
  | register sensors => exact ⟨rfl, h.queue, h.requests, h.store⟩
  | start =>
    have hstart : PageOk unicodeLower toISOString P { w with store := { w.store with starting := true } } :=
      pageOk_with_store h (all_congr h.store rfl rfl)
    rw [World.step]
    split_ifs
    · exact ⟨rfl, h⟩
    · exact ⟨rfl, pageOk_ask hstart (hnone _)⟩
  | retry =>
    have hstart : PageOk unicodeLower toISOString P { w with store := { w.store with starting := true } } :=
      pageOk_with_store h (all_congr h.store rfl rfl)
    exact ⟨rfl, pageOk_ask hstart (hnone _)⟩
  | socket connected =>
    have hst : (w.store.onConnection connected).1.All (ShownOf unicodeLower P) :=
      all_congr h.store (onConnection_data w.store connected).1 (onConnection_data w.store connected).2
    have hpage : PageOk unicodeLower toISOString P { w with store := (w.store.onConnection connected).1, connected } :=
      ⟨h.queue, h.requests, hst⟩
    simp only [World.step]
    split_ifs
    · exact ⟨rfl, pageOk_ask hpage (hnone _)⟩
    · exact ⟨rfl, hpage⟩
    · exact ⟨rfl, h⟩
  | onReading =>
    cases hq : w.queue with
    | nil =>
      simp only [World.step, hq]
      exact ⟨trivial, h⟩
    | cons r queue =>
      obtain ⟨p, hp, rfl⟩ := h.queue r (hq ▸ List.mem_cons_self)
      simp only [World.step, hq, toReading_response (hP p hp).1 (hP p hp).2]
      refine ⟨trivial, fun r hr => h.queue r (hq ▸ List.mem_cons_of_mem _ hr), h.requests, ?_⟩
      exact all_applyReading h.store ⟨p, hp, rfl⟩ true
  | pollDelay =>
    have hfired : PageOk unicodeLower toISOString P { w with store := w.store.pollDelayFired } :=
      pageOk_with_store h (all_congr h.store rfl rfl)
    rw [World.step]
    split_ifs
    · exact ⟨rfl, pageOk_ask hfired (hnone _)⟩
    · exact ⟨rfl, h⟩
  | pollTimer =>
    rw [World.step]
    split_ifs
    · exact ⟨rfl, pageOk_ask h (hnone _)⟩
    · exact ⟨rfl, h⟩
  | onVisible =>
    rw [World.step]
    split_ifs
    · exact ⟨rfl, pageOk_ask h (hnone _)⟩
    · exact ⟨rfl, h⟩
  | loadReadings sensorId hours =>
    refine ⟨rfl, pageOk_ask h ?_⟩
    intro rs hrs
    cases hrs
  | read k now =>
    refine ⟨rfl, h.queue, fun r hr => ?_, h.store⟩
    obtain ⟨j, hj⟩ := List.getElem?_of_mem hr
    rw [World.step, List.getElem?_modify] at hj
    obtain ⟨old, hold, rfl⟩ := Option.map_eq_some_iff.1 hj
    have hanswers := h.requests old (List.mem_of_getElem? hold)
    split_ifs
    · exact answers_read hlatest hreadings now hanswers
    · exact hanswers
  | answered k =>
    rw [World.step]
    cases hk : w.requests[k]? with
    | none => exact ⟨rfl, h⟩
    | some r =>
      have hpage := pageOk_answer hP h (h.requests r (List.mem_of_getElem? hk))
      have hfleet : (w.answer unicodeLower dateParse r).fleet = w.fleet := by
        rcases r with ⟨caller, _ | rs⟩ | ⟨sensorId, hours, _ | rs⟩ <;> rfl
      dsimp only
      split_ifs
      · exact ⟨hfleet, hpage.queue, fun r' hr' => h.requests r' (List.eraseIdx_subset hr'), hpage.store⟩
      · exact ⟨rfl, h⟩
  | failed k =>
    rw [World.step]
    cases hk : w.requests[k]? with
    | none => exact ⟨rfl, h⟩
    | some r =>
      have hfail : (w.fail r).fleet = w.fleet ∧ (w.fail r).queue = w.queue ∧
          (w.fail r).store.All (ShownOf unicodeLower P) := by
        rcases r with ⟨caller, answer⟩ | ⟨sensorId, hours, answer⟩
        · cases caller with
          | poll => exact ⟨rfl, rfl, all_pollFailed h.store⟩
          | load => exact ⟨rfl, rfl, h.store⟩
          | syncLatest => exact ⟨rfl, rfl, h.store⟩
        · exact ⟨rfl, rfl, h.store⟩
      obtain ⟨hfleet, hqueue, hstore⟩ := hfail
      refine ⟨hfleet, ?_, fun r' hr' => h.requests r' (List.eraseIdx_subset hr'), hstore⟩
      change ∀ r' ∈ (w.fail r).queue, _
      rw [hqueue]
      exact h.queue

/-! ## Whole runs -/

variable {flash : String → Flash}

/-- No step of the fleet takes a row away. -/
theorem readingKeys_fleetStep {f : Fleet} {key : String × ℤ} (h : key ∈ readingKeys f.service.readings) (e : FleetEvent) :
    key ∈ readingKeys (f.step dateParse e).service.readings := by
  rcases step_service dateParse f e with hstep | ⟨a, hstep, -⟩ | hstep | ⟨devEui, hstep⟩
  · rwa [hstep]
  · rw [hstep]
    exact readingKeys_step h a
  · rwa [hstep]
  · rwa [hstep]

variable (dateParse flash) in
/-- The payload is genuine, and a row with its sensor and time is stored. -/
def Stored (es : List FleetEvent) (p : ReadingPayload) : Prop :=
  p.id ∈ readingKeys (fleetRun dateParse flash es).service.readings ∧ Genuine dateParse flash es p

theorem Stored.append {es : List FleetEvent} {p : ReadingPayload} (h : Stored dateParse flash es p) (e : FleetEvent) :
    Stored dateParse flash (es ++ [e]) p := by
  refine ⟨?_, h.2.append e⟩
  rw [fleetRun_snoc]
  exact readingKeys_fleetStep h.1 e

variable (dateParse flash) in
/-- What the stores of ingestion hold is stored and genuine. -/
theorem stored_of_fleet (es : List FleetEvent) :
    (∀ d, ∀ p ∈ (fleetRun dateParse flash es).service.latest d, Stored dateParse flash es p) ∧
    (∀ p ∈ (fleetRun dateParse flash es).service.readings, Stored dateParse flash es p) ∧
    (∀ p ∈ (fleetRun dateParse flash es).service.published, Stored dateParse flash es p) := by
  have hholds := fleetRun_holds dateParse flash es
  have hshown := fleetRun_shownStored dateParse flash es
  refine ⟨fun d p hp => ?_, fun p hp => ?_, fun p hp => ?_⟩
  · exact ⟨hshown.latest d p hp, (hholds.latest d p hp).2⟩
  · exact ⟨List.mem_map.2 ⟨p, hp, rfl⟩, hholds.readings p hp⟩
  · exact ⟨hshown.published p hp, hholds.published p hp⟩

/-- A stored payload can be mapped by the page, if `Date` reads back the times it writes. -/
theorem Stored.mappable (hdate : ∀ t, isoDatetimeOk t = true → dateParse (toISOString t) = some t) {es : List FleetEvent}
    {p : ReadingPayload} (h : Stored dateParse flash es p) :
    p.reading.deviceId ≠ "" ∧ dateParse (toISOString p.reading.timestamp) = some p.reading.timestamp := by
  have hok := h.2.1
  simp only [sensorReadingOk, Bool.and_eq_true, decide_eq_true_eq] at hok
  exact ⟨hok.1.1.1.1.1.1.1.1, hdate _ hok.1.1.1.1.1.1.1.2⟩

variable (unicodeLower) in
/-- The fleet of a run is that of its fleet events, and what has reached the page is stored and genuine. -/
theorem worldRun_ok (hdate : ∀ t, isoDatetimeOk t = true → dateParse (toISOString t) = some t) (flash : String → Flash)
    (es : List WorldEvent) :
    (worldRun unicodeLower dateParse toISOString flash es).fleet = fleetRun dateParse flash (fleetEvents es) ∧
      PageOk unicodeLower toISOString (Stored dateParse flash (fleetEvents es))
        (worldRun unicodeLower dateParse toISOString flash es) := by
  induction es using List.reverseRecOn with
  | nil =>
    refine ⟨rfl, ?_, ?_, ?_, ?_⟩
    · intro r hr
      cases hr
    · intro r hr
      cases hr
    · intro sensorId reading hreading
      cases hreading
    · intro sensorId history hhistory
      cases hhistory
  | append_singleton es e ih =>
    obtain ⟨hfleet, hpage⟩ := ih
    have hrun : worldRun unicodeLower dateParse toISOString flash (es ++ [e]) =
        (worldRun unicodeLower dateParse toISOString flash es).step unicodeLower dateParse toISOString e :=
      (worldMachine unicodeLower dateParse toISOString).run_snoc _ es e
    rw [hrun]
    obtain ⟨hlatest, hreadings, -⟩ := stored_of_fleet dateParse flash (fleetEvents es)
    cases he : e.fleetEvent with
    | none =>
      have hevents : fleetEvents (es ++ [e]) = fleetEvents es := by simp [fleetEvents, he]
      rw [← hfleet] at hlatest hreadings
      obtain ⟨hsame, hnext⟩ := pageOk_step (fun p hp => hp.mappable hdate) hlatest hreadings hpage he
      rw [hevents, hsame]
      exact ⟨hfleet, hnext⟩
    | some e' =>
      cases e with
      | fleet e' relayed =>
        have hevents : fleetEvents (es ++ [.fleet e' relayed]) = fleetEvents es ++ [e'] := by
          simp [fleetEvents, WorldEvent.fleetEvent]
        have hlater := hpage.mono (fun p hp => hp.append e')
        rw [hevents, fleetRun_snoc, ← hfleet]
        refine ⟨rfl, ?_, hlater.requests, hlater.store⟩
        intro r hr
        simp only [World.step] at hr
        split_ifs at hr
        · rcases List.mem_append.1 hr with hr | hr
          · exact hlater.queue r hr
          · obtain ⟨p, hp, hrelay⟩ := List.mem_filterMap.1 hr
            refine ⟨p, ?_, (Option.some.inj hrelay).symm⟩
            refine (stored_of_fleet dateParse flash (fleetEvents es ++ [e'])).2.2 p ?_
            rw [fleetRun_snoc, ← hfleet]
            exact List.mem_of_mem_drop hp
        · exact hlater.queue r hr
      | _ => cases he

end

/-- What a page shows was measured and stored. Over every run of nodes, network server, ingestion, registry, socket, timers and
requests, with whatever is lost, repeated, late or restarted: a latest reading on the page is under its own sensor, and it and every
reading of an open history is how the views have a payload whose sensor and time have a row, that satisfies the schema, has the AQI
of its concentrations, and was read by both sensors of its device in one wake and calibrated with the config the device then had. -/
theorem page_shows_measurements (unicodeLower : String → String) (dateParse : String → Option ℤ) (toISOString : ℤ → String)
    (hdate : ∀ t, isoDatetimeOk t = true → dateParse (toISOString t) = some t) (flash : String → Flash)
    (es : List WorldEvent) :
    let w := worldRun unicodeLower dateParse toISOString flash es
    (∀ sensorId reading, w.store.latest sensorId = some reading → reading.sensorId = sensorId ∧
      ∃ p, p.id ∈ readingKeys w.fleet.service.readings ∧ Genuine dateParse flash (fleetEvents es) p ∧
        reading = p.shown unicodeLower) ∧
    (∀ sensorId history, w.store.rawHistory sensorId = some history → ∀ reading ∈ history.readings,
      ∃ p, p.id ∈ readingKeys w.fleet.service.readings ∧ Genuine dateParse flash (fleetEvents es) p ∧
        reading = p.shown unicodeLower) := by
  intro w
  obtain ⟨hfleet, hpage⟩ := worldRun_ok unicodeLower hdate flash es
  have hshown : ∀ reading, ShownOf unicodeLower (Stored dateParse flash (fleetEvents es)) reading →
      ∃ p, p.id ∈ readingKeys w.fleet.service.readings ∧ Genuine dateParse flash (fleetEvents es) p ∧
        reading = p.shown unicodeLower := by
    rintro reading ⟨p, ⟨hkey, hgenuine⟩, hreading⟩
    refine ⟨p, ?_, hgenuine, hreading⟩
    change p.id ∈ readingKeys (worldRun unicodeLower dateParse toISOString flash es).fleet.service.readings
    rwa [hfleet]
  refine ⟨fun sensorId reading h => ?_, fun sensorId history h reading hreading => ?_⟩
  · obtain ⟨hsensor, hread⟩ := hpage.store.latest sensorId reading h
    exact ⟨hsensor, hshown reading hread⟩
  · exact hshown reading (hpage.store.rawHistory sensorId history h reading hreading)

/-- Times as texts: the epoch as `toISOString` writes it, the others counted out. -/
def tallyISOString (t : ℤ) : String :=
  if t = 0 then "1970-01-01T00:00:00.000Z"
  else if 0 < t then String.ofList (List.replicate t.toNat '+') else String.ofList (List.replicate (-t).toNat '-')

/-- Those texts read back. -/
def tallyDateParse (s : String) : Option ℤ :=
  if s = "1970-01-01T00:00:00.000Z" then some 0
  else if s.toList.head? = some '+' then some s.toList.length else some (-s.toList.length)

theorem tallyDateParse_tallyISOString (t : ℤ) : tallyDateParse (tallyISOString t) = some t := by
  have hne : ∀ (n : ℕ) (c : Char), c ≠ '1' → String.ofList (List.replicate n c) ≠ "1970-01-01T00:00:00.000Z" := by
    intro n c hc h
    have hlist := congrArg (fun s => s.toList.head?) h
    cases n with
    | zero => simp at hlist
    | succ n => simp [List.replicate_succ, hc] at hlist
  rcases lt_trichotomy t 0 with h | rfl | h
  · have hiso : tallyISOString t = String.ofList (List.replicate (-t).toNat '-') := by
      rw [tallyISOString, if_neg h.ne, if_neg (not_lt.2 h.le)]
    have hhead : (List.replicate (-t).toNat '-').head? ≠ some '+' := by
      rw [List.head?_replicate]
      split_ifs <;> decide
    rw [hiso, tallyDateParse, if_neg (hne _ '-' (by decide)), String.toList_ofList, if_neg hhead, List.length_replicate,
      Int.toNat_of_nonneg (by omega), neg_neg]
  · rfl
  · have hiso : tallyISOString t = String.ofList (List.replicate t.toNat '+') := by
      rw [tallyISOString, if_neg h.ne', if_pos h]
    have hhead : (List.replicate t.toNat '+').head? = some '+' := by
      rw [List.head?_replicate, if_neg (by omega)]
    rw [hiso, tallyDateParse, if_neg (hne _ '+' (by decide)), String.toList_ofList, if_pos hhead, List.length_replicate,
      Int.toNat_of_nonneg h.le]

/-- A wake in which both sensors answer: 10 and 20 µg/m³, 25 °C, 50 %, 1013 hPa. -/
def Wake.clear : Wake := { Wake.deaf .quiet with pm := .ok 10 20, env := .ok 2500 50 1013 }

/-- A node measures, its reading is ingested, and a page that starts asks for the latest readings. -/
def measuredRun : List WorldEvent :=
  [.register [registeredSensor "a" none .active], .fleet (.wake "a" .clear) false, .fleet (.uplink 0 none none 0) false,
    .fleet (.resolve 0) false, .fleet (.resolve 0) false, .fleet (.resolve 0) false, .start, .read 0 0, .answered 0]

/-- The reading of a run, by way of the latest readings. -/
theorem page_shows_measurements_clear :
    let w := worldRun id tallyDateParse tallyISOString (fun _ => ⟨none⟩) measuredRun
    ∃ p, p.id ∈ readingKeys w.fleet.service.readings ∧
      Genuine tallyDateParse (fun _ => ⟨none⟩) (fleetEvents measuredRun) p ∧
      ⟨"a", 0, 10, 20, 25, 50, some 1013, 53, some 3900, none⟩ = p.shown id := by
  have hlatest : (worldRun id tallyDateParse tallyISOString (fun _ => ⟨none⟩) measuredRun).store.latest "a" =
      some ⟨"a", 0, 10, 20, 25, 50, some 1013, 53, some 3900, none⟩ := by decide +kernel
  exact ((page_shows_measurements id tallyDateParse tallyISOString (fun t _ => tallyDateParse_tallyISOString t)
    (fun _ => ⟨none⟩) measuredRun).1 "a" _ hlatest).2

end AirQuality
