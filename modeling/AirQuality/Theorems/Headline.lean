import AirQuality.Dashboard.HttpService

/-!
# The headline of the API and that of the dashboard

`overview` averages over the cached readings of the sensors whose `is_active` is set; `summarise` over the rows of the store, whose
readings come from `GET /sensors/latest` by `status`. On a registry whose two columns agree they are the same figures.
-/

namespace AirQuality

open Dashboard

section

variable (unicodeLower : String → String) (dateParse : String → Option ℤ)

/-- A registry and a cache of its latest readings: the two status columns agree, DevEUIs are in lower case, and the entry of a
sensor carries its id, in whatever case, and a time. -/
structure CacheOk (rows : List AirQuality.SensorRow) (cache : String → Option ReadingResponse) : Prop where
  active : ∀ r ∈ rows, r.isActive = (r.status == .active)
  lower : ∀ r ∈ rows, toLowerCase unicodeLower r.deviceId = r.deviceId
  named : ∀ r ∈ rows, r.deviceId ≠ ""
  entry : ∀ r ∈ rows, ∀ e, cache r.deviceId = some e →
    toLowerCase unicodeLower e.sensorId = r.deviceId ∧ ∃ time, dateParse e.timestamp = some time

/-- The latest readings of a store that has just loaded. -/
def loadedLatest (rows : List AirQuality.SensorRow) (cache : String → Option ReadingResponse) : String → Option Reading :=
  (AirStore.init.loaded (getLatest unicodeLower dateParse rows cache)).latest

/-- The reading the dashboard makes of an entry. -/
def entryReading (e : ReadingResponse) : Option Reading := toReading unicodeLower dateParse (responseObject e)

/-! ## The entry of a sensor -/

/-- The empty text has no letters. -/
theorem toLowerCase_empty : toLowerCase unicodeLower "" = "" := rfl

variable {dateParse}

/-- An entry with an id and a time is a reading of that sensor at that time, with the AQI of the entry. -/
theorem entryReading_eq {e : ReadingResponse} (hid : e.sensorId ≠ "") {time : ℤ} (htime : dateParse e.timestamp = some time) :
    ∃ reading, entryReading unicodeLower dateParse e = some reading ∧
      reading.sensorId = toLowerCase unicodeLower e.sensorId ∧ reading.time = time ∧ reading.aqi = e.aqi := by
  simp [entryReading, toReading, responseObject, Field.toOption, hid, htime, key, Option.filter]

variable {unicodeLower} {rows : List AirQuality.SensorRow} {cache : String → Option ReadingResponse}

/-- The entry of a sensor of the registry is a reading of it. -/
theorem CacheOk.reading (h : CacheOk unicodeLower dateParse rows cache) {r : AirQuality.SensorRow} (hr : r ∈ rows)
    {e : ReadingResponse} (he : cache r.deviceId = some e) :
    ∃ reading time, entryReading unicodeLower dateParse e = some reading ∧ dateParse e.timestamp = some time ∧
      reading.sensorId = r.deviceId ∧ reading.time = time ∧ reading.aqi = e.aqi := by
  obtain ⟨hid, time, htime⟩ := h.entry r hr e he
  have hne : e.sensorId ≠ "" := by
    intro hempty
    rw [hempty, toLowerCase_empty] at hid
    exact h.named r hr hid.symm
  obtain ⟨reading, hreading, hsensor, ht, haqi⟩ := entryReading_eq unicodeLower hne htime
  exact ⟨reading, time, hreading, htime, hsensor.trans hid, ht, haqi⟩

/-- What `getLatest` returns are the readings of the entries of the active sensors. -/
theorem CacheOk.mem_getLatest_iff (h : CacheOk unicodeLower dateParse rows cache) {reading : Reading} :
    reading ∈ getLatest unicodeLower dateParse rows cache ↔
      ∃ r ∈ rows, r.isActive = true ∧ ∃ e, cache r.deviceId = some e ∧
        entryReading unicodeLower dateParse e = some reading := by
  simp only [getLatest, latestResponses, findActiveDeviceIds, List.mem_filterMap, List.mem_map, List.mem_filter]
  constructor
  · rintro ⟨_, ⟨e, ⟨_, ⟨r, ⟨hr, hstatus⟩, rfl⟩, he⟩, rfl⟩, hreading⟩
    exact ⟨r, hr, by rw [h.active r hr, hstatus], e, he, hreading⟩
  · rintro ⟨r, hr, hactive, e, he, hreading⟩
    exact ⟨_, ⟨e, ⟨_, ⟨r, ⟨hr, by rw [← h.active r hr, hactive]⟩, rfl⟩, he⟩, rfl⟩, hreading⟩

/-- The store has of an active sensor the reading of its entry. -/
theorem CacheOk.latest (h : CacheOk unicodeLower dateParse rows cache) {r : AirQuality.SensorRow} (hr : r ∈ rows)
    (hactive : r.isActive = true) :
    loadedLatest unicodeLower dateParse rows cache r.deviceId =
      (cache r.deviceId).bind (entryReading unicodeLower dateParse) := by
  -- readings of one sensor come from one entry
  have hone : ∀ a ∈ getLatest unicodeLower dateParse rows cache, ∀ r ∈ rows, a.sensorId = r.deviceId →
      (cache r.deviceId).bind (entryReading unicodeLower dateParse) = some a := by
    intro a ha r hr hid
    obtain ⟨r', hr', -, e, he, hreading⟩ := h.mem_getLatest_iff.1 ha
    obtain ⟨a', time, ha', -, hid', -⟩ := h.reading hr' he
    obtain rfl := Option.some.inj (ha'.symm.trans hreading)
    rw [← hid, hid', he]
    exact hreading
  have hdistinct : ∀ a ∈ getLatest unicodeLower dateParse rows cache, ∀ b ∈ getLatest unicodeLower dateParse rows cache,
      a.sensorId = b.sensorId → a.time = b.time → a = b := by
    intro a ha b hb hab _
    obtain ⟨r', hr', -, e, he, hreading⟩ := h.mem_getLatest_iff.1 hb
    obtain ⟨b', time, hb', -, hid', -⟩ := h.reading hr' he
    obtain rfl := Option.some.inj (hb'.symm.trans hreading)
    exact Option.some.inj ((hone a ha r' hr' (hab.trans hid')).symm.trans (hone _ hb r' hr' hid'))
  refine Option.ext fun c => ?_
  rw [loadedLatest, AirStore.loaded, applyAll_eq]
  refine (Newest.foldl_put_eq_some_iff hdistinct).trans ?_
  constructor
  · rintro ⟨hc, hid, -⟩
    exact hone c hc r hr hid
  · intro hc
    obtain ⟨e, he, hreading⟩ := Option.bind_eq_some_iff.1 hc
    obtain ⟨c', time, hc', -, hid, -⟩ := h.reading hr he
    obtain rfl := Option.some.inj (hc'.symm.trans hreading)
    refine ⟨h.mem_getLatest_iff.2 ⟨r, hr, hactive, e, he, hreading⟩, hid, fun b hb hbid => ?_⟩
    rw [Option.some.inj ((hone b hb r hr hbid).symm.trans hc)]

/-! ## Row by row -/

/-- The rows that are online have the AQIs of the entries that are. -/
theorem CacheOk.aqis_eq (h : CacheOk unicodeLower dateParse rows cache) (isWord : Char → Bool)
    (arabicPlaceName : String → Option String) (now : ℤ) {l : List AirQuality.SensorRow} (hl : ∀ r ∈ l, r ∈ rows) :
    (liveReadings (Dashboard.rows (getSensors unicodeLower isWord arabicPlaceName l)
      (loadedLatest unicodeLower dateParse rows cache) now)).map (·.aqi) =
      (onlineResponses dateParse l cache now).map (·.aqi) := by
  rw [rows_getSensors unicodeLower isWord]
  induction l with
  | nil => rfl
  | cons r l ih =>
    have hr := hl r List.mem_cons_self
    have ih := ih (fun r' hr' => hl r' (List.mem_cons_of_mem _ hr'))
    have hid : (toSensor unicodeLower isWord arabicPlaceName (sensorObject r)).id = r.deviceId := h.lower r hr
    have hsensor : (toSensor unicodeLower isWord arabicPlaceName (sensorObject r)).isActive = r.isActive := rfl
    simp only [liveReadings, onlineResponses, overviewDeviceIds, deviceIds, List.map_cons, List.filter_cons, hid,
      sensorStatus, hsensor] at ih ⊢
    cases hactive : r.isActive with
    | false => simpa using ih
    | true =>
      rw [h.latest hr hactive]
      cases he : cache r.deviceId with
      | none => simpa [he] using ih
      | some e =>
        obtain ⟨reading, time, hreading, htime, -, rfl, haqi⟩ := h.reading hr he
        have hfresh : ((now : ℚ) - reading.time < onlineWindowMs) ↔ (now - reading.time < overviewWindowMs) := by
          rw [← Int.cast_lt (R := ℚ), Int.cast_sub, show ((overviewWindowMs : ℤ) : ℚ) = onlineWindowMs by
            norm_num [overviewWindowMs, onlineWindowMs]]
        by_cases hnow : now - reading.time < overviewWindowMs
        · simpa [he, hreading, htime, hfresh.2 hnow, hnow, haqi] using ih
        · simpa [he, hreading, htime, hfresh.not.2 hnow, hnow] using ih

/-! ## The two headlines -/

/-- The API's headline and the dashboard's. On a registry whose two columns agree and whose DevEUIs are in lower case, with a cache
whose entries carry their sensor's id and a time, at every time: the mean AQI and the number of sensors online of the API are
those of the dashboard, and there is no mean exactly if no sensor is online. -/
theorem headlines_agree (isWord : Char → Bool) (arabicPlaceName : String → Option String)
    (h : CacheOk unicodeLower dateParse rows cache) (readings : List ReadingPayload) (now : ℤ) :
    let city := summarise (Dashboard.rows (getSensors unicodeLower isWord arabicPlaceName rows)
      (loadedLatest unicodeLower dateParse rows cache) now)
    (overview dateParse rows cache readings now).avgAqi = city.aqi ∧
      (overview dateParse rows cache readings now).sensorsOnline = city.online ∧
      (city.aqi = none ↔ city.online = 0) := by
  have haqis := h.aqis_eq isWord arabicPlaceName now (fun r hr => hr)
  have hlength := congrArg List.length haqis
  rw [List.length_map, List.length_map] at hlength
  refine ⟨?_, hlength.symm, ?_⟩
  · simp only [overview, summarise, haqis, mean]
    split_ifs <;> rfl
  · simp [summarise, mean]

end

/-- A sensor that is online and spells its id in upper case, one that is retired and one that is silent. -/
theorem headlines_agree_mixed :
    (overview (fun s => if s = "t" then some 0 else none)
      [registeredSensor "ab" none .active, registeredSensor "cd" none .retired, registeredSensor "ef" none .active]
      (fun d => if d = "ab" then some ⟨"AB", "t", 10, 20, 20, 50, none, none, none, "AB:t", "AB", 53, "moderate"⟩ else none)
      [] 1000).sensorsOnline =
    (summarise (Dashboard.rows (getSensors id (fun _ => true) (fun _ => none)
        [registeredSensor "ab" none .active, registeredSensor "cd" none .retired, registeredSensor "ef" none .active])
      (loadedLatest id (fun s => if s = "t" then some 0 else none)
        [registeredSensor "ab" none .active, registeredSensor "cd" none .retired, registeredSensor "ef" none .active]
        (fun d => if d = "ab" then some ⟨"AB", "t", 10, 20, 20, 50, none, none, none, "AB:t", "AB", 53, "moderate"⟩ else none))
      (1000 : ℤ))).online := by
  refine (headlines_agree (fun _ => true) (fun _ => none) ⟨?_, ?_, ?_, ?_⟩ [] 1000).2.1
  · decide
  · decide
  · decide
  · intro r _ e he
    obtain ⟨hd, heq⟩ := Option.ite_none_right_eq_some.1 he
    obtain rfl := Option.some.inj heq
    rw [hd]
    exact ⟨by decide, 0, rfl⟩

end AirQuality
