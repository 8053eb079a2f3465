import AirQuality.Dashboard.HttpService

/-!
# A reading by its three routes

What ingestion makes of an uplink leaves the server as a stored row, as the latest entry of its device and as a live event. The
dashboard maps all three to the same reading.
-/

namespace AirQuality

open Dashboard

section

variable {dateParse : String → Option ℤ} {p : ReadingPayload}

/-- A reading that ingestion makes has a device. -/
theorem handleUplink_deviceId {now : ℤ} {message : Option ChirpStackUplink}
    (h : handleUplink dateParse now message = .reading p) : p.reading.deviceId ≠ "" := by
  unfold handleUplink at h
  split at h
  · nomatch h
  · unfold handleConfigReport handleTelemetry at h
    grind [sensorReadingOk]

/-! ## The rows -/

/-- The row of a reading that was the first with its key stays the only one, whatever comes after. -/
theorem stored_step (s : Service) (a : Action) (h : p ∈ s.readings ∧ ∀ q ∈ s.readings, q.id = p.id → q = p) :
    p ∈ ((ingestion dateParse).step s a).1.readings ∧
      ∀ q ∈ ((ingestion dateParse).step s a).1.readings, q.id = p.id → q = p := by
  rw [step_readings]
  cases (s.effective a).bind Exec.inserts with
  | none => exact h
  | some new =>
    rw [Option.elim_some, insertReading]
    split_ifs with hnew
    · exact h
    · refine ⟨List.mem_append_left _ h.1, fun q hq hid => ?_⟩
      rcases List.mem_append.1 hq with hq | hq
      · exact h.2 q hq hid
      · -- a new row has another key
        rw [List.mem_singleton.1 hq] at hid
        exact absurd (hid ▸ List.mem_map.2 ⟨p, h.1, rfl⟩) hnew

/-- What an endpoint returns of the stored readings. -/
theorem mem_sensorReadings {readings : List ReadingPayload} {deviceId : String} {hours : Option ℤ} {now : ℤ}
    {row : ReadingRow} (h : row ∈ sensorReadings toISOString readings deviceId hours now) :
    ∃ q ∈ readings, row = q.row toISOString := by
  obtain ⟨q, hq, rfl⟩ := List.mem_map.1 h
  exact ⟨q, List.mem_of_mem_filter ((List.mem_insertionSort _).1 (List.mem_of_mem_take hq)), rfl⟩

/-! ## The three routes -/

end

/-- A reading looks the same by every route. Of an uplink that ingestion makes a reading of, whose time `Date` reads back from its
ISO text, the dashboard has one reading, which is `p.shown`:
1. from the row that was inserted as the first with its key, as it stands after any further steps of the service, and so from
   what `GET /sensors/:deviceId/readings` returns of it;
2. from the entry of its device that it wrote, which `GET /sensors/latest` returns if the device is active;
3. from the event that it published, once the gateway has relayed it. -/
theorem routes_agree (unicodeLower : String → String) (dateParse : String → Option ℤ) (toISOString : ℤ → String) (now : ℤ)
    (message : Option ChirpStackUplink) (p : ReadingPayload) (hp : handleUplink dateParse now message = .reading p)
    (hdate : dateParse (toISOString p.reading.timestamp) = some p.reading.timestamp) :
    (∀ (s : Service) (i : Nat), s.execs[i]? = some (.persisting p) → p.id ∉ readingKeys s.readings → ∀ later : List Action,
      p ∈ ((ingestion dateParse).run (s.resolve i) later).readings ∧
      (∀ q ∈ ((ingestion dateParse).run (s.resolve i) later).readings, q.id = p.id →
        toReading unicodeLower dateParse (rowObject (q.row toISOString)) = some (p.shown unicodeLower)) ∧
      ∀ (hours : Option ℤ) (time : ℤ), ∀ row ∈ sensorReadings toISOString
          ((ingestion dateParse).run (s.resolve i) later).readings p.reading.deviceId hours time,
        ∃ q ∈ ((ingestion dateParse).run (s.resolve i) later).readings, row = q.row toISOString) ∧
    (∀ (s : Service) (i : Nat), s.execs[i]? = some (.caching p) →
      (s.resolve i).latest p.reading.deviceId = some p ∧
      ∀ rows : List AirQuality.SensorRow, p.reading.deviceId ∈ findActiveDeviceIds rows →
        ∃ e ∈ latestResponses rows (fun d => ((s.resolve i).latest d).map (ReadingPayload.response toISOString)),
          e.deviceId = p.reading.deviceId ∧
            toReading unicodeLower dateParse (responseObject e) = some (p.shown unicodeLower)) ∧
    (∀ (s : Service) (i : Nat), s.execs[i]? = some (.publishing p) →
      (s.resolve i).published = s.published ++ [p] ∧
      ∃ e, relay (some (.readingCreated (p.response toISOString))) = some e ∧
        toReading unicodeLower dateParse (responseObject e) = some (p.shown unicodeLower)) := by
  have hid := handleUplink_deviceId hp
  refine ⟨fun s i he hfirst later => ?_, fun s i he => ?_, fun s i he => ?_⟩
  · have hstart : p ∈ (s.resolve i).readings ∧ ∀ q ∈ (s.resolve i).readings, q.id = p.id → q = p := by
      have hrows : (s.resolve i).readings = s.readings ++ [p] := by
        simp [Service.resolve, he, Exec.awaits, Service.effect, insertReading, hfirst]
      rw [hrows]
      refine ⟨List.mem_append_right _ (List.mem_singleton.2 rfl), fun q hq hqid => ?_⟩
      rcases List.mem_append.1 hq with hq | hq
      · exact absurd (List.mem_map.2 ⟨q, hq, hqid⟩) hfirst
      · exact List.mem_singleton.1 hq
    have hrun := (ingestion dateParse).run_inv stored_step hstart later
    refine ⟨hrun.1, fun q hq hqid => ?_, fun hours time row hrow => mem_sensorReadings hrow⟩
    rw [hrun.2 q hq hqid]
    exact toReading_row hid hdate
  · have hlatest : (s.resolve i).latest p.reading.deviceId = some p := by
      simp [Service.resolve, he, Exec.awaits, Service.effect]
    refine ⟨hlatest, fun rows hactive => ⟨p.response toISOString, ?_, rfl, toReading_response hid hdate⟩⟩
    exact List.mem_filterMap.2 ⟨_, hactive, by rw [hlatest]; rfl⟩
  · refine ⟨?_, p.response toISOString, rfl, toReading_response hid hdate⟩
    simp [Service.resolve, he, Exec.awaits, Service.effect]

/-- The sample, by way of the cache: ingested at the start of the epoch, whose ISO text is the one `Date` reads. -/
theorem routes_agree_sample :
    toReading id (fun s => if s = "1970-01-01T00:00:00.000Z" then some 0 else none) (rowObject
      (ReadingPayload.row (fun _ => "1970-01-01T00:00:00.000Z")
        ⟨⟨"eeeeeeee00000001", 0, 10, 20, 25, 50, 1013, 3900, none⟩, 53, .moderate⟩)) =
      some (ReadingPayload.shown id ⟨⟨"eeeeeeee00000001", 0, 10, 20, 25, 50, 1013, 3900, none⟩, 53, .moderate⟩) := by
  have h := ((routes_agree id (fun s => if s = "1970-01-01T00:00:00.000Z" then some 0 else none)
    (fun _ => "1970-01-01T00:00:00.000Z") 0 (some ChirpStackUplink.sample)
    ⟨⟨"eeeeeeee00000001", 0, 10, 20, 25, 50, 1013, 3900, none⟩, 53, .moderate⟩ (by decide +kernel) (by decide)).1
    { Service.start [] with execs := [.persisting ⟨⟨"eeeeeeee00000001", 0, 10, 20, 25, 50, 1013, 3900, none⟩, 53, .moderate⟩] }
    0 rfl (by decide) [])
  exact h.2.1 _ h.1 rfl

end AirQuality
