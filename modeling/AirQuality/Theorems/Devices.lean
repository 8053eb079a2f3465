import AirQuality.Api.Reads
import AirQuality.Theorems.Persistence
import AirQuality.Theorems.Registry

/-!
# One device, one identity

Ingestion files a reading under the DevEUI as the uplink spells it; the registry has DevEUIs in lower case. `findUnregistered`
looks a device up whatever its case, `latestAll` and `history` look it up by the spelling of the registry. So a device whose
uplinks spell its DevEUI otherwise than its active row is shown by none of them. `device_visible_iff` says exactly which devices are.
-/

namespace AirQuality

variable (unicodeLower sqlUnicodeLower : String → String) (isWord : Char → Bool)

/-! ## The hourly view -/

/-- A bucket of the view has a reading in its hour, of its device. -/
theorem exists_reading_of_mem {readings : List ReadingPayload} {b : HourlyBucket} (h : b ∈ readingsHourly readings) :
    ∃ p ∈ readings, p.reading.deviceId = b.sensorId ∧ timeBucket p.reading.timestamp = b.bucket := by
  obtain ⟨⟨k, group⟩, hgroup, rfl⟩ := List.mem_map.1 h
  obtain ⟨⟨p, hp, rfl⟩, -⟩ := Table.mem_groupBy_iff.1 hgroup
  exact ⟨p, hp, rfl, rfl⟩

/-- Every reading is in a bucket of its device and its hour. -/
theorem exists_bucket_of_mem {readings : List ReadingPayload} {p : ReadingPayload} (h : p ∈ readings) :
    ∃ b ∈ readingsHourly readings, b.sensorId = p.reading.deviceId ∧ b.bucket = timeBucket p.reading.timestamp := by
  exact ⟨_, List.mem_map.2 ⟨_, Table.mem_groupBy_of_mem h, rfl⟩, rfl, rfl⟩

theorem timeBucket_le (time : ℤ) : timeBucket time ≤ time := by
  unfold timeBucket
  omega

/-! ## What the API shows of a device -/

/-- The devices with readings in the last 7 days, one entry for each. -/
def recentDevices (readings : List ReadingPayload) (now : ℤ) : List String :=
  (readings.filter (fun p => decide (now - 7 * dayMs ≤ p.reading.timestamp))).map (·.reading.deviceId)

/-- The row is that of the device, whatever the case of its DevEUI. -/
def SameDevice (d : String) (r : SensorRow) : Prop := toLowerCase unicodeLower r.deviceId = sqlLower sqlUnicodeLower d

/-- `findUnregistered` lists the device. -/
def Listed (rows : List SensorRow) (readings : List ReadingPayload) (now : ℤ) (d : String) : Prop :=
  ∃ u ∈ findUnregistered unicodeLower sqlUnicodeLower rows (readingsHourly readings) now, u.deviceId = d

/-- `GET /sensors/latest` returns the latest reading of the device, and `GET /overview/history` counts its hours, whatever the
number of days. -/
def Shown (rows : List SensorRow) (readings : List ReadingPayload) (latest : String → Option ReadingPayload) (now : ℤ)
    (d : String) : Prop :=
  (∀ p, latest d = some p → p ∈ latestAll rows latest) ∧
    ∀ days, ∀ b ∈ readingsHourly readings, b.sensorId = d → now - windowDays days * dayMs ≤ b.bucket →
      b ∈ historyScope unicodeLower isWord rows (readingsHourly readings) now days none

/-- The device is listed as unregistered, or it is registered and, if active, shown. -/
def Visible (rows : List SensorRow) (readings : List ReadingPayload) (latest : String → Option ReadingPayload) (now : ℤ)
    (d : String) : Prop :=
  Listed unicodeLower sqlUnicodeLower rows readings now d ∨
    ∃ r ∈ rows, SameDevice unicodeLower sqlUnicodeLower d r ∧
      (r.isActive = true → Shown unicodeLower isWord rows readings latest now d)

/-- The device is registered, and a row of it is inactive or an active row has its very spelling; or it is not registered, and has
a reading in an hour that began in the last 7 days. -/
def SpelledAsRegistered (rows : List SensorRow) (readings : List ReadingPayload) (now : ℤ) (d : String) : Prop :=
  (∃ r ∈ rows, SameDevice unicodeLower sqlUnicodeLower d r ∧ (r.isActive = true → d ∈ overviewDeviceIds rows)) ∨
    ((∀ r ∈ rows, ¬ SameDevice unicodeLower sqlUnicodeLower d r) ∧
      ∃ p ∈ readings, p.reading.deviceId = d ∧ now - 7 * dayMs ≤ timeBucket p.reading.timestamp)

/-- What is grouped for `findUnregistered`: hours of the last 7 days of devices that are not registered. -/
theorem mem_unregisteredScope_iff {rows : List SensorRow} {hourly : List HourlyBucket} {now : ℤ} {b : HourlyBucket} :
    b ∈ unregisteredScope unicodeLower sqlUnicodeLower rows hourly now ↔
      b ∈ hourly ∧ now - 7 * dayMs ≤ b.bucket ∧ ∀ r ∈ rows, ¬ SameDevice unicodeLower sqlUnicodeLower b.sensorId r := by
  simp [unregisteredScope, SameDevice]

/-- With at most 100 devices in the last 7 days, `findUnregistered` lists exactly the devices that are grouped for it. -/
theorem listed_iff {rows : List SensorRow} {readings : List ReadingPayload} {now : ℤ}
    (hmany : (recentDevices readings now).dedup.length ≤ 100) (d : String) :
    Listed unicodeLower sqlUnicodeLower rows readings now d ↔
      (∀ r ∈ rows, ¬ SameDevice unicodeLower sqlUnicodeLower d r) ∧
        ∃ p ∈ readings, p.reading.deviceId = d ∧ now - 7 * dayMs ≤ timeBucket p.reading.timestamp := by
  have hrecent : ∀ b ∈ unregisteredScope unicodeLower sqlUnicodeLower rows (readingsHourly readings) now,
      b.sensorId ∈ recentDevices readings now := by
    intro b hb
    obtain ⟨hmem, hweek, -⟩ := (mem_unregisteredScope_iff ..).1 hb
    obtain ⟨p, hp, hid, hbucket⟩ := exists_reading_of_mem hmem
    have hle := timeBucket_le p.reading.timestamp
    exact List.mem_map.2 ⟨p, List.mem_filter.2 ⟨hp, decide_eq_true (by omega)⟩, hid⟩
  have hlen := (Table.length_groupBy_le hrecent).trans hmany
  unfold Listed findUnregistered
  rw [List.take_of_length_le (by rw [List.length_insertionSort, List.length_map]; exact hlen)]
  constructor
  · intro h
    obtain ⟨u, hu, rfl⟩ := h
    obtain ⟨⟨k, group⟩, hgroup, rfl⟩ := List.mem_map.1 ((List.mem_insertionSort _).1 hu)
    obtain ⟨⟨b, hb, rfl⟩, -⟩ := Table.mem_groupBy_iff.1 hgroup
    obtain ⟨hmem, hweek, hnew⟩ := (mem_unregisteredScope_iff ..).1 hb
    obtain ⟨p, hp, hid, hbucket⟩ := exists_reading_of_mem hmem
    exact ⟨hnew, p, hp, hid, hbucket ▸ hweek⟩
  · intro h
    obtain ⟨hnew, p, hp, rfl, hweek⟩ := h
    obtain ⟨b, hb, hid, hbucket⟩ := exists_bucket_of_mem hp
    have hscope : b ∈ unregisteredScope unicodeLower sqlUnicodeLower rows (readingsHourly readings) now :=
      (mem_unregisteredScope_iff ..).2 ⟨hb, hbucket ▸ hweek, hid ▸ hnew⟩
    exact ⟨_, (List.mem_insertionSort _).2 (List.mem_map.2 ⟨_, Table.mem_groupBy_of_mem hscope, rfl⟩), hid⟩

/-- A device with a live latest reading is shown exactly if an active row has its very spelling. -/
theorem shown_iff {rows : List SensorRow} (hrows : RowsOk rows) {readings : List ReadingPayload}
    {latest : String → Option ReadingPayload} (hlatest : ∀ k q, latest k = some q → q.reading.deviceId = k) {now : ℤ}
    {d : String} {p : ReadingPayload} (hp : latest d = some p) :
    Shown unicodeLower isWord rows readings latest now d ↔ d ∈ overviewDeviceIds rows := by
  have hids := activeDeviceIds_eq hrows
  constructor
  · intro h
    obtain ⟨k, hk, hkp⟩ := List.mem_filterMap.1 (h.1 p hp)
    obtain rfl : d = k := (hlatest d p hp).symm.trans (hlatest k p hkp)
    exact hids ▸ hk
  · intro h
    refine ⟨fun q hq => List.mem_filterMap.2 ⟨d, hids ▸ h, hq⟩, ?_⟩
    intro days b hb hid hwindow
    exact List.mem_filter.2 ⟨hb, decide_eq_true ⟨hwindow, hid ▸ h⟩⟩

/-- A device with a live latest reading, among at most 100 of the last 7 days, is visible exactly if it is spelled as it is
registered. -/
theorem visible_iff {rows : List SensorRow} (hrows : RowsOk rows) {readings : List ReadingPayload}
    {latest : String → Option ReadingPayload} (hlatest : ∀ k q, latest k = some q → q.reading.deviceId = k) {now : ℤ}
    (hmany : (recentDevices readings now).dedup.length ≤ 100) {d : String} {p : ReadingPayload} (hp : latest d = some p) :
    Visible unicodeLower sqlUnicodeLower isWord rows readings latest now d ↔
      SpelledAsRegistered unicodeLower sqlUnicodeLower rows readings now d := by
  unfold Visible SpelledAsRegistered
  rw [listed_iff unicodeLower sqlUnicodeLower hmany, shown_iff unicodeLower isWord hrows hlatest hp, or_comm]

/-! ## The latest readings of ingestion -/

/-- The latest-value entry of a device is a reading of it. -/
def LatestKeyed (d : String) (s : Service) : Prop := ∀ p, s.latest d = some p → p.reading.deviceId = d

theorem latestKeyed_step (dateParse : String → Option ℤ) {d : String} (s : Service) (a : Action) (h : LatestKeyed d s) :
    LatestKeyed d ((ingestion dateParse).step s a).1 := by
  intro p hp
  have hget : (latestEntry d).get ((ingestion dateParse).step s a).1 = some p := hp
  rw [(latestEntry d).get_step dateParse] at hget
  rcases Option.or_eq_some_iff.1 hget with hwrite | ⟨-, hold⟩
  · obtain ⟨e, -, he⟩ := Option.bind_eq_some_iff.1 hwrite
    have hcaching : ∀ q, Exec.latestWrite d (.caching q) = some p → p.reading.deviceId = d := by
      intro q hq
      obtain ⟨hdevice, heq⟩ := Option.ite_none_right_eq_some.1 hq
      exact Option.some.inj heq ▸ hdevice
    cases e with
    | caching q => exact hcaching q he
    | persisting q | publishing q | ingested q => cases he
    | reporting c | reported c => cases he
    | ignored => cases he
    | dropped reason => cases he
  · exact h p hold

theorem serviceAfter_latestKeyed (dateParse : String → Option ℤ) (stored : List ReadingPayload) (as : List Action) (d : String) :
    LatestKeyed d (serviceAfter dateParse stored as) := by
  have hstart : LatestKeyed d (Service.start stored) := by
    intro p hp
    cases hp
  exact (ingestion dateParse).run_inv (latestKeyed_step dateParse) hstart as

/-- The latest-value entries that have not expired. -/
def Service.liveLatest (s : Service) (live : String → Bool) (d : String) : Option ReadingPayload :=
  if live d = true then s.latest d else none

/-- One device, one identity. Over every registry that its requests can make and everything ingestion can have stored and cached,
with at most 100 devices in the last 7 days: a device with a live latest value is listed as unregistered, or registered and then,
if active, shown, exactly if it is spelled as it is registered. -/
theorem device_visible_iff (env : Env) (t : LegacyTable) (rs : List RegistryAction) (dateParse : String → Option ℤ)
    (stored : ReadingsTable) (as : List Action) (live : String → Bool) (now : ℤ)
    (hmany : (recentDevices (serviceAfter dateParse stored as).readings now).dedup.length ≤ 100) (d : String)
    (hlive : ((serviceAfter dateParse stored as).liveLatest live d).isSome = true) :
    Visible unicodeLower sqlUnicodeLower isWord (registryAfter unicodeLower env t rs).rows
        (serviceAfter dateParse stored as).readings ((serviceAfter dateParse stored as).liveLatest live) now d ↔
      SpelledAsRegistered unicodeLower sqlUnicodeLower (registryAfter unicodeLower env t rs).rows
        (serviceAfter dateParse stored as).readings now d := by
  obtain ⟨p, hp⟩ := Option.isSome_iff_exists.1 hlive
  refine visible_iff unicodeLower sqlUnicodeLower isWord (registryAfter_inv unicodeLower env t rs).rows ?_ hmany hp
  intro k q hq
  exact serviceAfter_latestKeyed dateParse stored as k q (Option.ite_none_right_eq_some.1 hq).2

/-- A telemetry uplink of the first seeded sensor, at the time of its ingestion, with a spelling of its DevEUI. -/
def seededUplink (devEui : String) : List Action :=
  [.deliver (some { ChirpStackUplink.sample with devEui }) 1767261600000, .resolve 0, .resolve 0, .resolve 0]

/-- Spelled as the registry has it, the device is visible. -/
theorem device_visible_iff_lower :
    Visible id id (fun _ => false) (registryAfter id ⟨id, 0⟩ ⟨[], by simp, by simp⟩ []).rows
      (serviceAfter (fun _ => none) [] (seededUplink "70b3d57ed0060001")).readings
      ((serviceAfter (fun _ => none) [] (seededUplink "70b3d57ed0060001")).liveLatest (fun _ => true)) 1767261600000
      "70b3d57ed0060001" := by
  refine (device_visible_iff id id (fun _ => false) ⟨id, 0⟩ ⟨[], by simp, by simp⟩ [] (fun _ => none) ⟨[], by simp⟩
    (seededUplink "70b3d57ed0060001") (fun _ => true) 1767261600000 (by decide +kernel) "70b3d57ed0060001"
    (by decide +kernel)).2 ?_
  unfold SpelledAsRegistered SameDevice
  decide +kernel

/-- Spelled in upper case, the device is on neither list: it has a reading and a live latest value, and its row is active. -/
theorem device_visible_false :
    ¬ ∀ (unicodeLower sqlUnicodeLower : String → String) (isWord : Char → Bool) (env : Env) (t : LegacyTable)
      (rs : List RegistryAction) (dateParse : String → Option ℤ) (stored : ReadingsTable) (as : List Action)
      (live : String → Bool) (now : ℤ), (recentDevices (serviceAfter dateParse stored as).readings now).dedup.length ≤ 100 →
      ∀ d ∈ recentDevices (serviceAfter dateParse stored as).readings now,
        ((serviceAfter dateParse stored as).liveLatest live d).isSome = true →
        Visible unicodeLower sqlUnicodeLower isWord (registryAfter unicodeLower env t rs).rows
          (serviceAfter dateParse stored as).readings ((serviceAfter dateParse stored as).liveLatest live) now d := by
  intro h
  have hvisible := h id id (fun _ => false) ⟨id, 0⟩ ⟨[], by simp, by simp⟩ [] (fun _ => none) ⟨[], by simp⟩
    (seededUplink "70B3D57ED0060001") (fun _ => true) 1767261600000 (by decide +kernel) "70B3D57ED0060001" (by decide +kernel)
    (by decide +kernel)
  obtain ⟨p, hp⟩ : ∃ p, (serviceAfter (fun _ => none) [] (seededUplink "70B3D57ED0060001")).liveLatest (fun _ => true)
      "70B3D57ED0060001" = some p := Option.isSome_iff_exists.1 (by decide +kernel)
  have hrows := (registryAfter_inv id ⟨id, 0⟩ ⟨[], by simp, by simp⟩ []).rows
  rw [visible_iff id id (fun _ => false) hrows ?_ (by decide +kernel) hp] at hvisible
  · revert hvisible
    unfold SpelledAsRegistered SameDevice
    decide +kernel
  · intro k q hq
    exact serviceAfter_latestKeyed (fun _ => none) [] (seededUplink "70B3D57ED0060001") k q
      (Option.ite_none_right_eq_some.1 hq).2

end AirQuality
