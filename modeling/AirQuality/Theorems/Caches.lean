import AirQuality.Ingestion.Cache

/-!
# The caches go back in time

Each cache entry of a device is a register that keeps its last write, and nothing orders the writes: an execution SETs what its
own message said, whenever its insert has returned, and a redelivered message SETs it again. An entry never goes back exactly in
the schedules whose SETs come in the order of their times.
-/

namespace AirQuality

variable (dateParse : String → Option ℤ) (rows : List ReadingPayload)

/-- At no step of a schedule does a cache entry go from a value to one of an earlier time. -/
def NeverBack {α : Type} (entry : Service → Option α) (time : α → ℤ) (as : List Action) : Prop :=
  ∀ k, ∀ v ∈ entry (serviceAt dateParse rows as k), ∀ w ∈ entry (serviceAt dateParse rows as (k + 1)), time v ≤ time w

/-- Of two readings of a device, the one whose SET takes effect first has the smaller time. -/
def ReadingSetsOrdered (as : List Action) (device : String) : Prop :=
  ∀ k l p q, k < l → ReadingSetAt dateParse as k p ∧ p.reading.deviceId = device →
    ReadingSetAt dateParse as l q ∧ q.reading.deviceId = device → p.reading.timestamp ≤ q.reading.timestamp

/-- Of two configs of a device, the one whose SET takes effect first has the smaller time. -/
def ConfigSetsOrdered (as : List Action) (device : String) : Prop :=
  ∀ k l c d, k < l → ConfigSetAt dateParse as k c ∧ c.deviceId = device →
    ConfigSetAt dateParse as l d ∧ d.deviceId = device → c.reportedAt ≤ d.reportedAt

/-! ## What a schedule writes to an entry -/

/-- An entry goes back at no step exactly if its writes come in the order of their times. -/
theorem neverBack_iff {α : Type} (c : CacheEntry α) (time : α → ℤ) (as : List Action) :
    NeverBack dateParse rows c.get time as ↔ Register.Ordered time (c.writes dateParse rows as) := by
  unfold NeverBack
  simp only [c.get_serviceAt]
  exact Register.forward_iff time _

/-- The latest reading of a device is written at the SETs of its readings. -/
theorem latestEntry_writes_iff (device : String) (as : List Action) (k : Nat) (p : ReadingPayload) :
    ((latestEntry device).writes dateParse rows as)[k]? = some (some p) ↔
      ReadingSetAt dateParse as k p ∧ p.reading.deviceId = device := by
  rw [CacheEntry.writes_getElem?_iff, readingSetAt_iff dateParse rows]
  constructor
  · rintro ⟨e, hwrite, heffective⟩
    cases e with
    | caching q =>
      change (if q.reading.deviceId = device then some q else none) = some p at hwrite
      split_ifs at hwrite with hdevice
      obtain rfl := Option.some.inj hwrite
      exact ⟨heffective, hdevice⟩
    | _ => cases hwrite
  · rintro ⟨heffective, hdevice⟩
    exact ⟨.caching p, if_pos hdevice, heffective⟩

/-- The config of a device is written at the SETs of its configs. -/
theorem configEntry_writes_iff (device : String) (as : List Action) (k : Nat) (c : DeviceConfig) :
    ((configEntry device).writes dateParse rows as)[k]? = some (some c) ↔
      ConfigSetAt dateParse as k c ∧ c.deviceId = device := by
  rw [CacheEntry.writes_getElem?_iff, configSetAt_iff dateParse rows]
  constructor
  · rintro ⟨e, hwrite, heffective⟩
    cases e with
    | reporting d =>
      change (if d.deviceId = device then some d else none) = some c at hwrite
      split_ifs at hwrite with hdevice
      obtain rfl := Option.some.inj hwrite
      exact ⟨heffective, hdevice⟩
    | _ => cases hwrite
  · rintro ⟨heffective, hdevice⟩
    exact ⟨.reporting c, if_pos hdevice, heffective⟩

theorem latestEntry_ordered_iff (device : String) (as : List Action) :
    Register.Ordered (fun p : ReadingPayload => p.reading.timestamp) ((latestEntry device).writes dateParse rows as) ↔
      ReadingSetsOrdered dateParse as device := by
  rw [Register.ordered_iff]
  simp only [latestEntry_writes_iff]
  rfl

theorem configEntry_ordered_iff (device : String) (as : List Action) :
    Register.Ordered DeviceConfig.reportedAt ((configEntry device).writes dateParse rows as) ↔
      ConfigSetsOrdered dateParse as device := by
  rw [Register.ordered_iff]
  simp only [configEntry_writes_iff]
  rfl

/-! ## When the caches never go back -/

/-- Every execution has ended, and none in an error. -/
def Service.Finished (s : Service) : Prop := ∀ e ∈ s.execs, e.awaits = false ∧ e ≠ .dropped .error

/-- The latest-value entry of a device holds an ingested reading of it, of the greatest timestamp among those ingested. -/
def Service.LatestIsGreatest (s : Service) (device : String) : Prop :=
  (∀ v ∈ s.latest device, .ingested v ∈ s.execs ∧ v.reading.deviceId = device) ∧
    ∀ p, .ingested p ∈ s.execs → p.reading.deviceId = device →
      ∃ v ∈ s.latest device, p.reading.timestamp ≤ v.reading.timestamp

/-- The config entry of a device holds a config it reported, of the greatest `reportedAt` among those received. -/
def Service.ConfigIsGreatest (s : Service) (device : String) : Prop :=
  (∀ c ∈ s.config device, .reported c ∈ s.execs ∧ c.deviceId = device) ∧
    ∀ d, .reported d ∈ s.execs → d.deviceId = device → ∃ c ∈ s.config device, d.reportedAt ≤ c.reportedAt

/-- Over a schedule the two entries of a device never go back, and hold the greatest of their kind once all executions have
finished without an error. -/
def CachesForward (as : List Action) (device : String) : Prop :=
  NeverBack dateParse rows (fun s => s.latest device) (fun p => p.reading.timestamp) as ∧
  NeverBack dateParse rows (fun s => s.config device) DeviceConfig.reportedAt as ∧
  ((serviceAfter dateParse rows as).Finished →
    (serviceAfter dateParse rows as).LatestIsGreatest device ∧ (serviceAfter dateParse rows as).ConfigIsGreatest device)

/-- Once all executions have finished without an error, the value of an entry has been written by one of them, and if the writes
came in the order of their times, none of them has written a value of a later time. -/
theorem finished_greatest {α : Type} (c : CacheEntry α) (time : α → ℤ) {as : List Action}
    (hordered : Register.Ordered time (c.writes dateParse rows as)) (hfinished : (serviceAfter dateParse rows as).Finished) :
    (∀ v, c.get (serviceAfter dateParse rows as) = some v → ∃ e ∈ (serviceAfter dateParse rows as).execs, c.Wrote v e) ∧
    ∀ w, ∀ e ∈ (serviceAfter dateParse rows as).execs, c.Wrote w e →
      ∃ v, c.get (serviceAfter dateParse rows as) = some v ∧ time w ≤ time v := by
  constructor
  · intro v hv
    rcases c.serviceAfter_owned dateParse rows as v hv with h | herror
    · exact h
    · exact absurd rfl (hfinished _ herror).2
  · intro w e he hwrote
    have hmem := c.mem_written dateParse rows he hwrote
    obtain ⟨v, hv, -, hle⟩ := Register.greatest time hordered hmem
    exact ⟨v, (c.get_serviceAfter dateParse rows as).trans hv, hle w hmem⟩

/-- If the SETs come in the order of their times, the latest-value entry ends with the greatest reading. -/
theorem latestIsGreatest_of_ordered {as : List Action} {device : String} (hordered : ReadingSetsOrdered dateParse as device)
    (hfinished : (serviceAfter dateParse rows as).Finished) :
    (serviceAfter dateParse rows as).LatestIsGreatest device := by
  obtain ⟨howner, hgreatest⟩ := finished_greatest dateParse rows (latestEntry device)
    (fun p => p.reading.timestamp) ((latestEntry_ordered_iff dateParse rows device as).2 hordered) hfinished
  constructor
  · intro v hv
    obtain ⟨e, he, hdevice, rfl | rfl⟩ := howner v hv
    · cases (hfinished _ he).1
    · exact ⟨he, hdevice⟩
  · intro p hp hdevice
    exact hgreatest p _ hp ⟨hdevice, Or.inr rfl⟩

/-- If the SETs come in the order of their times, the config entry ends with the greatest config. -/
theorem configIsGreatest_of_ordered {as : List Action} {device : String} (hordered : ConfigSetsOrdered dateParse as device)
    (hfinished : (serviceAfter dateParse rows as).Finished) :
    (serviceAfter dateParse rows as).ConfigIsGreatest device := by
  obtain ⟨howner, hgreatest⟩ := finished_greatest dateParse rows (configEntry device) DeviceConfig.reportedAt
    ((configEntry_ordered_iff dateParse rows device as).2 hordered) hfinished
  constructor
  · intro c hc
    obtain ⟨e, he, hdevice, rfl⟩ := howner c hc
    exact ⟨he, hdevice⟩
  · intro d hd hdevice
    exact hgreatest d _ hd ⟨hdevice, rfl⟩

/-- When the caches never go back. Over every schedule of messages, returns and failures, from empty caches and any rows, the two
entries of a device never go from a newer to an older time, and hold the greatest once all executions have finished without an
error, if and only if the calls return in such an order that the SETs of the device's readings take effect in the order of their
timestamps, and those of its configs in the order of their `reportedAt`. -/
theorem caches_forward_iff (as : List Action) (device : String) :
    CachesForward dateParse rows as device ↔
      ReadingSetsOrdered dateParse as device ∧ ConfigSetsOrdered dateParse as device := by
  have hlatest := (neverBack_iff dateParse rows (latestEntry device) (fun p => p.reading.timestamp) as).trans
    (latestEntry_ordered_iff dateParse rows device as)
  have hconfig := (neverBack_iff dateParse rows (configEntry device) DeviceConfig.reportedAt as).trans
    (configEntry_ordered_iff dateParse rows device as)
  constructor
  · rintro ⟨h₁, h₂, -⟩
    exact ⟨hlatest.1 h₁, hconfig.1 h₂⟩
  · rintro ⟨h₁, h₂⟩
    refine ⟨hlatest.2 h₁, hconfig.2 h₂, fun hfinished => ⟨?_, ?_⟩⟩
    · exact latestIsGreatest_of_ordered dateParse rows h₁ hfinished
    · exact configIsGreatest_of_ordered dateParse rows h₂ hfinished

/-- How `Date` parses the two times of the schedule below. -/
def parseTwoTimes (time : String) : Option ℤ :=
  if time = "2026-01-01T10:00:00Z" then some 1767261600000
  else if time = "2026-01-01T10:05:00Z" then some 1767261900000
  else none

/-- A valid telemetry uplink of one device. -/
def uplinkAt (time : String) : ChirpStackUplink where
  devEui := "eeeeeeee00000001"
  fPort := some 2
  data := "ZADIAMQJiBP1AzwPMQ=="
  time := some time
  rxInfo := none

/-- Two uplinks in the order of their times; the insert of the first returns after the second has been ingested. -/
def lateInsert : List Action :=
  [.deliver (some (uplinkAt "2026-01-01T10:00:00Z")) 1767261900000,
    .deliver (some (uplinkAt "2026-01-01T10:05:00Z")) 1767261900000,
    .resolve 1, .resolve 1, .resolve 1, .resolve 0, .resolve 0, .resolve 0]

/-- The reading of the second uplink. -/
def newerReading : ReadingPayload :=
  ⟨⟨"eeeeeeee00000001", 1767261900000, 10, 20, 25, 50, 1013, 3900, none⟩, 53, .moderate⟩

/-- The caches go back in time: all executions finish without an error, and the latest value is the older reading. -/
theorem caches_forward_false : ¬CachesForward parseTwoTimes [] lateInsert "eeeeeeee00000001" := by
  rintro ⟨-, -, hgreatest⟩
  have hfinished : (serviceAfter parseTwoTimes [] lateInsert).Finished := by
    unfold Service.Finished
    decide +kernel
  have hingested : .ingested newerReading ∈ (serviceAfter parseTwoTimes [] lateInsert).execs := by decide +kernel
  have holder : ((serviceAfter parseTwoTimes [] lateInsert).latest "eeeeeeee00000001").map
      (fun p => p.reading.timestamp) = some 1767261600000 := by decide +kernel
  obtain ⟨v, hv, hle⟩ := (hgreatest hfinished).1.2 newerReading hingested rfl
  rw [Option.mem_def.1 hv] at holder
  have hts : v.reading.timestamp = 1767261600000 := Option.some.inj holder
  rw [hts] at hle
  exact absurd hle (by decide)

end AirQuality
