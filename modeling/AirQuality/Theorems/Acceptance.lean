import AirQuality.Ingestion.Envelope
import AirQuality.Theorems.Aqi
import AirQuality.Theorems.Dropped

/-!
# Which messages become readings

A message becomes a reading exactly if it passes the checks of four places: the envelope, the routing by port, the codec with its
presence gate, and the contract of a reading with the columns of its table (`ValidTelemetry`). What is then inserted, cached and
published is the decoded words over their scales (`telemetryPayload`). The row is that reading unless one with its sensor and time
was there before; that one stays (`accepted_row_false`).
-/

namespace AirQuality

variable (dateParse : String → Option ℤ) (now : ℤ)

/-- The bytes of an uplink. -/
def ChirpStackUplink.bytes (uplink : ChirpStackUplink) : List UInt8 := bufferFromBase64 uplink.data

/-- The `rssi` of the first `rxInfo` entry, if present. -/
def ChirpStackUplink.firstRssi (uplink : ChirpStackUplink) : Option ℚ := (uplink.rxInfo.bind List.head?).bind RxInfo.rssi

/-- The conditions on an uplink to become a reading. -/
structure ValidTelemetry (uplink : ChirpStackUplink) : Prop where
  nonempty : uplink.devEui ≠ ""
  text : textOk uplink.devEui = true
  fPort : uplink.fPort = some 2
  length : 13 ≤ uplink.bytes.length
  version : uplink.bytes.getD 12 0 &&& 0x0f = 0 ∨ uplink.bytes.getD 12 0 &&& 0x0f = 1
  present : uplink.bytes.getD 12 0 &&& 0x0f = 1 →
    uplink.bytes.getD 12 0 &&& presentPm ≠ 0 ∧ uplink.bytes.getD 12 0 &&& presentEnv ≠ 0
  temperature : -4000 ≤ getInt16 uplink.bytes 4 ∧ getInt16 uplink.bytes 4 ≤ 8500
  humidity : getUint16 uplink.bytes 6 ≤ 10000
  pressure : 300 ≤ getUint16 uplink.bytes 8 ∧ getUint16 uplink.bytes 8 ≤ 1100
  rssi : ∀ q, uplink.firstRssi = some q → -2147483648 ≤ round q ∧ round q ≤ 2147483647

/-- The time of the uplink, or of its ingestion if it has none that parses, is in the years 1 to 9999. -/
def TimeInYears (uplink : ChirpStackUplink) : Prop := timestamptzOk (uplinkTime dateParse now uplink.time) = true

/-- The reading of an uplink: its words over their scales, its time and its AQI. -/
def telemetryPayload (uplink : ChirpStackUplink) : ReadingPayload :=
  let pm25 : ℚ := getUint16 uplink.bytes 0 / 10
  let pm10 : ℚ := getUint16 uplink.bytes 2 / 10
  { reading :=
      { deviceId := uplink.devEui
        timestamp := uplinkTime dateParse now uplink.time
        pm25
        pm10
        temperature := getInt16 uplink.bytes 4 / 100
        humidity := getUint16 uplink.bytes 6 / 100
        pressure := getUint16 uplink.bytes 8
        batteryMv := getUint16 uplink.bytes 10
        signalStrength := uplink.firstRssi.map round }
    aqi := (calculateAqi pm25 pm10).aqi
    aqiCategory := (calculateAqi pm25 pm10).category }

/-! ## The checks on a decoded uplink -/

theorem getUint16_bounds (view : List UInt8) (offset : Nat) : 0 ≤ getUint16 view offset ∧ getUint16 view offset ≤ 65535 := by
  have hlt := (Word.at view offset).toNat_lt
  unfold getUint16
  omega

/-- Version 0 has every sensor, version 1 those of its bits. -/
theorem sensorsPresentOf_iff {flags : UInt8} (h : flags &&& 0x0f = 0 ∨ flags &&& 0x0f = 1) :
    ((sensorsPresentOf flags).pm = true ∧ (sensorsPresentOf flags).env = true) ↔
      (flags &&& 0x0f = 1 → flags &&& presentPm ≠ 0 ∧ flags &&& presentEnv ≠ 0) := by
  unfold sensorsPresentOf
  rcases h with h | h
  · simp [h]
  · simp [h]

theorem version_le_iff (v : UInt8) : ¬ payloadVersion < v ↔ v = 0 ∨ v = 1 := by
  rw [UInt8.lt_iff_toNat_lt, ← UInt8.toNat_inj, ← UInt8.toNat_inj]
  simp only [payloadVersion, UInt8.reduceToNat]
  omega

/-- A whole number of 32 bits fits a column and is a safe integer. -/
theorem integerOk_intCast (z : ℤ) : integerOk z = true ↔ -2147483648 ≤ z ∧ z ≤ 2147483647 := by
  unfold integerOk
  simp only [Rat.den_intCast, beq_self_eq_true, Bool.true_and, decide_eq_true_eq]
  norm_cast

theorem safeIntOk_of_integerOk {z : ℤ} (h : integerOk z = true) : safeIntOk z = true := by
  obtain ⟨h₁, h₂⟩ := (integerOk_intCast z).1 h
  unfold safeIntOk
  simp only [Rat.den_intCast, beq_self_eq_true, Bool.true_and, decide_eq_true_eq]
  norm_cast
  rw [abs_le]
  omega

/-- A word over its scale is within bounds over the same scale exactly if the word is within them. -/
theorem div_bounds {z lo hi : ℤ} {c : ℚ} (hc : 0 < c) :
    (lo / c ≤ z / c ∧ (z : ℚ) / c ≤ hi / c) ↔ lo ≤ z ∧ z ≤ hi := by
  rw [div_le_div_iff_of_pos_right hc, div_le_div_iff_of_pos_right hc]
  norm_cast

/-- The concentrations of a payload are in the range of the contract. -/
theorem concentration_bounds (view : List UInt8) (offset : Nat) :
    (0 : ℚ) ≤ getUint16 view offset / 10 ∧ (getUint16 view offset : ℚ) / 10 ≤ 65535 / 10 := by
  have h := (div_bounds (z := getUint16 view offset) (c := 10) (by norm_num)).2 (getUint16_bounds view offset)
  simpa using h

theorem temperature_ok_iff (z : ℤ) : (-40 ≤ (z : ℚ) / 100 ∧ (z : ℚ) / 100 ≤ 85) ↔ -4000 ≤ z ∧ z ≤ 8500 := by
  rw [← div_bounds (z := z) (c := 100) (by norm_num)]
  norm_num

theorem humidity_ok_iff {z : ℤ} (h : 0 ≤ z) : (0 ≤ (z : ℚ) / 100 ∧ (z : ℚ) / 100 ≤ 100) ↔ z ≤ 10000 := by
  have hdiv : ((0 : ℤ) / (100 : ℚ) ≤ z / 100 ∧ (z : ℚ) / 100 ≤ (10000 : ℤ) / 100) ↔ 0 ≤ z ∧ z ≤ 10000 :=
    div_bounds (by norm_num)
  norm_num at hdiv
  exact hdiv.trans (and_iff_right h)

theorem pressure_ok_iff (z : ℤ) : (300 ≤ (z : ℚ) ∧ (z : ℚ) ≤ 1100) ↔ 300 ≤ z ∧ z ≤ 1100 := by norm_cast

/-- A word fits a column. -/
theorem integerOk_word (view : List UInt8) (offset : Nat) : integerOk (getUint16 view offset) = true := by
  have h := getUint16_bounds view offset
  exact (integerOk_intCast _).2 (by omega)

/-- An AQI fits a column. -/
theorem integerOk_aqi (pm25 pm10 : ℚ) : integerOk (calculateAqi pm25 pm10).aqi = true := by
  obtain ⟨j, hj⟩ := truncPm25_inBand pm25
  obtain ⟨k, hk⟩ := truncPm10_inBand pm10
  have h := (calculateAqi_bands hj hk).1
  exact (integerOk_intCast _).2 (by omega)

/-- The times a column takes are times of the contract. -/
theorem isoDatetimeOk_of_timestamptzOk {t : ℤ} (h : timestamptzOk t = true) : isoDatetimeOk t = true := by
  simp only [timestamptzOk, isoDatetimeOk, decide_eq_true_eq] at *
  omega

/-- The contract of a reading and the columns of its table, on what an uplink is decoded to. -/
theorem telemetryPayload_ok_iff (uplink : ChirpStackUplink) :
    sensorReadingOk (telemetryPayload dateParse now uplink).reading = true ∧ rowOk (telemetryPayload dateParse now uplink) = true ↔
      uplink.devEui ≠ "" ∧ textOk uplink.devEui = true ∧ TimeInYears dateParse now uplink ∧
        (-4000 ≤ getInt16 uplink.bytes 4 ∧ getInt16 uplink.bytes 4 ≤ 8500) ∧ getUint16 uplink.bytes 6 ≤ 10000 ∧
        (300 ≤ getUint16 uplink.bytes 8 ∧ getUint16 uplink.bytes 8 ≤ 1100) ∧
        ∀ q, uplink.firstRssi = some q → -2147483648 ≤ round q ∧ round q ≤ 2147483647 := by
  have hrssi : (uplink.firstRssi.map round).all (fun s => integerOk s) = true ↔
      ∀ q, uplink.firstRssi = some q → -2147483648 ≤ round q ∧ round q ≤ 2147483647 := by
    cases uplink.firstRssi with
    | none => simp
    | some q => simp [integerOk_intCast]
  have hsafe : (uplink.firstRssi.map round).all (fun s => integerOk s) = true →
      (uplink.firstRssi.map round).all (fun s => safeIntOk s) = true := by
    cases uplink.firstRssi with
    | none => simp
    | some q => exact safeIntOk_of_integerOk
  simp only [sensorReadingOk, rowOk, telemetryPayload, Bool.and_eq_true, decide_eq_true_eq, concentration_bounds, and_true,
    temperature_ok_iff, humidity_ok_iff (getUint16_bounds uplink.bytes 6).1, pressure_ok_iff, integerOk_word, integerOk_aqi,
    safeIntOk_of_integerOk (integerOk_word uplink.bytes 10), TimeInYears, ← hrssi]
  constructor
  · intro h
    obtain ⟨⟨⟨⟨⟨⟨hdev, -⟩, ht⟩, hh⟩, hp⟩, -⟩, ⟨htext, htime⟩, hr⟩ := h
    exact ⟨of_decide_eq_true hdev, htext, htime, ht, hh, hp, hr⟩
  · intro h
    obtain ⟨hdev, htext, htime, ht, hh, hp, hr⟩ := h
    exact ⟨⟨⟨⟨⟨⟨decide_eq_true hdev, isoDatetimeOk_of_timestamptzOk htime⟩, ht⟩, hh⟩, hp⟩, hsafe hr⟩, ⟨htext, htime⟩, hr⟩

/-! ## The checks of `handleUplink` -/

/-- On the telemetry port, what is inserted. -/
theorem handleTelemetry_reading_iff (uplink : ChirpStackUplink) (p : ReadingPayload) :
    handleTelemetry dateParse now uplink = .reading p ↔
      13 ≤ uplink.bytes.length ∧ (uplink.bytes.getD 12 0 &&& 0x0f = 0 ∨ uplink.bytes.getD 12 0 &&& 0x0f = 1) ∧
        (uplink.bytes.getD 12 0 &&& 0x0f = 1 →
          uplink.bytes.getD 12 0 &&& presentPm ≠ 0 ∧ uplink.bytes.getD 12 0 &&& presentEnv ≠ 0) ∧
        sensorReadingOk (telemetryPayload dateParse now uplink).reading = true ∧ p = telemetryPayload dateParse now uplink := by
  have hdropped : ∀ reason, Handled.dropped reason ≠ .reading p := by
    intro reason h
    cases h
  have hbytes : bufferFromBase64 uplink.data = uplink.bytes := rfl
  rw [handleTelemetry, hbytes]
  by_cases hshort : uplink.bytes.length < 13
  · obtain ⟨e, he⟩ := (decodeUplink_error_iff uplink.bytes).2 (Or.inl hshort)
    simp only [he]
    exact iff_of_false (hdropped _) (fun h => absurd h.1 (not_le.2 hshort))
  by_cases hversion : 1 < uplink.bytes.getD 12 0 &&& 0x0f
  · obtain ⟨e, he⟩ := (decodeUplink_error_iff uplink.bytes).2 (Or.inr hversion)
    simp only [he]
    exact iff_of_false (hdropped _) (fun h => (version_le_iff _).2 h.2.1 hversion)
  have hnibble := (version_le_iff _).1 hversion
  have hpresent := sensorsPresentOf_iff hnibble
  rw [decodeUplink_ok hshort hversion, ← hpresent]
  simp only [Option.getD_some]
  split_ifs with hnone hsome hok
  · exact iff_of_false not_false (fun h => Bool.false_ne_true (hnone.1.symm.trans h.2.2.1.1))
  · refine iff_of_false not_false (fun h => ?_)
    rcases hsome with hf | hf
    · exact Bool.false_ne_true (hf.symm.trans h.2.2.1.1)
    · exact Bool.false_ne_true (hf.symm.trans h.2.2.1.2)
  · have hboth : (sensorsPresentOf (uplink.bytes.getD 12 0)).pm = true ∧ (sensorsPresentOf (uplink.bytes.getD 12 0)).env = true := by
      simpa using hsome
    constructor
    · intro h
      exact ⟨not_lt.1 hshort, hnibble, hboth, hok, (Handled.reading.inj h).symm⟩
    · intro h
      exact congrArg Handled.reading h.2.2.2.2.symm
  · exact iff_of_false not_false (fun h => hok h.2.2.2.1)

/-- An uplink becomes a reading that its row can hold exactly if it is valid telemetry of the years 1 to 9999. -/
theorem handleUplink_reading_iff (uplink : ChirpStackUplink) (p : ReadingPayload) :
    (handleUplink dateParse now (some uplink) = .reading p ∧ rowOk p = true) ↔
      (ValidTelemetry uplink ∧ TimeInYears dateParse now uplink) ∧ p = telemetryPayload dateParse now uplink := by
  by_cases hport : uplink.fPort = some 2
  · rw [handleUplink_telemetry dateParse now hport, handleTelemetry_reading_iff]
    have hok := telemetryPayload_ok_iff dateParse now uplink
    constructor
    · intro h
      obtain ⟨⟨hlen, hversion, hpresent, hreading, rfl⟩, hrow⟩ := h
      obtain ⟨hdev, htext, htime, ht, hh, hp, hr⟩ := hok.1 ⟨hreading, hrow⟩
      exact ⟨⟨⟨hdev, htext, hport, hlen, hversion, hpresent, ht, hh, hp, hr⟩, htime⟩, rfl⟩
    · intro h
      obtain ⟨⟨hv, htime⟩, rfl⟩ := h
      obtain ⟨hreading, hrow⟩ := hok.2 ⟨hv.nonempty, hv.text, htime, hv.temperature, hv.humidity, hv.pressure, hv.rssi⟩
      exact ⟨⟨hv.length, hv.version, hv.present, hreading, rfl⟩, hrow⟩
  · refine iff_of_false (fun h => ?_) (fun h => hport h.1.1.fPort)
    have h := h.1
    simp only [handleUplink] at h
    split_ifs at h
    unfold handleConfigReport at h
    split at h
    · cases h
    · cases h

/-! ## A message against a working database -/

/-- The service after a message, with a Redis and a database that work: the one call that fails is an insert whose row a column
cannot hold. -/
def Service.receive (s : Service) (message : Option ChirpStackUplink) : Service :=
  match message with
  | none => s.deliver dateParse none now
  | some uplink => s.handle dateParse uplink now
      (match handleUplink dateParse now (some uplink) with
        | .reading p => if rowOk p = true then none else some ⟨.insert, false⟩
        | _ => none)

/-- Nothing was stored, cached as a latest value or published. -/
def Untouched (s s' : Service) : Prop := s'.readings = s.readings ∧ s'.latest = s.latest ∧ s'.published = s.published

/-- A message that carries a reading its row can hold is inserted, cached and published. -/
theorem receive_reading {uplink : ChirpStackUplink} {p : ReadingPayload}
    (hp : handleUplink dateParse now (some uplink) = .reading p) (hrow : rowOk p = true) (s : Service) :
    (s.receive dateParse now (some uplink)).readings = insertReading s.readings p ∧
      (s.receive dateParse now (some uplink)).latest = Function.update s.latest p.reading.deviceId (some p) ∧
      (s.receive dateParse now (some uplink)).published = s.published ++ [p] := by
  simp [Service.receive, hp, hrow, handle_reading hp, took]

/-- A message that is not telemetry makes no call that touches the readings. -/
theorem handle_untouched {uplink : ChirpStackUplink} (h : ∀ p, handleUplink dateParse now (some uplink) ≠ .reading p)
    (s : Service) : Untouched s (s.handle dateParse uplink now none) := by
  cases hh : handleUplink dateParse now (some uplink) with
  | reading p => exact absurd hh (h p)
  | dropped reason =>
    rw [handle_dropped hh]
    exact ⟨rfl, rfl, rfl⟩
  | ignored =>
    simp [Untouched, Service.handle, callsOf, Service.deliver, hh, Handled.exec, ingestion, Service.resolve, Exec.awaits]
  | config c =>
    simp [Untouched, Service.handle, callsOf, Service.deliver, hh, Handled.exec, ingestion, Service.resolve, Exec.awaits,
      Exec.next, Service.effect, Service.count]

/-- A message that carries no reading its row can hold leaves the rows, the latest values and the channel as they were. -/
theorem receive_untouched {message : Option ChirpStackUplink}
    (h : ∀ uplink p, message = some uplink → handleUplink dateParse now (some uplink) = .reading p → ¬ rowOk p = true)
    (s : Service) : Untouched s (s.receive dateParse now message) := by
  cases message with
  | none => exact ⟨rfl, rfl, rfl⟩
  | some uplink =>
    cases hh : handleUplink dateParse now (some uplink) with
    | reading p =>
      simp [Service.receive, hh, h uplink p rfl hh, handle_reading hh, took, Untouched]
    | config c =>
      simp only [Service.receive, hh]
      exact handle_untouched dateParse now (by simp [hh]) s
    | ignored =>
      simp only [Service.receive, hh]
      exact handle_untouched dateParse now (by simp [hh]) s
    | dropped reason =>
      simp only [Service.receive, hh]
      exact handle_untouched dateParse now (by simp [hh]) s

/-- The uplink of an MQTT payload: `ChirpStackUplinkSchema.parse(JSON.parse(raw.toString('utf8')))`, where `parse` is what the
language makes of the bytes. -/
def messageOf (parse : List UInt8 → Option Json) (payload : List UInt8) : Option ChirpStackUplink :=
  (parse payload).bind chirpStackUplinkSchema

/-- Between `s` and `s'` a reading was accepted: its row was added, or one with its sensor and time was there, and one event was
published. -/
def Accepted (s s' : Service) : Prop :=
  ∃ p, (s'.readings = s.readings ++ [p] ∨ p.id ∈ readingKeys s.readings ∧ s'.readings = s.readings) ∧
    s'.published = s.published ++ [p]

/-- Ingestion accepts exactly the valid telemetry. For every MQTT payload, in every state of the service, with a database and a
Redis that work:
1. a reading is accepted if and only if the payload is valid telemetry, of the years 1 to 9999;
2. then the latest value and the event are the reading of the uplink, and so is the row, unless one with its sensor and time was
   there: the rows then stay as they are;
3. otherwise the rows, the latest values and the channel stay as they are. -/
theorem telemetry_accepted_iff (parse : List UInt8 → Option Json) (s : Service) (payload : List UInt8) :
    (Accepted s (s.receive dateParse now (messageOf parse payload)) ↔
      ∃ uplink, messageOf parse payload = some uplink ∧ ValidTelemetry uplink ∧ TimeInYears dateParse now uplink) ∧
    (∀ uplink, messageOf parse payload = some uplink → ValidTelemetry uplink ∧ TimeInYears dateParse now uplink →
      (s.receive dateParse now (messageOf parse payload)).readings =
          (if (telemetryPayload dateParse now uplink).id ∈ readingKeys s.readings then s.readings
            else s.readings ++ [telemetryPayload dateParse now uplink]) ∧
        (s.receive dateParse now (messageOf parse payload)).latest =
          Function.update s.latest uplink.devEui (some (telemetryPayload dateParse now uplink)) ∧
        (s.receive dateParse now (messageOf parse payload)).published =
          s.published ++ [telemetryPayload dateParse now uplink]) ∧
    ((∀ uplink, messageOf parse payload = some uplink → ¬(ValidTelemetry uplink ∧ TimeInYears dateParse now uplink)) →
      Untouched s (s.receive dateParse now (messageOf parse payload))) := by
  have hvalid : ∀ uplink, messageOf parse payload = some uplink → ValidTelemetry uplink ∧ TimeInYears dateParse now uplink →
      (s.receive dateParse now (messageOf parse payload)).readings =
          insertReading s.readings (telemetryPayload dateParse now uplink) ∧
        (s.receive dateParse now (messageOf parse payload)).latest =
          Function.update s.latest uplink.devEui (some (telemetryPayload dateParse now uplink)) ∧
        (s.receive dateParse now (messageOf parse payload)).published =
          s.published ++ [telemetryPayload dateParse now uplink] := by
    intro uplink hm hv
    obtain ⟨hp, hrow⟩ := (handleUplink_reading_iff dateParse now uplink _).2 ⟨hv, rfl⟩
    rw [hm]
    exact receive_reading dateParse now hp hrow s
  have hinvalid : (∀ uplink, messageOf parse payload = some uplink →
      ¬(ValidTelemetry uplink ∧ TimeInYears dateParse now uplink)) →
      Untouched s (s.receive dateParse now (messageOf parse payload)) := by
    intro hnot
    refine receive_untouched dateParse now (fun uplink p hm hp hrow => ?_) s
    exact hnot uplink hm ((handleUplink_reading_iff dateParse now uplink p).1 ⟨hp, hrow⟩).1
  refine ⟨⟨?_, ?_⟩, hvalid, hinvalid⟩
  · intro h
    obtain ⟨p, -, hpublished⟩ := h
    by_contra hnot
    have hsame := (hinvalid (fun uplink hm hv => hnot ⟨uplink, hm, hv⟩)).2.2
    rw [hsame] at hpublished
    exact absurd hpublished (by simp)
  · intro h
    obtain ⟨uplink, hm, hv⟩ := h
    obtain ⟨hreadings, -, hpublished⟩ := hvalid uplink hm hv
    refine ⟨_, ?_, hpublished⟩
    rw [hreadings]
    by_cases hkey : (telemetryPayload dateParse now uplink).id ∈ readingKeys s.readings
    · exact Or.inr ⟨hkey, insertReading_of_mem hkey⟩
    · exact Or.inl (if_neg hkey)

/-- The JSON of a telemetry uplink. -/
def sampleJson : Json :=
  .object [("deviceInfo", .object [("devEui", .string "eeeeeeee00000001")]), ("fPort", .number (.finite 2)),
    ("data", .string "ZADIAMQJiBP1AzwPMQ==")]

/-- Another uplink of the device came at the same time with other values: the row that is found is not the reading. -/
theorem accepted_row_false :
    ¬∀ (dateParse : String → Option ℤ) (now : ℤ) (parse : List UInt8 → Option Json) (s : Service) (payload : List UInt8)
      (uplink : ChirpStackUplink), messageOf parse payload = some uplink →
      ValidTelemetry uplink ∧ TimeInYears dateParse now uplink →
      ∀ row ∈ (s.receive dateParse now (messageOf parse payload)).readings,
        row.id = (telemetryPayload dateParse now uplink).id → row = telemetryPayload dateParse now uplink := by
  intro h
  have hmessage : messageOf (fun _ => some sampleJson) [] = some .sample := by decide +kernel
  have hvalid : ValidTelemetry .sample ∧ TimeInYears (fun _ => none) 1767261600000 .sample := by
    refine ((handleUplink_reading_iff (fun _ => none) 1767261600000 .sample
      (telemetryPayload (fun _ => none) 1767261600000 .sample)).1 ?_).1
    decide +kernel
  have hrow : ∃ row ∈ (((Service.start []).receive (fun _ => none) 1767261600000
      (some { ChirpStackUplink.sample with data := "ZQDIAMQJiBP1AzwPMQ==" })).receive (fun _ => none) 1767261600000
        (messageOf (fun _ => some sampleJson) [])).readings,
      row.id = (telemetryPayload (fun _ => none) 1767261600000 .sample).id ∧
        row ≠ telemetryPayload (fun _ => none) 1767261600000 .sample := by
    decide +kernel
  obtain ⟨row, hmem, hid, hne⟩ := hrow
  exact hne (h (fun _ => none) 1767261600000 (fun _ => some sampleJson) _ [] .sample hmessage hvalid row hmem hid)

end AirQuality
