import AirQuality.Firmware.Config
import AirQuality.Ingestion.Service

/-!
# The path of a reading

From the sensors of a node to the decoded payload on the server: sampling, calibration, the thirteen bytes, decoding, and the gate
that keeps a reading with a failed sensor group out of every store.
-/

namespace AirQuality

/-! ## Sensors -/

/-- What `read_pm` does: the counts the PMS7003 delivers, or a failure that leaves anything in its outputs. -/
inductive PmRead where
  | ok (pm25 pm10 : UInt16)
  | failed (rc : {rc : Int // rc ≠ 0}) (pm25 pm10 : ℚ)

/-- What `read_env` does: hundredths of a degree, a humidity and a pressure, or a failure that leaves anything in its outputs. -/
inductive EnvRead where
  | ok (t : ℤ) (humidity pressure : ℚ)
  | failed (rc : {rc : Int // rc ≠ 0}) (temperature humidity pressure : ℚ)

/-- The read succeeded. -/
def PmRead.isOk : PmRead → Bool
  | .ok .. => true
  | .failed .. => false

def EnvRead.isOk : EnvRead → Bool
  | .ok .. => true
  | .failed .. => false

/-- Return code and outputs of `read_pm`. -/
def PmRead.out : PmRead → Int × ℚ × ℚ
  | .ok pm25 pm10 => (0, pm25.toNat, pm10.toNat)
  | .failed rc pm25 pm10 => (rc, pm25, pm10)

/-- Return code and outputs of `read_env`. -/
def EnvRead.out : EnvRead → Int × ℚ × ℚ × ℚ
  | .ok t humidity pressure => (0, t / 100, humidity, pressure)
  | .failed rc temperature humidity pressure => (rc, temperature, humidity, pressure)

/-- The sensors of a node in one wake. -/
def sensorHal (pm : PmRead) (env : EnvRead) (battery : UInt16) : AqSensorHal := ⟨pm.out, env.out, battery⟩

/-- The payload of a reading: sampled, calibrated and encoded, as `send_reading` does. -/
def readingPayload (cfg : AqConfig) (pm : PmRead) (env : EnvRead) (battery : UInt16) : List UInt8 :=
  aqPayloadEncode (aqConfigCalibrate cfg (aqSample (sensorHal pm env battery)).2)

/-! ## The payload of any reading, decoded -/

/-- The flag byte of a node's payload: version 1, and the two groups of the mask. -/
theorem payload_flags (m : UInt8) :
    (aqPayloadVersion ||| (m &&& 0xf0)) &&& 0x0f = 1 ∧
    sensorsPresentOf (aqPayloadVersion ||| (m &&& 0xf0)) = ⟨m &&& aqPresentPm ≠ 0, m &&& aqPresentEnv ≠ 0⟩ := by
  have h : ∀ n : Fin 256, (aqPayloadVersion ||| (UInt8.ofFin n &&& 0xf0)) &&& 0x0f = 1 ∧
      sensorsPresentOf (aqPayloadVersion ||| (UInt8.ofFin n &&& 0xf0)) =
        ⟨UInt8.ofFin n &&& aqPresentPm ≠ 0, UInt8.ofFin n &&& aqPresentEnv ≠ 0⟩ := by decide +kernel
  exact h m.toFin

/-- Every payload of a node is decoded, each field cut to its range and rounded. -/
theorem decodeUplink_aqPayloadEncode (r : AqReading) :
    decodeUplink (aqPayloadEncode r) = .ok {
      pm25 := Rounding.clampAway 0 65535 (r.pm25 * 10) / 10
      pm10 := Rounding.clampAway 0 65535 (r.pm10 * 10) / 10
      temperature := Rounding.clampAway (-32768) 32767 (r.temperature * 100) / 100
      humidity := Rounding.clampAway 0 65535 (r.humidity * 100) / 100
      pressure := Rounding.clampAway 0 65535 r.pressure
      batteryMv := r.batteryMv.toNat
      version := some 1
      sensorsPresent := some ⟨r.present &&& aqPresentPm ≠ 0, r.present &&& aqPresentEnv ≠ 0⟩ } := by
  obtain ⟨h0, h2, h4, h6, h8, h10, h12⟩ := aqPayloadEncode_at r
  obtain ⟨hversion, hpresent⟩ := payload_flags r.present
  have hflags : (aqPayloadEncode r).getD 12 0 &&& 0x0f = 1 := by rw [h12, hversion]
  rw [decodeUplink_ok (by simp) (by rw [hflags]; decide), hflags, h12, hpresent]
  simp only [getUint16, getInt16, h0, h2, h4, h6, h8, h10, clampU16_toNat, clampI16_toInt, Int16.toInt16_toUInt16]
  simp

/-! ## Sampling and calibration -/

/-- The mask of a sample: each group whose read succeeded. -/
def presentMask (pm env : Bool) : UInt8 := (if pm = true then aqPresentPm else 0) ||| (if env = true then aqPresentEnv else 0)

theorem presentMask_groups (pm env : Bool) :
    (presentMask pm env &&& aqPresentPm ≠ 0 ↔ pm = true) ∧ (presentMask pm env &&& aqPresentEnv ≠ 0 ↔ env = true) := by
  cases pm <;> cases env <;> decide

/-- A sample carries the values of the groups that were read, and zeros for the others. -/
theorem aqSample_reading (pm : PmRead) (env : EnvRead) (battery : UInt16) :
    (aqSample (sensorHal pm env battery)).2 = {
      pm25 := if pm.isOk = true then pm.out.2.1 else 0
      pm10 := if pm.isOk = true then pm.out.2.2 else 0
      temperature := if env.isOk = true then env.out.2.1 else 0
      humidity := if env.isOk = true then env.out.2.2.1 else 0
      pressure := if env.isOk = true then env.out.2.2.2 else 0
      batteryMv := battery
      present := presentMask pm.isOk env.isOk } := by
  cases pm with
  | ok pm25 pm10 =>
    cases env with
    | ok t humidity pressure => rfl
    | failed rc temperature humidity pressure =>
      simp [aqSample, sensorHal, PmRead.out, EnvRead.out, PmRead.isOk, EnvRead.isOk, rc.2, presentMask]
  | failed rc pm25 pm10 =>
    cases env with
    | ok t humidity pressure =>
      simp [aqSample, sensorHal, PmRead.out, EnvRead.out, PmRead.isOk, EnvRead.isOk, rc.2, presentMask]
    | failed rc' temperature humidity pressure =>
      simp [aqSample, sensorHal, PmRead.out, EnvRead.out, PmRead.isOk, EnvRead.isOk, rc.2, rc'.2, presentMask]

/-- Calibration moves the PM2.5 and the temperature of a group that was read, and nothing else. -/
theorem aqConfigCalibrate_eq (cfg : AqConfig) (r : AqReading) :
    aqConfigCalibrate cfg r = { r with
      pm25 := if r.present &&& aqPresentPm ≠ 0 then max 0 (r.pm25 + cfg.pmOffsetX10.toInt / 10) else r.pm25
      temperature :=
        if r.present &&& aqPresentEnv ≠ 0 then r.temperature + cfg.tempOffsetX100.toInt / 100 else r.temperature } := by
  have hmax : ∀ x : ℚ, (if x < 0 then 0 else x) = max 0 x := by
    intro x
    split_ifs with hx
    · rw [max_eq_left hx.le]
    · rw [max_eq_right (not_lt.1 hx)]
  unfold aqConfigCalibrate
  by_cases hpm : r.present &&& aqPresentPm ≠ 0
  · simp only [if_pos hpm, hmax]
    by_cases henv : r.present &&& aqPresentEnv ≠ 0
    · simp only [if_pos henv]
    · simp only [if_neg henv]
  · simp only [if_neg hpm]
    by_cases henv : r.present &&& aqPresentEnv ≠ 0
    · simp only [if_pos henv]
    · simp only [if_neg henv]

/-! ## End to end -/

/-- PM2.5 on the wire: the count in tenths and the offset, cut to the range. -/
theorem calibrated_pm25 (count : UInt16) (offset : ℤ) :
    Rounding.clampAway 0 65535 (max 0 ((count.toNat : ℚ) + offset / 10) * 10) =
      Rounding.saturate 0 65535 (10 * count.toNat + offset) := by
  have h : max 0 ((count.toNat : ℚ) + offset / 10) * 10 = ((max 0 (10 * count.toNat + offset) : ℤ) : ℚ) := by
    rw [max_mul_of_nonneg _ _ (by norm_num : (0 : ℚ) ≤ 10)]
    push_cast
    ring_nf
  rw [h, Rounding.clampAway_intCast (by decide), Rounding.saturate_max]

/-- PM10 on the wire: the count in tenths, cut to the range. -/
theorem encoded_pm10 (count : UInt16) :
    Rounding.clampAway 0 65535 ((count.toNat : ℚ) * 10) = min (10 * (count.toNat : ℤ)) 65535 := by
  have h : (count.toNat : ℚ) * 10 = ((10 * count.toNat : ℤ) : ℚ) := by
    push_cast
    ring
  rw [h, Rounding.clampAway_intCast (by decide), Rounding.saturate]
  omega

/-- The temperature on the wire: the hundredths and the offset, cut to the range. -/
theorem calibrated_temperature (t offset : ℤ) :
    Rounding.clampAway (-32768) 32767 (((t : ℚ) / 100 + offset / 100) * 100) =
      Rounding.saturate (-32768) 32767 (t + offset) := by
  have h : ((t : ℚ) / 100 + offset / 100) * 100 = ((t + offset : ℤ) : ℚ) := by
    push_cast
    ring
  rw [h, Rounding.clampAway_intCast (by decide)]

/-- What the server decodes from a reading of the node. -/
theorem decodeUplink_readingPayload (cfg : AqConfig) (pm : PmRead) (env : EnvRead) (battery : UInt16) :
    ∃ d, decodeUplink (readingPayload cfg pm env battery) = .ok d ∧ d.version = some 1 ∧
      d.sensorsPresent = some ⟨pm.isOk, env.isOk⟩ ∧ d.batteryMv = battery.toNat ∧
      (∀ pm25 pm10, pm = .ok pm25 pm10 →
        d.pm25 = Rounding.saturate 0 65535 (10 * pm25.toNat + cfg.pmOffsetX10.toInt) / 10 ∧
        d.pm10 = ((min (10 * pm10.toNat) 65535 : ℤ) : ℚ) / 10) ∧
      (pm.isOk = false → d.pm25 = 0 ∧ d.pm10 = 0) ∧
      (∀ t humidity pressure, env = .ok t humidity pressure →
        d.temperature = Rounding.saturate (-32768) 32767 (t + cfg.tempOffsetX100.toInt) / 100 ∧
        d.humidity = Rounding.clampAway 0 65535 (humidity * 100) / 100 ∧
        d.pressure = Rounding.clampAway 0 65535 pressure) ∧
      (env.isOk = false → d.temperature = 0 ∧ d.humidity = 0 ∧ d.pressure = 0) := by
  refine ⟨_, decodeUplink_aqPayloadEncode _, rfl, ?_⟩
  obtain ⟨hpm, henv⟩ := presentMask_groups pm.isOk env.isOk
  have hzero : Rounding.clampAway 0 65535 (0 : ℚ) = 0 := by
    exact_mod_cast Rounding.clampAway_intCast (K := ℚ) (by decide : (0 : ℤ) ≤ 65535) 0
  have hzero' : Rounding.clampAway (-32768) 32767 (0 : ℚ) = 0 := by
    exact_mod_cast Rounding.clampAway_intCast (K := ℚ) (by decide : (-32768 : ℤ) ≤ 32767) 0
  rw [aqConfigCalibrate_eq, aqSample_reading]
  simp only [hpm, henv, Bool.decide_eq_true]
  refine ⟨trivial, trivial, ?_, ?_, ?_, ?_⟩
  · rintro pm25 pm10 rfl
    simp [PmRead.isOk, PmRead.out, calibrated_pm25, encoded_pm10]
  · intro hfailed
    simp [hfailed, hzero]
  · rintro t humidity pressure rfl
    simp [EnvRead.isOk, EnvRead.out, calibrated_temperature]
  · intro hfailed
    simp [hfailed, hzero, hzero']

/-! ## The gate of ingestion -/

/-- An uplink whose payload lacks a sensor group is dropped before the first `await`. -/
theorem handleUplink_incomplete (dateParse : String → Option ℤ) (now : ℤ) {uplink : ChirpStackUplink} {d : DecodedPayload}
    {present : SensorsPresent} (hport : uplink.fPort = some 2) (hd : decodeUplink (bufferFromBase64 uplink.data) = .ok d)
    (hpresent : d.sensorsPresent = some present) (h : present.pm = false ∨ present.env = false) :
    ∃ reason, (reason = .noSensors ∨ reason = .incompleteSensors) ∧
      handleUplink dateParse now (some uplink) = .dropped reason := by
  rw [handleUplink_telemetry dateParse now hport]
  by_cases hboth : present.pm = false ∧ present.env = false
  · exact ⟨.noSensors, Or.inl rfl, by simp [handleTelemetry, hd, hpresent, hboth]⟩
  · exact ⟨.incompleteSensors, Or.inr rfl, by simp [handleTelemetry, hd, hpresent, hboth, h]⟩

/-- A message dropped at once touches no store, now or later: its execution has ended. -/
theorem deliver_dropped {dateParse : String → Option ℤ} {uplink : Option ChirpStackUplink} {now : ℤ} {reason : DropReason}
    (h : handleUplink dateParse now uplink = .dropped reason) (s : Service) :
    s.deliver dateParse uplink now =
      { s with execs := s.execs ++ [.dropped reason], readingsDropped := s.readingsDropped ++ [reason] } ∧
    ∀ as, ((ingestion dateParse).run (s.deliver dateParse uplink now) as).execs[s.execs.length]? =
      some (.dropped reason) := by
  have hdeliver : s.deliver dateParse uplink now =
      { s with execs := s.execs ++ [.dropped reason], readingsDropped := s.readingsDropped ++ [reason] } := by
    simp [Service.deliver, h, Handled.exec]
  refine ⟨hdeliver, fun as => ?_⟩
  have hstep : ∀ (s' : Service) (a : Action), s'.execs[s.execs.length]? = some (.dropped reason) →
      ((ingestion dateParse).step s' a).1.execs[s.execs.length]? = some (.dropped reason) :=
    fun s' a he => step_ended he rfl a
  refine (ingestion dateParse).run_inv hstep ?_ as
  rw [hdeliver]
  simp

/-- The path of a reading, from the sensors to the server, for every outcome of the two reads, every battery and every config:
1. it is decoded, with each group present exactly if its read succeeded, and the battery exact;
2. a PM group carries its counts, PM2.5 moved by its offset, an environment group its temperature, moved by its offset, and its
   humidity and pressure, each cut to the range of the wire and in steps of its quantum, the last two rounded to the nearest;
3. a group whose read failed carries zeros, which calibration does not move;
4. if a group failed, ingestion drops the uplink at once, in any state: no store is touched, and the execution has ended. -/
theorem reading_path (dateParse : String → Option ℤ) (cfg : AqConfig) (pm : PmRead) (env : EnvRead) (battery : UInt16) :
    (∃ d, decodeUplink (readingPayload cfg pm env battery) = .ok d ∧ d.version = some 1 ∧
      d.sensorsPresent = some ⟨pm.isOk, env.isOk⟩ ∧ d.batteryMv = battery.toNat ∧
      (∀ pm25 pm10, pm = .ok pm25 pm10 →
        d.pm25 = Rounding.saturate 0 65535 (10 * pm25.toNat + cfg.pmOffsetX10.toInt) / 10 ∧
        d.pm10 = ((min (10 * pm10.toNat) 65535 : ℤ) : ℚ) / 10) ∧
      (pm.isOk = false → d.pm25 = 0 ∧ d.pm10 = 0) ∧
      (∀ t humidity pressure, env = .ok t humidity pressure →
        d.temperature = Rounding.saturate (-32768) 32767 (t + cfg.tempOffsetX100.toInt) / 100 ∧
        (d.humidity = Rounding.saturate 0 65535 (Rounding.away (humidity * 100)) / 100 ∧
          |d.humidity * 100 - max 0 (min 65535 (humidity * 100))| ≤ 1 / 2) ∧
        (d.pressure = Rounding.saturate 0 65535 (Rounding.away pressure) ∧
          |d.pressure - max 0 (min 65535 pressure)| ≤ 1 / 2)) ∧
      (env.isOk = false → d.temperature = 0 ∧ d.humidity = 0 ∧ d.pressure = 0)) ∧
    (pm.isOk = false ∨ env.isOk = false → ∀ (s : Service) (uplink : ChirpStackUplink) (now : ℤ), uplink.fPort = some 2 →
      bufferFromBase64 uplink.data = readingPayload cfg pm env battery →
      ∃ reason, (reason = .noSensors ∨ reason = .incompleteSensors) ∧
        s.deliver dateParse (some uplink) now =
          { s with execs := s.execs ++ [.dropped reason], readingsDropped := s.readingsDropped ++ [reason] } ∧
        ∀ as, ((ingestion dateParse).run (s.deliver dateParse (some uplink) now) as).execs[s.execs.length]? =
          some (.dropped reason)) := by
  obtain ⟨d, hd, hversion, hpresent, hbattery, hpm, hpm0, henv, henv0⟩ := decodeUplink_readingPayload cfg pm env battery
  have hle : (0 : ℤ) ≤ 65535 := by decide
  refine ⟨⟨d, hd, hversion, hpresent, hbattery, hpm, hpm0, ?_, henv0⟩, ?_⟩
  · intro t humidity pressure h
    obtain ⟨htemperature, hhumidity, hpressure⟩ := henv t humidity pressure h
    have hnearest := Rounding.abs_clampAway_sub_clamp_le (K := ℚ) hle
    push_cast at hnearest
    refine ⟨htemperature, ⟨?_, ?_⟩, ⟨?_, ?_⟩⟩
    · rw [hhumidity, Rounding.clampAway_eq_saturate hle]
    · rw [hhumidity, div_mul_cancel₀ _ (by norm_num)]
      exact hnearest (humidity * 100)
    · rw [hpressure, Rounding.clampAway_eq_saturate hle]
    · rw [hpressure]
      exact hnearest pressure
  · intro hfailed s uplink now hport hdata
    rw [← hdata] at hd
    obtain ⟨reason, hreason, hdropped⟩ := handleUplink_incomplete dateParse now hport hd hpresent hfailed
    exact ⟨reason, hreason, deliver_dropped hdropped s⟩

end AirQuality
