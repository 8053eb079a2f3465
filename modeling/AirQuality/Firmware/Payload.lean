import AirQuality.Lib.Round
import AirQuality.Lib.Word

/-!
# Sampling and the uplink payload on the node

`firmware/core/aq_reading.h`, `aq_sensors.h`, `aq_node.c` and `aq_payload.{h,c}`, with exact rationals in place of `float`: one
sample of all sensors, and its 13 bytes on the wire.
-/

namespace AirQuality

/-- `AQ_PAYLOAD_VERSION` -/
def aqPayloadVersion : UInt8 := 1

/-- `AQ_DATA_FPORT`: readings go up on fPort 2. -/
def aqDataFport : UInt8 := 2

/-- `AQ_PRESENT_PM`: pm25 and pm10 are populated. -/
def aqPresentPm : UInt8 := 0x10

/-- `AQ_PRESENT_ENV`: temperature, humidity and pressure are populated. -/
def aqPresentEnv : UInt8 := 0x20

/-- `aq_reading_t` -/
structure AqReading where
  pm25 : ℚ
  pm10 : ℚ
  temperature : ℚ
  humidity : ℚ
  pressure : ℚ
  batteryMv : UInt16
  present : UInt8
deriving DecidableEq

/-- `aq_sensor_hal_t`, as one wake sees it: for each driver its return code and what it left in its outputs, whether it failed
or not. -/
structure AqSensorHal where
  /-- `read_pm`: return code, `*pm25`, `*pm10`. -/
  readPm : Int × ℚ × ℚ
  /-- `read_env`: return code, `*temp_c`, `*humidity`, `*pressure_hpa`. -/
  readEnv : Int × ℚ × ℚ × ℚ
  readBatteryMv : UInt16

/-- `aq_sample`: sample all sensors, going on past a failed one, whose fields are zero-filled. The return code and the
reading. -/
def aqSample (hal : AqSensorHal) : Int × AqReading :=
  let (rcPm, pm25, pm10) := hal.readPm
  let (presentPm, pm25, pm10) := if rcPm = 0 then (0 ||| aqPresentPm, pm25, pm10) else (0, 0, 0)
  let (rcEnv, temperature, humidity, pressure) := hal.readEnv
  let (present, temperature, humidity, pressure) :=
    if rcEnv = 0 then (presentPm ||| aqPresentEnv, temperature, humidity, pressure) else (presentPm, 0, 0, 0)
  let out : AqReading :=
    { pm25, pm10, temperature, humidity, pressure, batteryMv := hal.readBatteryMv, present }
  (if present ≠ 0 then 0 else -1, out)

/-- `put_u16`: the same static function in `aq_payload.c` and `aq_config.c`. -/
def putU16 (v : UInt16) : List UInt8 := [(v &&& 0xff).toUInt8, ((v >>> 8) &&& 0xff).toUInt8]

/-- `lroundf`: nearest integer, halves away from zero. -/
def lroundf (v : ℚ) : ℤ := Rounding.away v

/-- `clamp_u16` -/
def clampU16 (v : ℚ) : UInt16 :=
  if v < 0 then 0 else if 65535 < v then 65535 else UInt16.ofInt (lroundf v)

/-- `clamp_i16` -/
def clampI16 (v : ℚ) : Int16 :=
  if v < -32768 then -32768 else if 32767 < v then 32767 else Int16.ofInt (lroundf v)

/-- `aq_payload_encode` -/
def aqPayloadEncode (r : AqReading) : List UInt8 :=
  putU16 (clampU16 (r.pm25 * 10)) ++
  putU16 (clampU16 (r.pm10 * 10)) ++
  putU16 (clampI16 (r.temperature * 100)).toUInt16 ++
  putU16 (clampU16 (r.humidity * 100)) ++
  putU16 (clampU16 r.pressure) ++
  putU16 r.batteryMv ++
  [aqPayloadVersion ||| (r.present &&& 0xf0)]

/-! ## The words of a payload -/

@[simp] theorem putU16_eq (v : UInt16) : putU16 v = Word.bytes v := rfl

@[simp] theorem aqPayloadEncode_length (r : AqReading) : (aqPayloadEncode r).length = 13 := rfl

/-- The words of a payload, by offset, and its flag byte. -/
theorem aqPayloadEncode_at (r : AqReading) :
    Word.at (aqPayloadEncode r) 0 = clampU16 (r.pm25 * 10) ∧
    Word.at (aqPayloadEncode r) 2 = clampU16 (r.pm10 * 10) ∧
    Word.at (aqPayloadEncode r) 4 = (clampI16 (r.temperature * 100)).toUInt16 ∧
    Word.at (aqPayloadEncode r) 6 = clampU16 (r.humidity * 100) ∧
    Word.at (aqPayloadEncode r) 8 = clampU16 r.pressure ∧
    Word.at (aqPayloadEncode r) 10 = r.batteryMv ∧
    (aqPayloadEncode r).getD 12 0 = aqPayloadVersion ||| (r.present &&& 0xf0) := by
  simp [aqPayloadEncode, Word.at, Word.bytes]

/-- `clamp_u16` cuts to the range and rounds: it never wraps. -/
theorem clampU16_toNat (v : ℚ) : ((clampU16 v).toNat : ℤ) = Rounding.clampAway 0 65535 v := by
  unfold clampU16 Rounding.clampAway
  push_cast
  split_ifs with h₁ h₂
  · rfl
  · rfl
  · have hlo : 0 ≤ lroundf v := Rounding.le_away_of_le (by push_cast; exact not_lt.1 h₁)
    have hhi : lroundf v ≤ 65535 := Rounding.away_le_of_le (by push_cast; exact not_lt.1 h₂)
    exact Word.ofInt_toNat hlo hhi

/-- `clamp_i16` cuts to the range and rounds: it never wraps. -/
theorem clampI16_toInt (v : ℚ) : (clampI16 v).toInt = Rounding.clampAway (-32768) 32767 v := by
  unfold clampI16 Rounding.clampAway
  push_cast
  split_ifs with h₁ h₂
  · rfl
  · rfl
  · have hlo : -32768 ≤ lroundf v := Rounding.le_away_of_le (by push_cast; exact not_lt.1 h₁)
    have hhi : lroundf v ≤ 32767 := Rounding.away_le_of_le (by push_cast; exact not_lt.1 h₂)
    exact Int16.toInt_ofInt_of_le (by omega) (by omega)

end AirQuality
