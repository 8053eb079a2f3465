import AirQuality.Codec.Downlink
import AirQuality.Lib.Round

/-!
# The uplink payload on the server

`packages/telemetry-codec/src/index.ts`, lines 1 to 97: the decoder and the encoder of the 13 bytes a node sends, with exact
rationals in place of doubles.
-/

namespace AirQuality

def payloadLength : Nat := 13
def payloadVersion : UInt8 := 1

/-- `PRESENT_PM`: pm25 and pm10. -/
def presentPm : UInt8 := 0x10

/-- `PRESENT_ENV`: temperature, humidity and pressure. -/
def presentEnv : UInt8 := 0x20

structure SensorsPresent where
  pm : Bool
  env : Bool
deriving DecidableEq

structure DecodedPayload where
  pm25 : ℚ
  pm10 : ℚ
  temperature : ℚ
  humidity : ℚ
  pressure : ℚ
  batteryMv : ℚ
  /-- Payload version from byte 12 (present on decode). -/
  version : Option Nat
  /-- Which sensor groups are populated (present on decode; on encode, defaults to every sensor). -/
  sensorsPresent : Option SensorsPresent
deriving DecidableEq

/-- The groups the flag byte says are populated. Version 0 predates the bits: all sensors are present. -/
def sensorsPresentOf (flags : UInt8) : SensorsPresent :=
  if flags &&& 0x0f = 0 then { pm := true, env := true }
  else { pm := flags &&& presentPm ≠ 0, env := flags &&& presentEnv ≠ 0 }

def decodeUplink (bytes : List UInt8) : Except CodecError DecodedPayload :=
  if bytes.length < payloadLength then .error (.payloadTooShort bytes.length)
  else
    let flags := bytes.getD 12 0
    let version := flags &&& 0x0f
    if payloadVersion < version then .error (.unsupportedPayloadVersion version.toNat)
    else .ok {
      pm25 := getUint16 bytes 0 / 10
      pm10 := getUint16 bytes 2 / 10
      temperature := getInt16 bytes 4 / 100
      humidity := getUint16 bytes 6 / 100
      pressure := getUint16 bytes 8
      batteryMv := getUint16 bytes 10
      version := some version.toNat
      sensorsPresent := some (sensorsPresentOf flags) }

/-- `u16`: `Math.round` (halves upward), cut to the unsigned range. -/
def u16 (v : ℚ) : ℤ := max 0 (min 65535 (round v))

/-- `i16`: `Math.round` (halves upward), cut to the signed range. -/
def i16 (v : ℚ) : ℤ := max (-32768) (min 32767 (round v))

def encodeUplink (p : DecodedPayload) : List UInt8 :=
  let present := p.sensorsPresent.getD { pm := true, env := true }
  Word.bytes (UInt16.ofInt (u16 (p.pm25 * 10))) ++
  Word.bytes (UInt16.ofInt (u16 (p.pm10 * 10))) ++
  Word.bytes (UInt16.ofInt (i16 (p.temperature * 100))) ++
  Word.bytes (UInt16.ofInt (u16 (p.humidity * 100))) ++
  Word.bytes (UInt16.ofInt (u16 p.pressure)) ++
  Word.bytes (UInt16.ofInt (u16 p.batteryMv)) ++
  [payloadVersion ||| (if present.pm then presentPm else 0) ||| (if present.env then presentEnv else 0)]

/-! ## The words of a payload -/

/-- The words of a payload, by offset. -/
theorem encodeUplink_at (p : DecodedPayload) :
    Word.at (encodeUplink p) 0 = UInt16.ofInt (u16 (p.pm25 * 10)) ∧
    Word.at (encodeUplink p) 2 = UInt16.ofInt (u16 (p.pm10 * 10)) ∧
    Word.at (encodeUplink p) 4 = UInt16.ofInt (i16 (p.temperature * 100)) ∧
    Word.at (encodeUplink p) 6 = UInt16.ofInt (u16 (p.humidity * 100)) ∧
    Word.at (encodeUplink p) 8 = UInt16.ofInt (u16 p.pressure) ∧
    Word.at (encodeUplink p) 10 = UInt16.ofInt (u16 p.batteryMv) := by
  simp [encodeUplink, Word.at, Word.bytes]

/-- The unsigned encoder cuts after rounding, and what it writes fits a word. -/
theorem u16_toNat (v : ℚ) : ((UInt16.ofInt (u16 v)).toNat : ℤ) = Rounding.saturate 0 65535 (round v) :=
  Word.ofInt_toNat (Rounding.lo_le_saturate 0 65535 _) (Rounding.saturate_le_hi (by decide) _)

/-- The signed encoder cuts after rounding, and what it writes fits a signed word. -/
theorem i16_toInt (v : ℚ) : (UInt16.ofInt (i16 v)).toInt16.toInt = Rounding.saturate (-32768) 32767 (round v) :=
  Word.ofInt_toInt (Rounding.lo_le_saturate (-32768) 32767 _) (Rounding.saturate_le_hi (by decide) _)

/-- A count of 0 to 65535 is written whole. -/
theorem u16_natCast (n : UInt16) : UInt16.ofInt (u16 (n.toNat : ℚ)) = n := by
  have hn : ((n.toNat : ℤ) : ℚ) = (n.toNat : ℚ) := by push_cast; rfl
  have hlt := n.toNat_lt
  have h : ((UInt16.ofInt (u16 (n.toNat : ℚ))).toNat : ℤ) = (n.toNat : ℤ) := by
    rw [u16_toNat, ← hn, round_intCast]
    exact Rounding.saturate_of_mem (by omega) (by omega)
  exact UInt16.toNat_inj.mp (by exact_mod_cast h)

/-- What is decoded, once it is. -/
theorem decodeUplink_ok {bytes : List UInt8} (h₁ : ¬bytes.length < 13) (h₂ : ¬1 < bytes.getD 12 0 &&& 0x0f) :
    decodeUplink bytes = .ok {
      pm25 := getUint16 bytes 0 / 10
      pm10 := getUint16 bytes 2 / 10
      temperature := getInt16 bytes 4 / 100
      humidity := getUint16 bytes 6 / 100
      pressure := getUint16 bytes 8
      batteryMv := getUint16 bytes 10
      version := some (bytes.getD 12 0 &&& 0x0f).toNat
      sensorsPresent := some (sensorsPresentOf (bytes.getD 12 0)) } :=
  (if_neg h₁).trans (if_neg h₂)

/-- Decoding fails exactly on bytes that are too short or whose version nibble is above 1. -/
theorem decodeUplink_error_iff (bytes : List UInt8) :
    (∃ e, decodeUplink bytes = .error e) ↔ bytes.length < 13 ∨ 1 < bytes.getD 12 0 &&& 0x0f := by
  by_cases h₁ : bytes.length < 13
  · exact ⟨fun _ => Or.inl h₁, fun _ => ⟨_, if_pos h₁⟩⟩
  · by_cases h₂ : 1 < bytes.getD 12 0 &&& 0x0f
    · exact ⟨fun _ => Or.inr h₂, fun _ => ⟨_, (if_neg h₁).trans (if_pos h₂)⟩⟩
    · rw [decodeUplink_ok h₁ h₂]
      exact ⟨nofun, fun h => (h.elim h₁ h₂).elim⟩

end AirQuality
