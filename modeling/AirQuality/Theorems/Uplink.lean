import AirQuality.Codec.Uplink
import AirQuality.Firmware.Payload

/-!
# The two uplink encoders agree

The node cuts a value to the wire range before it rounds it, halves away from zero; the server rounds it, halves upward, and
cuts it afterwards. The two differ on negative half-way values only, by one quantum.
-/

namespace AirQuality

/-- A reading of the node, as the payload the server's encoder takes: the same fields, the same groups present. -/
@[simps] def AqReading.toPayload (r : AqReading) : DecodedPayload where
  pm25 := r.pm25
  pm10 := r.pm10
  temperature := r.temperature
  humidity := r.humidity
  pressure := r.pressure
  batteryMv := r.batteryMv.toNat
  version := none
  sensorsPresent := some { pm := r.present &&& aqPresentPm ≠ 0, env := r.present &&& aqPresentEnv ≠ 0 }

/-- The scaled fields of a reading, by the offset of their word on the wire: what the encoders round. -/
def AqReading.scaled (r : AqReading) : List (Nat × ℚ) :=
  [(0, r.pm25 * 10), (2, r.pm10 * 10), (4, r.temperature * 100), (6, r.humidity * 100), (8, r.pressure)]

/-- The value of the word at an offset of a payload: the temperature is signed. -/
def wireValue (bytes : List UInt8) (offset : Nat) : ℤ :=
  if offset = 4 then getInt16 bytes offset else getUint16 bytes offset

/-! ## Word by word -/

/-- Words of the two unsigned encoders, for any value. -/
theorem clampU16_u16 (v : ℚ) :
    |((clampU16 v).toNat : ℤ) - (UInt16.ofInt (u16 v)).toNat| ≤ 1 ∧
      (¬Rounding.IsTie v → clampU16 v = UInt16.ofInt (u16 v)) := by
  rw [clampU16_toNat, u16_toNat]
  refine ⟨Rounding.abs_clampAway_sub_saturate_round_le (by decide) v, fun hv => UInt16.toNat_inj.mp ?_⟩
  have h := Rounding.clampAway_eq_saturate_round (by decide : (0 : ℤ) ≤ 65535) hv
  rw [← clampU16_toNat, ← u16_toNat] at h
  exact_mod_cast h

/-- Words of the two signed encoders, for any value. -/
theorem clampI16_i16 (v : ℚ) :
    |(clampI16 v).toInt - (UInt16.ofInt (i16 v)).toInt16.toInt| ≤ 1 ∧
      (¬Rounding.IsTie v → (clampI16 v).toUInt16 = UInt16.ofInt (i16 v)) := by
  rw [clampI16_toInt, i16_toInt]
  refine ⟨Rounding.abs_clampAway_sub_saturate_round_le (by decide) v, fun hv => ?_⟩
  have h := Rounding.clampAway_eq_saturate_round (by decide : (-32768 : ℤ) ≤ 32767) hv
  rw [← clampI16_toInt, ← i16_toInt, Int16.toInt_inj] at h
  rw [h, UInt16.toUInt16_toInt16]

/-- The flag bytes are the same as long as the mask has no bit above the two groups. -/
theorem flags_eq {m : UInt8} (hm : m &&& 0xc0 = 0) :
    aqPayloadVersion ||| (m &&& 0xf0) =
      payloadVersion ||| (if decide (m &&& aqPresentPm ≠ 0) then presentPm else 0) |||
        (if decide (m &&& aqPresentEnv ≠ 0) then presentEnv else 0) := by
  have h : ∀ n : Fin 256, UInt8.ofFin n &&& 0xc0 = 0 →
      aqPayloadVersion ||| (UInt8.ofFin n &&& 0xf0) =
        payloadVersion ||| (if decide (UInt8.ofFin n &&& aqPresentPm ≠ 0) then presentPm else 0) |||
          (if decide (UInt8.ofFin n &&& aqPresentEnv ≠ 0) then presentEnv else 0) := by decide +kernel
  exact h m.toFin hm

/-! ## The payloads -/

/-- The words of the two payloads, offset by offset: never more than one apart, and the same where there is no tie. -/
theorem words_agree (r : AqReading) {f : Nat × ℚ} (hf : f ∈ r.scaled) :
    |wireValue (aqPayloadEncode r) f.1 - wireValue (encodeUplink r.toPayload) f.1| ≤ 1 ∧
      (¬Rounding.IsTie f.2 → Word.at (aqPayloadEncode r) f.1 = Word.at (encodeUplink r.toPayload) f.1) := by
  obtain ⟨c0, c2, c4, c6, c8, -, -⟩ := aqPayloadEncode_at r
  obtain ⟨t0, t2, t4, t6, t8, -⟩ := encodeUplink_at r.toPayload
  simp only [AqReading.scaled, List.mem_cons, List.not_mem_nil, or_false] at hf
  rcases hf with rfl | rfl | rfl | rfl | rfl
  · simpa [wireValue, getUint16, c0, t0] using clampU16_u16 (r.pm25 * 10)
  · simpa [wireValue, getUint16, c2, t2] using clampU16_u16 (r.pm10 * 10)
  · simpa [wireValue, getInt16, c4, t4] using clampI16_i16 (r.temperature * 100)
  · simpa [wireValue, getUint16, c6, t6] using clampU16_u16 (r.humidity * 100)
  · simpa [wireValue, getUint16, c8, t8] using clampU16_u16 r.pressure

/-- From the battery on, the two payloads are the same. -/
theorem tails_agree (r : AqReading) (hmask : r.present &&& 0xc0 = 0) :
    (aqPayloadEncode r).drop 10 = (encodeUplink r.toPayload).drop 10 := by
  have hbattery := u16_natCast r.batteryMv
  have hflags := flags_eq hmask
  change Word.bytes r.batteryMv ++ [_] = Word.bytes (UInt16.ofInt (u16 (r.batteryMv.toNat : ℚ))) ++ [_]
  rw [hbattery]
  exact congrArg (fun b => Word.bytes r.batteryMv ++ [b]) hflags

/-- The two uplink encoders agree. For every reading whose mask uses only the two sensor groups in its high nibble:
1. if no scaled field is half-way between two integers, the two payloads are the same 13 bytes;
2. field by field, the words are at most one quantum apart, and the same where the scaled value is not half-way;
3. the battery and the flag byte are the same in any case. -/
theorem uplink_encoders_agree (r : AqReading) (hmask : r.present &&& 0xc0 = 0) :
    (aqPayloadEncode r).length = 13 ∧ (encodeUplink r.toPayload).length = 13 ∧
    ((∀ f ∈ r.scaled, ¬Rounding.IsTie f.2) → aqPayloadEncode r = encodeUplink r.toPayload) ∧
    (∀ f ∈ r.scaled, |wireValue (aqPayloadEncode r) f.1 - wireValue (encodeUplink r.toPayload) f.1| ≤ 1 ∧
      (¬Rounding.IsTie f.2 → wireValue (aqPayloadEncode r) f.1 = wireValue (encodeUplink r.toPayload) f.1)) ∧
    (aqPayloadEncode r).drop 10 = (encodeUplink r.toPayload).drop 10 := by
  refine ⟨rfl, rfl, fun hties => ?_, fun f hf => ?_, tails_agree r hmask⟩
  · -- the first ten bytes are five words, each equal because its value is no tie
    have hword : ∀ f ∈ r.scaled, Word.at (aqPayloadEncode r) f.1 = Word.at (encodeUplink r.toPayload) f.1 :=
      fun f hf => (words_agree r hf).2 (hties f hf)
    simp only [AqReading.scaled, List.forall_mem_cons, List.not_mem_nil, false_implies, implies_true, and_true] at hword
    obtain ⟨h0, h2, h4, h6, h8⟩ := hword
    obtain ⟨c0, c2, c4, c6, c8, -, -⟩ := aqPayloadEncode_at r
    obtain ⟨t0, t2, t4, t6, t8, -⟩ := encodeUplink_at r.toPayload
    rw [← List.take_append_drop 10 (aqPayloadEncode r), ← List.take_append_drop 10 (encodeUplink r.toPayload),
      tails_agree r hmask]
    congr 1
    rw [c0, t0] at h0
    rw [c2, t2] at h2
    rw [c4, t4] at h4
    rw [c6, t6] at h6
    rw [c8, t8] at h8
    simp only [aqPayloadEncode, encodeUplink, putU16_eq, h0, h2, h4, h6, h8]
    rfl
  · obtain ⟨hle, heq⟩ := words_agree r hf
    refine ⟨hle, fun htie => ?_⟩
    simp only [wireValue, getInt16, getUint16, heq htie]

/-- A reading with no half-way value, out of range at both ends. -/
theorem uplink_encoders_agree_clamped :
    aqPayloadEncode ⟨-5, 100000, -400, 700, 70000, 3950, 0x3f⟩ =
      encodeUplink (AqReading.toPayload ⟨-5, 100000, -400, 700, 70000, 3950, 0x3f⟩) := by
  refine (uplink_encoders_agree ⟨-5, 100000, -400, 700, 70000, 3950, 0x3f⟩ (by decide)).2.2.1 ?_
  have h : ∀ n : ℤ, ¬Rounding.IsTie (n : ℚ) := fun n => Rounding.not_isTie_intCast n
  simp only [AqReading.scaled, List.forall_mem_cons, List.not_mem_nil, false_implies, implies_true, and_true]
  refine ⟨?_, ?_, ?_, ?_, ?_⟩
  · rw [show (-5 : ℚ) * 10 = ((-50 : ℤ) : ℚ) by norm_num]
    exact h _
  · rw [show (100000 : ℚ) * 10 = ((1000000 : ℤ) : ℚ) by norm_num]
    exact h _
  · rw [show (-400 : ℚ) * 100 = ((-40000 : ℤ) : ℚ) by norm_num]
    exact h _
  · rw [show (700 : ℚ) * 100 = ((70000 : ℤ) : ℚ) by norm_num]
    exact h _
  · exact h 70000

end AirQuality
