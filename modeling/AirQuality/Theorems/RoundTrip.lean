import AirQuality.Codec.Uplink

/-!
# The uplink codec, there and back

A payload that is encoded and decoded has the nearest values the wire can carry. Bytes that are decoded and encoded are the
bytes again, but for what byte 12 may hold beyond the version and the two groups.
-/

namespace AirQuality

/-- A field of the payload on the wire: a whole number from `lo` to `hi` of `scale`-ths of its unit. -/
structure WireField where
  value : DecodedPayload → ℚ
  lo : ℤ
  hi : ℤ
  scale : ℚ

/-- The fields of bytes 0 to 11, in order. -/
def wireFields : List WireField :=
  [⟨(·.pm25), 0, 65535, 10⟩, ⟨(·.pm10), 0, 65535, 10⟩, ⟨(·.temperature), -32768, 32767, 100⟩,
    ⟨(·.humidity), 0, 65535, 100⟩, ⟨(·.pressure), 0, 65535, 1⟩, ⟨(·.batteryMv), 0, 65535, 1⟩]

/-- A field of `q` is what the wire carries of the field of `p`: the nearest value, the upper of two; within half a quantum if
the field of `p` is in range, and the nearest end of the range if it is not. -/
structure WireField.Carried (f : WireField) (p q : DecodedPayload) : Prop where
  nearest : Rounding.IsNearest f.lo f.hi f.scale (f.value p) (f.value q)
  inRange : f.lo / f.scale ≤ f.value p → f.value p ≤ f.hi / f.scale → |f.value q - f.value p| ≤ 1 / (2 * f.scale)
  below : f.value p < f.lo / f.scale → f.value q = f.lo / f.scale
  above : f.hi / f.scale < f.value p → f.value q = f.hi / f.scale

/-- A field that is scaled, rounded, cut and scaled back is carried. -/
theorem carried_of_eq {f : WireField} {p q : DecodedPayload} (hlo : f.lo ≤ f.hi) (hs : 0 < f.scale)
    (h : f.value q = Rounding.saturate f.lo f.hi (round (f.value p * f.scale)) / f.scale) : f.Carried p q where
  nearest := h ▸ Rounding.isNearest_saturate_round hlo hs _
  inRange h₁ h₂ := h ▸ Rounding.abs_saturate_round_sub_le hs h₁ h₂
  below hx := by rw [h, Rounding.saturate_round_of_lt hs hx]
  above hx := by rw [h, Rounding.saturate_round_of_gt hlo hs hx]

/-! ## There and back -/

/-- The flag byte of an encoded payload. -/
def flagsOf (present : SensorsPresent) : UInt8 :=
  payloadVersion ||| (if present.pm then presentPm else 0) ||| (if present.env then presentEnv else 0)

theorem encodeUplink_flags (p : DecodedPayload) :
    (encodeUplink p).getD 12 0 = flagsOf (p.sensorsPresent.getD { pm := true, env := true }) := rfl

/-- The flag byte says version 1 and the groups it was made of. -/
theorem flagsOf_spec (present : SensorsPresent) :
    flagsOf present &&& 0x0f = 1 ∧ sensorsPresentOf (flagsOf present) = present := by
  obtain ⟨pm, env⟩ := present
  cases pm <;> cases env <;> decide

/-- An unsigned word as it is read. -/
theorem getUint16_u16 {bytes : List UInt8} {i : Nat} {v : ℚ} (h : Word.at bytes i = UInt16.ofInt (u16 v)) :
    (getUint16 bytes i : ℚ) = (Rounding.saturate 0 65535 (round v) : ℤ) := by
  rw [← u16_toNat, ← h]
  rfl

/-- The signed word as it is read. -/
theorem getInt16_i16 {bytes : List UInt8} {i : Nat} {v : ℚ} (h : Word.at bytes i = UInt16.ofInt (i16 v)) :
    (getInt16 bytes i : ℚ) = (Rounding.saturate (-32768) 32767 (round v) : ℤ) := by
  rw [← i16_toInt, ← h]
  rfl

/-- What is decoded of an encoded payload. -/
theorem decodeUplink_encodeUplink (p : DecodedPayload) :
    ∃ q, decodeUplink (encodeUplink p) = .ok q ∧ q.version = some 1 ∧
      q.sensorsPresent = some (p.sensorsPresent.getD { pm := true, env := true }) ∧
      ∀ f ∈ wireFields, f.value q = Rounding.saturate f.lo f.hi (round (f.value p * f.scale)) / f.scale := by
  obtain ⟨hversion, hpresent⟩ := flagsOf_spec (p.sensorsPresent.getD { pm := true, env := true })
  rw [← encodeUplink_flags] at hversion hpresent
  have hlength : ¬(encodeUplink p).length < 13 := by simp [encodeUplink]
  have hok := decodeUplink_ok hlength (by rw [hversion]; decide)
  refine ⟨_, hok, by rw [hversion]; rfl, by rw [hpresent], ?_⟩
  obtain ⟨h0, h2, h4, h6, h8, h10⟩ := encodeUplink_at p
  simp only [wireFields, List.forall_mem_cons, List.not_mem_nil, false_implies, implies_true, and_true, mul_one, div_one]
  exact ⟨by rw [getUint16_u16 h0], by rw [getUint16_u16 h2], by rw [getInt16_i16 h4], by rw [getUint16_u16 h6],
    getUint16_u16 h8, getUint16_u16 h10⟩

/-! ## Back and there -/

/-- An unsigned word is written as it was read. -/
theorem u16_getUint16 (bytes : List UInt8) (i : Nat) :
    Word.bytes (UInt16.ofInt (u16 (getUint16 bytes i : ℚ))) = [bytes.getD i 0, bytes.getD (i + 1) 0] := by
  have h : (getUint16 bytes i : ℚ) = ((Word.at bytes i).toNat : ℚ) := Int.cast_natCast _
  rw [h, u16_natCast, Word.at, Word.bytes_join]

/-- The signed word is written as it was read. -/
theorem i16_getInt16 (bytes : List UInt8) (i : Nat) :
    Word.bytes (UInt16.ofInt (i16 (getInt16 bytes i : ℚ))) = [bytes.getD i 0, bytes.getD (i + 1) 0] := by
  have hlo := (Word.at bytes i).toInt16.le_toInt
  have hhi := (Word.at bytes i).toInt16.toInt_lt
  have h : i16 (getInt16 bytes i : ℚ) = (Word.at bytes i).toInt16.toInt := by
    rw [i16, round_intCast, getInt16]
    exact Rounding.saturate_of_mem (by omega) (by omega)
  rw [h, Word.ofInt_toInt16_toInt, Word.at, Word.bytes_join]

/-- The flag byte of a decoded byte: the byte itself at version 1, unless it has a bit above the groups. -/
theorem flagsOf_sensorsPresentOf (flags : UInt8) :
    (flags &&& 0x0f = 1 → flags &&& 0xc0 = 0 → flagsOf (sensorsPresentOf flags) = flags) ∧
      (flags &&& 0x0f = 0 → flagsOf (sensorsPresentOf flags) = 0x31) := by
  have h : ∀ n : Fin 256,
      (UInt8.ofFin n &&& 0x0f = 1 → UInt8.ofFin n &&& 0xc0 = 0 →
        flagsOf (sensorsPresentOf (UInt8.ofFin n)) = UInt8.ofFin n) ∧
      (UInt8.ofFin n &&& 0x0f = 0 → flagsOf (sensorsPresentOf (UInt8.ofFin n)) = 0x31) := by decide +kernel
  exact h flags.toFin

/-- The first twelve bytes of a list, two by two. -/
theorem take_twelve_eq {bytes : List UInt8} (h : 13 ≤ bytes.length) :
    bytes.take 12 = (List.range 12).map (fun i => bytes.getD i 0) := by
  refine List.ext_getElem (by simp; omega) fun i h₁ h₂ => ?_
  have hi : i < bytes.length := by
    rw [List.length_take] at h₁
    omega
  simp [List.getD_eq_getElem?_getD, hi]

/-- What is encoded of decoded bytes. -/
theorem encodeUplink_decodeUplink {bytes : List UInt8} {q : DecodedPayload} (h : decodeUplink bytes = .ok q) :
    (encodeUplink q).take 12 = bytes.take 12 ∧
      (encodeUplink q).drop 12 = [flagsOf (sensorsPresentOf (bytes.getD 12 0))] := by
  have hfail := (decodeUplink_error_iff bytes).not.1 (by rw [h]; rintro ⟨e, he⟩; nomatch he)
  rw [not_or] at hfail
  rw [decodeUplink_ok hfail.1 hfail.2] at h
  obtain rfl := Except.ok.inj h
  have hlength : 13 ≤ bytes.length := not_lt.1 hfail.1
  rw [take_twelve_eq hlength]
  have h10 : ∀ x : ℚ, x / 10 * 10 = x := fun x => div_mul_cancel₀ x (by norm_num)
  have h100 : ∀ x : ℚ, x / 100 * 100 = x := fun x => div_mul_cancel₀ x (by norm_num)
  simp only [encodeUplink, h10, h100, u16_getUint16, i16_getInt16]
  exact ⟨rfl, rfl⟩

/-! ## The codec -/

/-- The uplink codec round trip:
1. a payload is decoded from its encoding with version 1, its own groups (all when it names none) and, field by field, the
   value the wire carries of it;
2. bytes that are decoded are encoded to 13 bytes of which the first twelve are the same, the last one is the same at version 1
   with no bit above the groups, and it is 0x31 at version 0;
3. bytes are refused exactly when they are too short or of a version above 1. -/
theorem uplink_round_trip :
    (∀ p : DecodedPayload, ∃ q, decodeUplink (encodeUplink p) = .ok q ∧ q.version = some 1 ∧
      q.sensorsPresent = some (p.sensorsPresent.getD { pm := true, env := true }) ∧ ∀ f ∈ wireFields, f.Carried p q) ∧
    (∀ (bytes : List UInt8) (q : DecodedPayload), 13 ≤ bytes.length → decodeUplink bytes = .ok q →
      (encodeUplink q).length = 13 ∧ (encodeUplink q).take 12 = bytes.take 12 ∧
        (bytes.getD 12 0 &&& 0x0f = 1 → bytes.getD 12 0 &&& 0xc0 = 0 → (encodeUplink q).getD 12 0 = bytes.getD 12 0) ∧
        (bytes.getD 12 0 &&& 0x0f = 0 → (encodeUplink q).getD 12 0 = 0x31)) ∧
    ∀ bytes : List UInt8, (∃ e, decodeUplink bytes = .error e) ↔ bytes.length < 13 ∨ 1 < bytes.getD 12 0 &&& 0x0f := by
  refine ⟨fun p => ?_, fun bytes q _ hq => ?_, decodeUplink_error_iff⟩
  · obtain ⟨q, hok, hversion, hpresent, hvalue⟩ := decodeUplink_encodeUplink p
    refine ⟨q, hok, hversion, hpresent, fun f hf => carried_of_eq ?_ ?_ (hvalue f hf)⟩
    · simp only [wireFields, List.mem_cons, List.not_mem_nil, or_false] at hf
      rcases hf with rfl | rfl | rfl | rfl | rfl | rfl <;> decide
    · simp only [wireFields, List.mem_cons, List.not_mem_nil, or_false] at hf
      rcases hf with rfl | rfl | rfl | rfl | rfl | rfl <;> norm_num
  · obtain ⟨htake, hdrop⟩ := encodeUplink_decodeUplink hq
    have hlast : (encodeUplink q).getD 12 0 = flagsOf (sensorsPresentOf (bytes.getD 12 0)) := by
      have h := congrArg (fun l => l.getD 0 0) hdrop
      simpa [List.getD_eq_getElem?_getD, List.getElem?_drop] using h
    obtain ⟨hone, hzero⟩ := flagsOf_sensorsPresentOf (bytes.getD 12 0)
    rw [hlast]
    exact ⟨rfl, htake, hone, hzero⟩

/-- The sample of a legacy node: byte 12 comes back as 0x31. -/
theorem uplink_round_trip_legacy :
    (encodeUplink ⟨25 / 2, 0, -5, 50, 1013, 3950, some 0, some ⟨true, true⟩⟩).getD 12 0 = 0x31 :=
  (uplink_round_trip.2.1 [125, 0, 0, 0, 12, 254, 136, 19, 245, 3, 110, 15, 0] _ (by decide) (by decide +kernel)).2.2.2
    (by decide)

end AirQuality
