import AirQuality.Firmware.Base64

/-!
# The base64 of the firmware simulator

What `base64_encode` leaves in its output, for any input; and the buffer of `main`, which holds what `main` encodes.
-/

namespace AirQuality

/-- A text is the standard base64 of some bytes: four characters for every three bytes that are begun, of the alphabet and then of
padding, which a strict reader takes back to the bytes. -/
structure IsBase64 (bytes : List UInt8) (text : List Char) : Prop where
  length : text.length = 4 * ((bytes.length + 2) / 3)
  shape : ∃ digits : List (Fin 64),
    text = digits.map Base64.standardSymbol ++ List.replicate ((3 - bytes.length % 3) % 3) '='
  decode : Base64.decode Base64.standard text = some bytes

theorem base64Encode_isBase64 (bytes : List UInt8) : IsBase64 bytes (base64Encode bytes) where
  length := by rw [base64Encode_eq, Base64.length_encode]
  shape := by
    rw [base64Encode_eq]
    exact Base64.encode_shape Base64.standard bytes
  decode := (Base64.decode_eq_some_iff Base64.standard).2 (base64Encode_eq bytes)

/-- No character of the encoding ends a string. -/
theorem zero_notMem_base64Encode (bs : List UInt8) : '\x00' ∉ base64Encode bs :=
  notMem_base64Encode (by decide +kernel) (by decide) bs

/-- The text of an array up to its terminating zero. -/
theorem cString_append {text : List Char} (h : '\x00' ∉ text) (rest : List Char) : cString (text ++ '\x00' :: rest) = text := by
  have hne : ∀ c ∈ text, decide (c ≠ '\x00') = true := by
    intro c hc
    exact decide_eq_true fun heq => h (heq ▸ hc)
  rw [cString, List.takeWhile_append_of_pos hne, List.takeWhile_cons_of_neg (by decide), List.append_nil]

theorem aqConfigReportEncode_length (st : AqNodeState) : (aqConfigReportEncode st).length = 9 := rfl

/-- `main` encodes a reading of 13 bytes or a report of 9. -/
theorem simUplink_payload_length (stateful coldBoot : Bool) (hal : AqSensorHal) (st : AqNodeState) :
    (simUplink stateful coldBoot hal st).1.payload.length ≤ 13 := by
  rw [simUplink]
  split
  · exact (aqConfigReportEncode_length st).trans_le (by decide)
  · exact (aqPayloadEncode_length _).le

/-- `base64_encode` is standard: an output that is large enough holds the base64 of its input and a terminating zero, and is the
same behind them. The buffer of `main`, of 32 characters, holds it for any input of up to 13 bytes, and `main` has no longer one. -/
theorem base64_encode_standard :
    (∀ (input : List UInt8) (out : List Char), 4 * ((input.length + 2) / 3) < out.length →
      ∃ text, IsBase64 input text ∧ base64EncodeTo input out = some (text ++ '\x00' :: out.drop (text.length + 1))) ∧
    (∀ (input : List UInt8) (b64 : List Char), input.length ≤ 13 → b64.length = 32 →
      (base64EncodeTo input b64).map cString = some (base64Encode input)) ∧
    ∀ (stateful coldBoot : Bool) (hal : AqSensorHal) (st : AqNodeState),
      (simUplink stateful coldBoot hal st).1.payload.length ≤ 13 := by
  have hencode (input : List UInt8) (out : List Char) (hout : 4 * ((input.length + 2) / 3) < out.length) :
      base64EncodeTo input out = some (base64Encode input ++ '\x00' :: out.drop ((base64Encode input).length + 1)) := by
    rw [base64EncodeTo_eq, if_pos]
    rwa [(base64Encode_isBase64 input).length]
  refine ⟨fun input out hout => ⟨base64Encode input, base64Encode_isBase64 input, hencode input out hout⟩,
    fun input b64 hinput hb64 => ?_, simUplink_payload_length⟩
  rw [hencode input b64 (by omega), Option.map_some, cString_append (zero_notMem_base64Encode input)]

/-- Four bytes, in an output of nine characters. -/
theorem base64_encode_standard_four :
    ∃ text, IsBase64 [1, 2, 3, 4] text ∧
      base64EncodeTo [1, 2, 3, 4] (List.replicate 9 '?') = some (text ++ '\x00' :: (List.replicate 9 '?').drop (text.length + 1)) :=
  base64_encode_standard.1 [1, 2, 3, 4] (List.replicate 9 '?') (by decide)

end AirQuality
