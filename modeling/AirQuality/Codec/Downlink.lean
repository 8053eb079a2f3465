import AirQuality.Codec.Js

/-!
# Config downlinks on the server

`packages/telemetry-codec/src/index.ts`, lines 99 to 186: the downlink commands, the ranges the server refuses outside of, the
encoder and the decoder. What the codec throws is a `CodecError`, for the whole codec.
-/

namespace AirQuality

/-- What the codec throws. -/
inductive CodecError where
  | payloadTooShort (got : Nat)
  | unsupportedPayloadVersion (version : Nat)
  | downlinkTooShort (got : Nat)
  | unknownDownlinkCommand (opcode : UInt8)
  | reportTooShort (got : Nat)
  | unsupportedReportVersion (version : Nat)
  | unknownConfigResult (result : Nat)
  /-- The only `RangeError`; the others are plain `Error`s. -/
  | outOfRange (name : String) (min max : ℤ) (value : JsNumber)
deriving DecidableEq

/-- The error is a `RangeError`. -/
def CodecError.isRangeError : CodecError → Bool
  | .outOfRange .. => true
  | _ => false

/-- The text of an error, given how the runtime prints a number. -/
def CodecError.message (printed : JsNumber → String) : CodecError → String
  | .payloadTooShort got => "Payload too short: expected 13, got " ++ toString got
  | .unsupportedPayloadVersion version =>
    "Unsupported payload version " ++ toString version ++ " (decoder supports up to 1)"
  | .downlinkTooShort got => "Downlink too short: expected 3, got " ++ toString got
  | .unknownDownlinkCommand opcode =>
    "Unknown downlink command 0x" ++ String.ofList (Nat.toDigits 16 opcode.toNat)
  | .reportTooShort got => "Config report too short: expected 9, got " ++ toString got
  | .unsupportedReportVersion version => "Unsupported config report version " ++ toString version
  | .unknownConfigResult result => "Unknown config result " ++ toString result
  | .outOfRange name min max value =>
    name ++ " must be an integer from " ++ toString min ++ " to " ++ toString max ++ ", got " ++ printed value

/-- `DownlinkOpcode` -/
def DownlinkOpcode.setInterval : UInt8 := 0x01
def DownlinkOpcode.setPmOffset : UInt8 := 0x02
def DownlinkOpcode.setTempOffset : UInt8 := 0x03

/-- `DownlinkCommand`: any number may stand in a command that has not been checked. -/
inductive DownlinkCommand where
  | setInterval (seconds : JsNumber)
  | setPmOffset (offsetX10 : JsNumber)
  | setTempOffset (offsetX100 : JsNumber)
deriving DecidableEq

/-- `DOWNLINK_LIMITS` -/
def DownlinkLimits.intervalMinS : ℤ := 120
def DownlinkLimits.intervalMaxS : ℤ := 21600
def DownlinkLimits.pmOffsetMaxX10 : ℤ := 500
def DownlinkLimits.tempOffsetMaxX100 : ℤ := 1000

def checkRange (name : String) (value : JsNumber) (min max : ℤ) : Except CodecError Unit :=
  if value.isInteger = false ∨ value.lt (.ofInt min) = true ∨ (JsNumber.ofInt max).lt value = true then
    .error (.outOfRange name min max value)
  else .ok ()

/-- `assertDownlinkInRange`: throw a `RangeError` if the node would reject the command. -/
def assertDownlinkInRange : DownlinkCommand → Except CodecError Unit
  | .setInterval seconds => checkRange "seconds" seconds DownlinkLimits.intervalMinS DownlinkLimits.intervalMaxS
  | .setPmOffset offsetX10 =>
    checkRange "offsetX10" offsetX10 (-DownlinkLimits.pmOffsetMaxX10) DownlinkLimits.pmOffsetMaxX10
  | .setTempOffset offsetX100 =>
    checkRange "offsetX100" offsetX100 (-DownlinkLimits.tempOffsetMaxX100) DownlinkLimits.tempOffsetMaxX100

/-- `encodeDownlink`: refuses a value the node would reject. -/
def encodeDownlink (cmd : DownlinkCommand) : Except CodecError (List UInt8) := do
  assertDownlinkInRange cmd
  match cmd with
  | .setInterval seconds => return DownlinkOpcode.setInterval :: Word.bytes seconds.toUint16
  | .setPmOffset offsetX10 => return DownlinkOpcode.setPmOffset :: Word.bytes offsetX10.toUint16
  | .setTempOffset offsetX100 => return DownlinkOpcode.setTempOffset :: Word.bytes offsetX100.toUint16

/-- `decodeDownlink`: the command on the wire, not range-checked. -/
def decodeDownlink (bytes : List UInt8) : Except CodecError DownlinkCommand :=
  if bytes.length < 3 then .error (.downlinkTooShort bytes.length)
  else if bytes.getD 0 0 = DownlinkOpcode.setInterval then .ok (.setInterval (.ofInt (getUint16 bytes 1)))
  else if bytes.getD 0 0 = DownlinkOpcode.setPmOffset then .ok (.setPmOffset (.ofInt (getInt16 bytes 1)))
  else if bytes.getD 0 0 = DownlinkOpcode.setTempOffset then .ok (.setTempOffset (.ofInt (getInt16 bytes 1)))
  else .error (.unknownDownlinkCommand (bytes.getD 0 0))

/-! ## Range checks -/

/-- A value passes the check exactly when it is an integer of the range. -/
theorem checkRange_ok_iff (name : String) (value : JsNumber) (min max : ℤ) :
    checkRange name value min max = .ok () ↔ ∃ z : ℤ, value = .ofInt z ∧ min ≤ z ∧ z ≤ max := by
  unfold checkRange
  constructor
  · intro h
    split_ifs at h with hbad
    push Not at hbad
    obtain ⟨hint, hmin, hmax⟩ := hbad
    obtain ⟨z, rfl⟩ := (JsNumber.isInteger_iff value).1 (by simpa using hint)
    simp only [JsNumber.ofInt_lt_ofInt, ne_eq, decide_eq_true_eq, not_lt] at hmin hmax
    exact ⟨z, rfl, hmin, hmax⟩
  · rintro ⟨z, rfl, hmin, hmax⟩
    have hint : (JsNumber.ofInt z).isInteger = true := (JsNumber.isInteger_iff _).2 ⟨z, rfl⟩
    rw [if_neg]
    simp only [hint, JsNumber.ofInt_lt_ofInt, decide_eq_true_eq, Bool.true_eq_false, false_or, not_or, not_lt]
    exact ⟨hmin, hmax⟩

/-- An integer passes the check exactly when it is in the range. -/
theorem checkRange_ofInt_iff (name : String) (z min max : ℤ) :
    checkRange name (.ofInt z) min max = .ok () ↔ min ≤ z ∧ z ≤ max := by
  rw [checkRange_ok_iff]
  constructor
  · rintro ⟨z', hz, hrange⟩
    rwa [JsNumber.ofInt_injective hz]
  · exact fun hrange => ⟨z, rfl, hrange⟩

/-- The check passes or throws the `RangeError` that names the field, its range and the value. -/
theorem checkRange_cases (name : String) (value : JsNumber) (min max : ℤ) :
    checkRange name value min max = .ok () ∨
      checkRange name value min max = .error (.outOfRange name min max value) := by
  unfold checkRange
  split_ifs
  · exact Or.inr rfl
  · exact Or.inl rfl

/-- The value a command carries. -/
def DownlinkCommand.value : DownlinkCommand → JsNumber
  | .setInterval v => v
  | .setPmOffset v => v
  | .setTempOffset v => v

/-- What `assertDownlinkInRange` throws is a `RangeError`, about the command's own value. -/
theorem assertDownlinkInRange_cases (c : DownlinkCommand) :
    assertDownlinkInRange c = .ok () ∨
      ∃ name min max, assertDownlinkInRange c = .error (.outOfRange name min max c.value) := by
  cases c with
  | setInterval v => exact (checkRange_cases _ v _ _).imp id (fun h => ⟨_, _, _, h⟩)
  | setPmOffset v => exact (checkRange_cases _ v _ _).imp id (fun h => ⟨_, _, _, h⟩)
  | setTempOffset v => exact (checkRange_cases _ v _ _).imp id (fun h => ⟨_, _, _, h⟩)

/-- The encoder throws what the range check throws, and nothing else. -/
theorem encodeDownlink_error_iff (c : DownlinkCommand) (e : CodecError) :
    encodeDownlink c = .error e ↔ assertDownlinkInRange c = .error e := by
  unfold encodeDownlink
  cases h : assertDownlinkInRange c with
  | error e' => simp [bind, Except.bind]
  | ok u => cases c <;> exact ⟨nofun, nofun⟩

end AirQuality
