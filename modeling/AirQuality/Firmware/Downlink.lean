import AirQuality.Lib.Word

/-!
# Config downlinks on the node

`firmware/core/aq_downlink.{h,c}`: the runtime config of a node, its accepted ranges, and the parser that applies one downlink
command to it. A C buffer is its bytes, `none` for a null pointer; a return code is the integer the header defines.
-/

namespace AirQuality

/-- `AQ_DOWNLINK_FPORT` -/
def aqDownlinkFport : UInt8 := 10

/-- `AQ_CMD_SET_INTERVAL`: uint16, seconds. -/
def aqCmdSetInterval : UInt8 := 0x01

/-- `AQ_CMD_SET_PM_OFFSET`: int16, µg/m³ ×10. -/
def aqCmdSetPmOffset : UInt8 := 0x02

/-- `AQ_CMD_SET_TEMP_OFFSET`: int16, °C ×100. -/
def aqCmdSetTempOffset : UInt8 := 0x03

def aqIntervalMinS : Nat := 120
def aqIntervalMaxS : Nat := 21600
def aqPmOffsetMaxX10 : Int := 500
def aqTempOffsetMaxX100 : Int := 1000

/-- `AQ_DL_OK` -/
def aqDlOk : Int := 0

/-- `AQ_DL_MALFORMED`: empty, truncated or unknown command. -/
def aqDlMalformed : Int := -1

/-- `AQ_DL_OUT_OF_RANGE`: well-formed, but the value is outside its accepted range. -/
def aqDlOutOfRange : Int := -2

/-- `aq_config_t`: node runtime config, adjustable over the air. -/
@[ext] structure AqConfig where
  sampleIntervalS : UInt16
  pmOffsetX10 : Int16
  tempOffsetX100 : Int16
deriving DecidableEq

/-- `aq_config_init`: the firmware defaults. -/
def aqConfigInit : AqConfig := { sampleIntervalS := 300, pmOffsetX10 := 0, tempOffsetX100 := 0 }

/-- `aq_config_valid`: every field is inside its accepted range. -/
def aqConfigValid (cfg : AqConfig) : Bool :=
  decide (aqIntervalMinS ≤ cfg.sampleIntervalS.toNat) &&
  decide (cfg.sampleIntervalS.toNat ≤ aqIntervalMaxS) &&
  decide (-aqPmOffsetMaxX10 ≤ cfg.pmOffsetX10.toInt) &&
  decide (cfg.pmOffsetX10.toInt ≤ aqPmOffsetMaxX10) &&
  decide (-aqTempOffsetMaxX100 ≤ cfg.tempOffsetX100.toInt) &&
  decide (cfg.tempOffsetX100.toInt ≤ aqTempOffsetMaxX100)

/-- An in-range config: one that `aq_config_valid` accepts. -/
abbrev InRangeConfig := { cfg : AqConfig // aqConfigValid cfg = true }

/-- `rd_u16`: the little-endian word a pointer stands at. -/
def rdU16 (p : List UInt8) : UInt16 := (p.getD 0 0).toUInt16 ||| ((p.getD 1 0).toUInt16 <<< 8)

/-- The switch of `aq_downlink_apply`: the copy of the config with the field the opcode names set, `none` for an unknown
opcode. -/
def aqDownlinkNext (buf : List UInt8) (cfg : AqConfig) : Option AqConfig :=
  if buf.getD 0 0 = aqCmdSetInterval then
    some { cfg with sampleIntervalS := rdU16 (buf.drop 1) }
  else if buf.getD 0 0 = aqCmdSetPmOffset then
    some { cfg with pmOffsetX10 := (rdU16 (buf.drop 1)).toInt16 }
  else if buf.getD 0 0 = aqCmdSetTempOffset then
    some { cfg with tempOffsetX100 := (rdU16 (buf.drop 1)).toInt16 }
  else none

/-- `aq_downlink_apply`: parse and apply one downlink command. The return code, and the config afterwards. -/
def aqDownlinkApply (buf : Option (List UInt8)) (cfg : AqConfig) : Int × AqConfig :=
  match buf with
  | none => (aqDlMalformed, cfg)
  | some bs =>
    if bs.length < 3 then (aqDlMalformed, cfg) -- every command is [cmd][16-bit argument]
    else
      match aqDownlinkNext bs cfg with
      | none => (aqDlMalformed, cfg)
      -- the copy is committed only if the whole of it is in range
      | some next => if aqConfigValid next = false then (aqDlOutOfRange, cfg) else (aqDlOk, next)

/-! ## What applying a downlink can do -/

theorem rdU16_drop (bs : List UInt8) (i : Nat) : rdU16 (bs.drop i) = Word.at bs i := by
  rw [← Nat.add_zero i, ← Word.at_drop, Nat.add_zero]
  rfl

/-- The ranges `aq_config_valid` checks, as inequalities. -/
theorem aqConfigValid_iff (cfg : AqConfig) :
    aqConfigValid cfg = true ↔
      (120 ≤ cfg.sampleIntervalS.toNat ∧ cfg.sampleIntervalS.toNat ≤ 21600) ∧
      (-500 ≤ cfg.pmOffsetX10.toInt ∧ cfg.pmOffsetX10.toInt ≤ 500) ∧
      (-1000 ≤ cfg.tempOffsetX100.toInt ∧ cfg.tempOffsetX100.toInt ≤ 1000) := by
  simp only [aqConfigValid, Bool.and_eq_true, decide_eq_true_eq, and_assoc]
  rfl

/-- The defaults are accepted. -/
theorem aqConfigInit_valid : aqConfigValid aqConfigInit = true := by decide

/-- Applying a downlink does one of three things: it refuses it as malformed, refuses it as out of range, or commits a config
that is in range. A refusal leaves the config as it was. -/
theorem aqDownlinkApply_cases (buf : Option (List UInt8)) (cfg : AqConfig) :
    aqDownlinkApply buf cfg = (aqDlMalformed, cfg) ∨
    aqDownlinkApply buf cfg = (aqDlOutOfRange, cfg) ∨
    ∃ bs next, buf = some bs ∧ 3 ≤ bs.length ∧ aqDownlinkNext bs cfg = some next ∧ aqConfigValid next = true ∧
      aqDownlinkApply buf cfg = (aqDlOk, next) := by
  cases buf with
  | none => exact Or.inl rfl
  | some bs =>
    by_cases hlen : bs.length < 3
    · exact Or.inl (by simp [aqDownlinkApply, hlen])
    · cases hnext : aqDownlinkNext bs cfg with
      | none => exact Or.inl (by simp [aqDownlinkApply, hlen, hnext])
      | some next =>
        cases hvalid : aqConfigValid next with
        | false => exact Or.inr (Or.inl (by simp [aqDownlinkApply, hlen, hnext, hvalid]))
        | true =>
          refine Or.inr (Or.inr ⟨bs, next, rfl, not_lt.1 hlen, hnext, hvalid, ?_⟩)
          simp [aqDownlinkApply, hlen, hnext, hvalid]

/-- Any return code but `AQ_DL_OK` leaves the config unchanged. -/
theorem aqDownlinkApply_unchanged {buf : Option (List UInt8)} {cfg : AqConfig}
    (h : (aqDownlinkApply buf cfg).1 ≠ aqDlOk) : (aqDownlinkApply buf cfg).2 = cfg := by
  rcases aqDownlinkApply_cases buf cfg with h' | h' | ⟨bs, next, -, -, -, -, h'⟩
  · rw [h']
  · rw [h']
  · rw [h'] at h
    exact absurd rfl h

/-- A downlink never takes an in-range config out of range. -/
theorem aqDownlinkApply_valid (buf : Option (List UInt8)) {cfg : AqConfig} (h : aqConfigValid cfg = true) :
    aqConfigValid (aqDownlinkApply buf cfg).2 = true := by
  rcases aqDownlinkApply_cases buf cfg with h' | h' | ⟨bs, next, -, -, -, hv, h'⟩
  · rw [h']
    exact h
  · rw [h']
    exact h
  · rw [h']
    exact hv

end AirQuality
