import AirQuality.Firmware.Downlink
import AirQuality.Firmware.Payload

/-!
# Remote configuration on the node

`firmware/core/aq_config.{h,c}`: the config with the bookkeeping that has to survive deep sleep, what a downlink does to it, the
config report that tells the server which settings are active, and the calibration of a reading.
-/

namespace AirQuality

/-- `AQ_REPORT_FPORT` -/
def aqReportFport : UInt8 := 11

def aqReportVersion : UInt8 := 1

/-- `AQ_REPORT_DELAY_S`: the gap between the uplink that carried a change and the report confirming it. -/
def aqReportDelayS : Nat := 120

/-- `AQ_RESULT_NONE`: no config downlink since boot. -/
def aqResultNone : UInt8 := 0
def aqResultApplied : UInt8 := 1

/-- `AQ_RESULT_OUT_OF_RANGE`: rejected; config unchanged. -/
def aqResultOutOfRange : UInt8 := 2

/-- `AQ_RESULT_MALFORMED`: rejected; config unchanged. -/
def aqResultMalformed : UInt8 := 3

/-- `aq_node_state_t` -/
structure AqNodeState where
  cfg : AqConfig
  /-- The next wake sends a config report, not a reading. -/
  reportPending : UInt8
  /-- Opcode of the last config downlink, 0 = none. -/
  lastCmd : UInt8
  /-- `AQ_RESULT_*` -/
  lastResult : UInt8
deriving DecidableEq

/-- `aq_state_init`: start from a config, or from the defaults if there is none or it is out of range. -/
def aqStateInit (cfg : Option AqConfig) : AqNodeState where
  cfg := match cfg with
    | some c => if aqConfigValid c = true then c else aqConfigInit
    | none => aqConfigInit
  reportPending := 0
  lastCmd := 0
  lastResult := aqResultNone

/-- The result `aq_state_on_downlink` records for a return code of `aq_downlink_apply`. -/
def aqResultOf (rc : Int) : UInt8 :=
  if rc = aqDlOk then aqResultApplied
  else if rc = aqDlOutOfRange then aqResultOutOfRange
  else aqResultMalformed

/-- The opcode `aq_state_on_downlink` records: the first byte, 0 if there is none. -/
def aqLastCmdOf : Option (List UInt8) → UInt8
  | some (b :: _) => b
  | _ => 0

/-- `aq_state_on_downlink`: handle a downlink the radio received. Returns 1 if the config changed and should be persisted. -/
def aqStateOnDownlink (st : AqNodeState) (fport : UInt8) (buf : Option (List UInt8)) : Int × AqNodeState :=
  if fport ≠ aqDownlinkFport then (0, st)
  else
    let before := st.cfg
    let (rc, cfg) := aqDownlinkApply buf st.cfg
    let changed := before.sampleIntervalS ≠ cfg.sampleIntervalS ∨ before.pmOffsetX10 ≠ cfg.pmOffsetX10 ∨
      before.tempOffsetX100 ≠ cfg.tempOffsetX100
    (if changed then 1 else 0,
      { cfg, reportPending := 1, lastCmd := aqLastCmdOf buf, lastResult := aqResultOf rc })

/-- `aq_state_request_report` -/
def aqStateRequestReport (st : AqNodeState) : AqNodeState := { st with reportPending := 1 }

/-- `aq_state_report_due` -/
def aqStateReportDue (st : AqNodeState) : Bool := st.reportPending != 0

/-- `aq_state_report_done` -/
def aqStateReportDone (st : AqNodeState) : AqNodeState := { st with reportPending := 0 }

/-- `aq_state_sleep_s`: seconds to deep-sleep after this wake. -/
def aqStateSleepS (st : AqNodeState) : Nat :=
  if st.reportPending ≠ 0 then aqReportDelayS else st.cfg.sampleIntervalS.toNat

/-- `aq_config_report_encode` -/
def aqConfigReportEncode (st : AqNodeState) : List UInt8 :=
  [aqReportVersion, st.lastResult, st.lastCmd] ++
  putU16 st.cfg.sampleIntervalS ++
  putU16 st.cfg.pmOffsetX10.toUInt16 ++
  putU16 st.cfg.tempOffsetX100.toUInt16

/-- `aq_config_calibrate`: apply the offsets to the groups that were read. -/
def aqConfigCalibrate (cfg : AqConfig) (r : AqReading) : AqReading :=
  let r :=
    if r.present &&& aqPresentPm ≠ 0 then
      let pm25 := r.pm25 + cfg.pmOffsetX10.toInt / 10
      { r with pm25 := if pm25 < 0 then 0 else pm25 } -- an offset cannot make air cleaner than clean
    else r
  if r.present &&& aqPresentEnv ≠ 0 then { r with temperature := r.temperature + cfg.tempOffsetX100.toInt / 100 }
  else r

/-! ## What a downlink does to the state -/

/-- A downlink on another fPort is not config: nothing changes. -/
theorem aqStateOnDownlink_other {fport : UInt8} (h : fport ≠ aqDownlinkFport) (st : AqNodeState)
    (buf : Option (List UInt8)) : aqStateOnDownlink st fport buf = (0, st) := if_pos h

/-- A config downlink always queues a report and records its opcode and its result. -/
theorem aqStateOnDownlink_config (st : AqNodeState) (buf : Option (List UInt8)) :
    (aqStateOnDownlink st aqDownlinkFport buf).2 =
      { cfg := (aqDownlinkApply buf st.cfg).2
        reportPending := 1
        lastCmd := aqLastCmdOf buf
        lastResult := aqResultOf (aqDownlinkApply buf st.cfg).1 } := rfl

/-- The return value says whether the config changed. -/
theorem aqStateOnDownlink_changed_iff (st : AqNodeState) (fport : UInt8) (buf : Option (List UInt8)) :
    (aqStateOnDownlink st fport buf).1 ≠ 0 ↔ (aqStateOnDownlink st fport buf).2.cfg ≠ st.cfg := by
  by_cases hport : fport = aqDownlinkFport
  · subst hport
    rw [aqStateOnDownlink_config]
    have hext : ∀ c d : AqConfig, (c.sampleIntervalS ≠ d.sampleIntervalS ∨ c.pmOffsetX10 ≠ d.pmOffsetX10 ∨
        c.tempOffsetX100 ≠ d.tempOffsetX100) ↔ d ≠ c := by
      intro c d
      cases c
      cases d
      simp only [ne_eq, AqConfig.mk.injEq]
      tauto
    change (if _ then (1 : Int) else 0) ≠ 0 ↔ _
    rw [← hext]
    split_ifs with h
    · exact ⟨fun _ => h, fun _ => by decide⟩
    · exact ⟨fun hne => absurd rfl hne, fun h' => absurd h' h⟩
  · rw [aqStateOnDownlink_other hport]
    exact ⟨fun h => absurd rfl h, fun h => absurd rfl h⟩

/-- The three results a config downlink can have. -/
theorem aqResultOf_cases (buf : Option (List UInt8)) (cfg : AqConfig) :
    (aqResultOf (aqDownlinkApply buf cfg).1 = aqResultApplied ∧ (aqDownlinkApply buf cfg).1 = aqDlOk) ∨
    (aqResultOf (aqDownlinkApply buf cfg).1 = aqResultOutOfRange ∧ (aqDownlinkApply buf cfg).1 = aqDlOutOfRange) ∨
    (aqResultOf (aqDownlinkApply buf cfg).1 = aqResultMalformed ∧ (aqDownlinkApply buf cfg).1 = aqDlMalformed) := by
  rcases aqDownlinkApply_cases buf cfg with h | h | ⟨bs, next, -, -, -, -, h⟩
  · exact Or.inr (Or.inr (by rw [h]; exact ⟨rfl, rfl⟩))
  · exact Or.inr (Or.inl (by rw [h]; exact ⟨rfl, rfl⟩))
  · exact Or.inl (by rw [h]; exact ⟨rfl, rfl⟩)

/-- A config downlink whose result is not "applied" leaves the config unchanged. -/
theorem aqStateOnDownlink_rejected {st : AqNodeState} {buf : Option (List UInt8)}
    (h : (aqStateOnDownlink st aqDownlinkFport buf).2.lastResult ≠ aqResultApplied) :
    (aqStateOnDownlink st aqDownlinkFport buf).2.cfg = st.cfg := by
  rw [aqStateOnDownlink_config] at h ⊢
  refine aqDownlinkApply_unchanged (fun hok => h ?_)
  rw [hok]
  rfl

/-- The config `aq_state_init` starts from is in range. -/
theorem aqStateInit_valid (cfg : Option AqConfig) : aqConfigValid (aqStateInit cfg).cfg = true := by
  cases cfg with
  | none => exact aqConfigInit_valid
  | some c =>
    simp only [aqStateInit]
    split_ifs with h
    · exact h
    · exact aqConfigInit_valid

/-- An in-range config is kept as it is. -/
theorem aqStateInit_cfg_of_valid {c : AqConfig} (h : aqConfigValid c = true) : (aqStateInit (some c)).cfg = c := if_pos h

end AirQuality
