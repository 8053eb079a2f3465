import AirQuality.Ingestion.Uplink
import AirQuality.Theorems.Node

/-!
# A confirmation is lossless

The nine bytes of a config report on both sides: the node packs them in C, the server reads them through a `DataView`. What the
server decodes is the state of the node, and the bytes it would encode are those the node sent.
-/

namespace AirQuality

/-- What the server decodes of the report of a state. -/
def AqNodeState.report (st : AqNodeState) (lastResult : ConfigResult) : ConfigReport where
  version := configReportVersion
  lastResult := lastResult
  lastCommand := st.lastCmd
  intervalS := st.cfg.sampleIntervalS.toNat
  pmOffsetX10 := st.cfg.pmOffsetX10.toInt
  tempOffsetX100 := st.cfg.tempOffsetX100.toInt

/-- The report of a state whose result is one of the four decodes to its fields. -/
theorem decodeConfigReport_encode {st : AqNodeState} {lastResult : ConfigResult}
    (h : ConfigResult.ofByte? st.lastResult = some lastResult) :
    decodeConfigReport (aqConfigReportEncode st) = .ok (st.report lastResult) := by
  have hlength : configReportLength ≤ (aqConfigReportEncode st).length := Nat.le_refl 9
  refine (decodeConfigReport_ok_iff hlength _).2 ⟨rfl, _, h, ?_⟩
  simp [AqNodeState.report, reportOfBytes, aqConfigReportEncode, getUint16, getInt16, Word.at, Word.bytes]

/-- A reachable state has one of the four results. -/
theorem reachable_result {st : AqNodeState} (h : st.Reachable) :
    ∃ lastResult, ConfigResult.ofByte? st.lastResult = some lastResult := by
  have hmem := h.ok.2
  simp only [List.mem_cons, List.not_mem_nil, or_false] at hmem
  rcases hmem with h | h | h | h
  · exact ⟨.none, by rw [h]; rfl⟩
  · exact ⟨.applied, by rw [h]; rfl⟩
  · exact ⟨.outOfRange, by rw [h]; rfl⟩
  · exact ⟨.malformed, by rw [h]; rfl⟩

/-- The encoder of the server makes the bytes the node sent. -/
theorem encodeConfigReport_report {st : AqNodeState} {lastResult : ConfigResult}
    (h : ConfigResult.ofByte? st.lastResult = some lastResult) :
    encodeConfigReport (st.report lastResult) = aqConfigReportEncode st :=
  encodeConfigReport_of_decode (decodeConfigReport_encode h)

/-- A report says which settings, command and result the state has. -/
theorem report_injective {st st' : AqNodeState} {lastResult lastResult' : ConfigResult}
    (h : ConfigResult.ofByte? st.lastResult = some lastResult) (h' : ConfigResult.ofByte? st'.lastResult = some lastResult')
    (hresult : lastResult = lastResult') (hcmd : st.lastCmd = st'.lastCmd)
    (hinterval : st.cfg.sampleIntervalS.toNat = st'.cfg.sampleIntervalS.toNat)
    (hpm : st.cfg.pmOffsetX10.toInt = st'.cfg.pmOffsetX10.toInt)
    (htemp : st.cfg.tempOffsetX100.toInt = st'.cfg.tempOffsetX100.toInt) :
    st.cfg = st'.cfg ∧ st.lastCmd = st'.lastCmd ∧ st.lastResult = st'.lastResult := by
  refine ⟨AqConfig.ext ?_ ?_ ?_, hcmd, ?_⟩
  · exact UInt16.toNat_inj.mp hinterval
  · exact Int16.toInt_inj.mp hpm
  · exact Int16.toInt_inj.mp htemp
  · rw [← toByte_of_ofByte? h, ← toByte_of_ofByte? h', hresult]

/-- What the server caches for a report it receives. -/
theorem handleConfigReport_report {st : AqNodeState} {lastResult : ConfigResult}
    (h : ConfigResult.ofByte? st.lastResult = some lastResult) (dateParse : String → Option ℤ) (now : ℤ)
    {uplink : ChirpStackUplink} (hdata : bufferFromBase64 uplink.data = aqConfigReportEncode st) :
    handleConfigReport dateParse now uplink = .config {
      deviceId := uplink.devEui
      intervalS := st.cfg.sampleIntervalS.toNat
      pmOffset := st.cfg.pmOffsetX10.toInt / 10
      temperatureOffset := st.cfg.tempOffsetX100.toInt / 100
      lastCommand := st.lastCmd
      lastResult := lastResult
      reportedAt := uplinkTime dateParse now uplink.time } := by
  rw [handleConfigReport, hdata, decodeConfigReport_encode h]
  rfl

/-- Two configs cached for reports agree on their settings only if the states did. -/
theorem cached_report_injective {st st' : AqNodeState} (h : st.Reachable) (h' : st'.Reachable)
    {dateParse : String → Option ℤ} {now now' : ℤ} {uplink uplink' : ChirpStackUplink} {c c' : DeviceConfig}
    (hdata : bufferFromBase64 uplink.data = aqConfigReportEncode st)
    (hdata' : bufferFromBase64 uplink'.data = aqConfigReportEncode st')
    (hc : handleConfigReport dateParse now uplink = .config c)
    (hc' : handleConfigReport dateParse now' uplink' = .config c')
    (hinterval : c.intervalS = c'.intervalS) (hpm : c.pmOffset = c'.pmOffset)
    (htemp : c.temperatureOffset = c'.temperatureOffset) (hcmd : c.lastCommand = c'.lastCommand)
    (hresult : c.lastResult = c'.lastResult) :
    st.cfg = st'.cfg ∧ st.lastCmd = st'.lastCmd ∧ st.lastResult = st'.lastResult := by
  obtain ⟨result, hst⟩ := reachable_result h
  obtain ⟨result', hst'⟩ := reachable_result h'
  rw [handleConfigReport_report hst dateParse now hdata] at hc
  rw [handleConfigReport_report hst' dateParse now' hdata'] at hc'
  obtain rfl := Handled.config.inj hc
  obtain rfl := Handled.config.inj hc'
  dsimp only at hinterval hpm htemp hcmd hresult
  refine report_injective hst hst' hresult hcmd (by exact_mod_cast hinterval) ?_ ?_
  · have hpm' := (div_left_inj' (by norm_num : (10 : ℚ) ≠ 0)).1 hpm
    exact_mod_cast hpm'
  · have htemp' := (div_left_inj' (by norm_num : (100 : ℚ) ≠ 0)).1 htemp
    exact_mod_cast htemp'

/-- A confirmation is lossless on the wire.
1. The report of every reachable state decodes, to exactly its result, its last command, its interval and its two signed
   offsets, and the encoder of the server makes the same nine bytes of them.
2. Nine bytes or more decode if and only if byte 0 is 1 and byte 1 is at most 3, and what they decode to encodes to the first
   nine of them.
3. Two reachable states with the same report have the same config, last command and last result, and so have two whose reports
   make ingestion cache the same settings. -/
theorem confirmation_lossless :
    (∀ st : AqNodeState, st.Reachable → ∃ r, decodeConfigReport (aqConfigReportEncode st) = .ok r ∧
      r.lastResult.toByte = st.lastResult ∧ r.lastCommand = st.lastCmd ∧ r.intervalS = st.cfg.sampleIntervalS.toNat ∧
      r.pmOffsetX10 = st.cfg.pmOffsetX10.toInt ∧ r.tempOffsetX100 = st.cfg.tempOffsetX100.toInt ∧
      encodeConfigReport r = aqConfigReportEncode st) ∧
    (∀ bytes : List UInt8, 9 ≤ bytes.length →
      ((∃ r, decodeConfigReport bytes = .ok r) ↔ bytes.getD 0 0 = 1 ∧ bytes.getD 1 0 ≤ 3) ∧
      ∀ r, decodeConfigReport bytes = .ok r → encodeConfigReport r = bytes.take 9) ∧
    (∀ st st' : AqNodeState, st.Reachable → st'.Reachable →
      (aqConfigReportEncode st = aqConfigReportEncode st' →
        st.cfg = st'.cfg ∧ st.lastCmd = st'.lastCmd ∧ st.lastResult = st'.lastResult) ∧
      ∀ dateParse now now' uplink uplink', bufferFromBase64 uplink.data = aqConfigReportEncode st →
        bufferFromBase64 uplink'.data = aqConfigReportEncode st' →
        ∃ c c', handleConfigReport dateParse now uplink = .config c ∧
          handleConfigReport dateParse now' uplink' = .config c' ∧
          (c.intervalS = c'.intervalS → c.pmOffset = c'.pmOffset → c.temperatureOffset = c'.temperatureOffset →
            c.lastCommand = c'.lastCommand → c.lastResult = c'.lastResult →
            st.cfg = st'.cfg ∧ st.lastCmd = st'.lastCmd ∧ st.lastResult = st'.lastResult)) := by
  refine ⟨?_, ?_, ?_⟩
  · intro st h
    obtain ⟨result, hresult⟩ := reachable_result h
    exact ⟨_, decodeConfigReport_encode hresult, toByte_of_ofByte? hresult, rfl, rfl, rfl, rfl,
      encodeConfigReport_report hresult⟩
  · intro bytes hlength
    refine ⟨decodeConfigReport_isOk_iff hlength, ?_⟩
    intro r hr
    exact encodeConfigReport_of_decode hr
  · intro st st' h h'
    obtain ⟨result, hresult⟩ := reachable_result h
    obtain ⟨result', hresult'⟩ := reachable_result h'
    refine ⟨?_, ?_⟩
    · intro hbytes
      have hdecode := decodeConfigReport_encode hresult
      rw [hbytes, decodeConfigReport_encode hresult'] at hdecode
      have hreport := Except.ok.inj hdecode
      have hinterval := congrArg ConfigReport.intervalS hreport
      refine report_injective hresult hresult' (congrArg ConfigReport.lastResult hreport).symm
        (congrArg ConfigReport.lastCommand hreport).symm ?_ (congrArg ConfigReport.pmOffsetX10 hreport).symm
        (congrArg ConfigReport.tempOffsetX100 hreport).symm
      exact Int.ofNat_inj.1 hinterval.symm
    · intro dateParse now now' uplink uplink' hdata hdata'
      have hc := handleConfigReport_report hresult dateParse now hdata
      have hc' := handleConfigReport_report hresult' dateParse now' hdata'
      exact ⟨_, _, hc, hc', cached_report_injective h h' hdata hdata' hc hc'⟩

end AirQuality
