import AirQuality.Firmware.Main
import AirQuality.Lib.Acknowledge

/-!
# The node confirms its config downlinks

The node acknowledges in the next transmission: seen by what it sends and by whether a config downlink comes back, its wakes are
those of `Acknowledge.machine`. What the report says is the state it left RTC RAM in.
-/

namespace AirQuality

/-! ## What a wake owes the next -/

/-- What an event means for the acknowledgement. -/
def NodeEvent.toInput : NodeEvent → Acknowledge.Input
  | .wake w => .wake w.configDownlink.isSome
  | .powerCut => .powerCut

/-- A report, or the ordinary message. -/
def Frame.sent (f : Frame) : Acknowledge.Sent := if f.fport = aqReportFport then .report else .ordinary

/-- What the node owes, as the flags in RTC RAM say. -/
def Node.owed (n : Node) : Option Bool := if n.haveState = true then some (aqStateReportDue n.state) else none

/-- If a report is due it is sent, and then none is due. -/
theorem sendUplink_due {st : AqNodeState} (h : aqStateReportDue st = true) (coldBoot : Bool) (hal : AqSensorHal) :
    sendUplink coldBoot hal st = (⟨aqReportFport, aqConfigReportEncode st⟩, aqStateReportDone st) := if_pos h

/-- If no report is due a reading is sent, and a cold boot queues a report. -/
theorem sendUplink_not_due {st : AqNodeState} (h : aqStateReportDue st = false) (coldBoot : Bool) (hal : AqSensorHal) :
    sendUplink coldBoot hal st = (sendReading st hal, if coldBoot = true then aqStateRequestReport st else st) := by
  simp [sendUplink, h]

/-- A cold boot starts with no report due. -/
theorem boot_not_due {n : Node} (hs : n.haveState = false) (load : NvsCall) : aqStateReportDue (n.boot load).state = false := by
  rw [boot_cold hs]
  rfl

/-- After the uplink of a wake a report is due exactly on a cold boot. -/
theorem uplinked_due (n : Node) (w : WakeInput) : aqStateReportDue (n.uplinked w).state = !n.haveState := by
  unfold Node.uplinked
  cases hs : n.haveState with
  | false =>
    rw [sendUplink_not_due (boot_not_due hs w.load)]
    rfl
  | true =>
    rw [boot_warm hs]
    cases hdue : aqStateReportDue n.state with
    | false =>
      rw [sendUplink_not_due hdue]
      exact hdue
    | true =>
      rw [sendUplink_due hdue]
      rfl

/-- After a wake a report is due exactly if it was a cold boot or a config downlink came back. -/
theorem appMain_due (n : Node) (w : WakeInput) :
    aqStateReportDue (appMain n w).1.state = (!n.haveState || w.configDownlink.isSome) := by
  rw [← uplinked_due n w]
  cases hdata : w.configDownlink with
  | none =>
    rw [appMain_node, handleDownlink_none hdata]
    simp
  | some data =>
    rw [appMain_state_config hdata, aqStateOnDownlink_config]
    simp [aqStateReportDue]

/-- What a wake sends: the report that is due, if the node has its state and one is due, else a reading. -/
theorem appMain_sent (n : Node) (w : WakeInput) :
    (appMain n w).2.frame =
      if n.owed = some true then ⟨aqReportFport, aqConfigReportEncode n.state⟩
      else sendReading (n.boot w.load).state w.hal := by
  rw [appMain_frame]
  cases hs : n.haveState with
  | false =>
    rw [sendUplink_not_due (boot_not_due hs w.load)]
    simp [Node.owed, hs]
  | true =>
    rw [boot_warm hs]
    cases hdue : aqStateReportDue n.state with
    | false =>
      rw [sendUplink_not_due hdue]
      simp [Node.owed, hdue]
    | true =>
      rw [sendUplink_due hdue]
      simp [Node.owed, hs, hdue]

/-- The node refines the acknowledging device. -/
theorem node_refines_acknowledge :
    nodeMachine.Refines Acknowledge.machine (fun _ => NodeEvent.toInput) (Option.map (fun r => r.frame.sent))
      (fun n owed => n.owed = owed) := by
  intro n owed e h
  subst h
  cases e with
  | powerCut => cases hs : n.haveState <;> simp [nodeMachine, Acknowledge.machine, Node.owed, Node.powerUp, NodeEvent.toInput, hs]
  | wake w =>
    have hdue := appMain_due n w
    have hsent := appMain_sent n w
    cases hs : n.haveState with
    | false =>
      have howed : n.owed = none := by simp [Node.owed, hs]
      rw [howed] at hsent ⊢
      refine ⟨?_, congrArg (fun f : Frame => some f.sent) hsent⟩
      change (appMain n w).1.owed = some true
      simp [Node.owed, hdue, hs]
    | true =>
      have howed : n.owed = some (aqStateReportDue n.state) := by simp [Node.owed, hs]
      rw [howed] at hsent ⊢
      refine ⟨?_, ?_⟩
      · change (appMain n w).1.owed = some w.configDownlink.isSome
        simp [Node.owed, hdue, hs]
      · refine (congrArg (fun f : Frame => some f.sent) hsent).trans ?_
        cases aqStateReportDue n.state <;> rfl

/-! ## What a report says -/

/-- The result and the opcode a report carries after a wake in which `cfg` was active: those of its config downlink. -/
def WakeInput.outcome (w : WakeInput) (cfg : AqConfig) : UInt8 × UInt8 :=
  match w.configDownlink with
  | none => (aqResultNone, 0)
  | some data => (aqResultOf (aqDownlinkApply (some data) cfg).1, aqLastCmdOf (some data))

/-- The nine bytes of a report: version, result, opcode, and the three settings, little-endian. -/
def configReport (outcome : UInt8 × UInt8) (cfg : AqConfig) : List UInt8 :=
  [aqReportVersion, outcome.1, outcome.2] ++
    (Word.bytes cfg.sampleIntervalS ++ Word.bytes cfg.pmOffsetX10.toUInt16 ++ Word.bytes cfg.tempOffsetX100.toUInt16)

/-- A wake that leaves a report due leaves the outcome of its own downlink in the state. -/
theorem appMain_outcome {n : Node} {w : WakeInput} (h : aqStateReportDue (appMain n w).1.state = true) :
    ((appMain n w).1.state.lastResult, (appMain n w).1.state.lastCmd) = w.outcome (n.uplinked w).state.cfg := by
  unfold WakeInput.outcome
  cases hdata : w.configDownlink with
  | none =>
    -- the report is the boot's own: the state is fresh
    have hs : n.haveState = false := by simpa [appMain_due, hdata] using h
    rw [appMain_node, handleDownlink_none hdata, Node.uplinked, sendUplink_state, boot_cold hs]
    rfl
  | some data =>
    rw [appMain_state_config hdata, aqStateOnDownlink_config]

theorem aqConfigReportEncode_eq (st : AqNodeState) :
    aqConfigReportEncode st = configReport (st.lastResult, st.lastCmd) st.cfg := rfl

/-! ## Whole runs -/

/-- The node before event `k` of a run. -/
def nodeAt (flash : Flash) (es : List NodeEvent) (k : Nat) : Node := nodeRun flash (es.take k)

/-- What event `k` of a run sends, if it is a wake. -/
def frameAt (flash : Flash) (es : List NodeEvent) (k : Nat) : Option Frame :=
  ((nodeRecords flash es)[k]?.join).map WakeRecord.frame

/-- Event `k` of a run sends a config report. -/
def ReportsAt (flash : Flash) (es : List NodeEvent) (k : Nat) : Prop :=
  ∃ f, frameAt flash es k = some f ∧ f.fport = aqReportFport

/-- Event `k` of a run boots cold: the run starts with it, or the power was cut before. -/
def ColdBootAt (es : List NodeEvent) (k : Nat) : Prop := k = 0 ∨ es[k - 1]? = some .powerCut

/-- A report at event `j` answers event `i`: between them lie only wakes without a config downlink. -/
def AnswersAt (es : List NodeEvent) (i j : Nat) : Prop :=
  i < j ∧ ∀ k, i < k → k < j → ∃ w, es[k]? = some (.wake w) ∧ w.configDownlink = none

theorem frameAt_wake {es : List NodeEvent} {k : Nat} {w : WakeInput} (h : es[k]? = some (.wake w)) (flash : Flash) :
    frameAt flash es k = some (appMain (nodeAt flash es k) w).2.frame := by
  simp [frameAt, nodeRecords, Machine.outputs_getElem?, h, nodeMachine, nodeAt, nodeRun]

theorem nodeAt_succ {es : List NodeEvent} {k : Nat} {w : WakeInput} (h : es[k]? = some (.wake w)) (flash : Flash) :
    nodeAt flash es (k + 1) = (appMain (nodeAt flash es k) w).1 := by
  rw [nodeAt, List.take_add_one, h, Option.toList_some, nodeRun, Machine.run_snoc]
  rfl

/-- What a run sends, as the acknowledging device sends it. -/
theorem frameAt_sent (flash : Flash) (es : List NodeEvent) (k : Nat) :
    (frameAt flash es k).map Frame.sent = Acknowledge.sentAt (es.map NodeEvent.toInput) k := by
  have h := node_refines_acknowledge.outputs_eq (s := Node.powerUp flash) (t := none) rfl es
  rw [Machine.inputs_const] at h
  rw [Acknowledge.sentAt, ← h]
  simp only [frameAt, nodeRecords, List.getElem?_map]
  cases (nodeMachine.outputs (Node.powerUp flash) es)[k]? with
  | none => rfl
  | some r => cases r <;> rfl

theorem reportsAt_iff (flash : Flash) (es : List NodeEvent) (k : Nat) :
    ReportsAt flash es k ↔ Acknowledge.sentAt (es.map NodeEvent.toInput) k = some .report := by
  rw [← frameAt_sent, ReportsAt]
  simp only [Option.map_eq_some_iff, Frame.sent]
  constructor
  · rintro ⟨f, hf, hport⟩
    exact ⟨f, hf, if_pos hport⟩
  · rintro ⟨f, hf, hsent⟩
    refine ⟨f, hf, ?_⟩
    by_contra hport
    rw [if_neg hport] at hsent
    cases hsent

theorem toInput_getElem? {es : List NodeEvent} {k : Nat} {w : WakeInput} (h : es[k]? = some (.wake w)) :
    (es.map NodeEvent.toInput)[k]? = some (.wake w.configDownlink.isSome) := by
  simp [h, NodeEvent.toInput]

theorem startsAt_iff (es : List NodeEvent) (k : Nat) :
    Acknowledge.StartsAt .powerCut (es.map NodeEvent.toInput) k ↔ ColdBootAt es k := by
  unfold Acknowledge.StartsAt ColdBootAt
  refine or_congr Iff.rfl ?_
  rw [List.getElem?_map, Option.map_eq_some_iff]
  constructor
  · rintro ⟨e, he, hcut⟩
    cases e with
    | powerCut => exact he
    | wake w => cases hcut
  · intro he
    exact ⟨_, he, rfl⟩

theorem answers_iff (es : List NodeEvent) (i j : Nat) :
    Acknowledge.Answers (es.map NodeEvent.toInput) i j ↔ AnswersAt es i j := by
  unfold Acknowledge.Answers AnswersAt
  refine and_congr Iff.rfl (forall_congr' fun k => forall_congr' fun _ => forall_congr' fun _ => ?_)
  rw [List.getElem?_map, Option.map_eq_some_iff]
  constructor
  · rintro ⟨e, he, hwake⟩
    cases e with
    | powerCut => cases hwake
    | wake w => exact ⟨w, he, by simpa [NodeEvent.toInput] using hwake⟩
  · rintro ⟨w, he, hw⟩
    exact ⟨_, he, by simp [NodeEvent.toInput, hw]⟩

/-! ## The confirmation protocol -/

/-- A cold boot sends a reading. -/
theorem frameAt_coldBoot {flash : Flash} {es : List NodeEvent} {k : Nat} {w : WakeInput} (h : es[k]? = some (.wake w))
    (hcold : ColdBootAt es k) :
    frameAt flash es k = some (sendReading ((nodeAt flash es k).boot w.load).state w.hal) := by
  have hsent := Acknowledge.sentAt_start (toInput_getElem? h) ((startsAt_iff es k).2 hcold)
  rw [← frameAt_sent flash, frameAt_wake h, appMain_sent] at hsent
  rw [frameAt_wake h, appMain_sent]
  split_ifs at hsent ⊢ with howed
  · cases hsent
  · rfl

/-- A wake that follows wake `k` by deep sleep: it reports exactly if wake `k` was a cold boot or got a config downlink, and
what it reports is the config of that moment with the outcome of wake `k`. -/
theorem frameAt_succ {flash : Flash} {es : List NodeEvent} {k : Nat} {w v : WakeInput} (h : es[k]? = some (.wake w))
    (h' : es[k + 1]? = some (.wake v)) :
    (ReportsAt flash es (k + 1) ↔ ColdBootAt es k ∨ w.configDownlink.isSome = true) ∧
    (ReportsAt flash es (k + 1) → frameAt flash es (k + 1) = some ⟨aqReportFport,
      configReport (w.outcome ((nodeAt flash es k).uplinked w).state.cfg) (nodeAt flash es (k + 1)).state.cfg⟩) ∧
    (¬ReportsAt flash es (k + 1) → frameAt flash es (k + 1) = some (sendReading (nodeAt flash es (k + 1)).state v.hal)) := by
  have hwarm : (nodeAt flash es (k + 1)).haveState = true := by rw [nodeAt_succ h, appMain_haveState]
  have hframe := frameAt_wake h' flash
  rw [appMain_sent, boot_warm hwarm] at hframe
  refine ⟨?_, ?_, ?_⟩
  · rw [reportsAt_iff, ← startsAt_iff]
    exact (Acknowledge.sentAt_succ (toInput_getElem? h) (toInput_getElem? h')).1
  · rintro ⟨f, hf, hport⟩
    split_ifs at hframe with howed
    · have hdue : aqStateReportDue (appMain (nodeAt flash es k) w).1.state = true := by
        rw [← nodeAt_succ h]
        simpa [Node.owed, hwarm] using howed
      rw [hframe, aqConfigReportEncode_eq, nodeAt_succ h, appMain_outcome hdue]
    · rw [hframe] at hf
      obtain rfl := Option.some.inj hf
      cases hport
  · intro hnone
    split_ifs at hframe with howed
    · exact absurd ⟨_, hframe, rfl⟩ hnone
    · exact hframe

/-- The node's reports that answer a config downlink: the next event, if it is a wake. -/
theorem answering_reportsAt_iff {flash : Flash} {es : List NodeEvent} {i : Nat} {w : WakeInput}
    (h : es[i]? = some (.wake w)) (hdata : w.configDownlink.isSome = true) (j : Nat) :
    AnswersAt es i j ∧ ReportsAt flash es j ↔ j = i + 1 ∧ ∃ v, es[i + 1]? = some (.wake v) := by
  have hin := toInput_getElem? h
  rw [hdata] at hin
  rw [reportsAt_iff, ← answers_iff, Acknowledge.answering_report_iff hin, List.getElem?_map]
  refine and_congr Iff.rfl ?_
  cases es[i + 1]? with
  | none => simp
  | some e => cases e <;> simp [NodeEvent.toInput]

/-- The confirmation protocol of the node. In every run of wakes and power cuts, from any content of the flash:
1. a cold-boot wake sends a reading;
2. a wake that follows wake `k` by deep sleep sends a report if and only if wake `k` was a cold boot or got a config downlink;
   the nine bytes are then the config in force at the end of wake `k`, and the result and the opcode of its config downlink, or
   "none" and 0 if it had none; otherwise it sends a reading;
3. a config downlink, whatever its wake sent, is confirmed by exactly one report if the node goes on by deep sleep, and by none
   if the power is cut before the next wake;
4. a report whose uplink failed is not repeated: a reading follows. -/
theorem confirmation_protocol (flash : Flash) (es : List NodeEvent) :
    (∀ k w, es[k]? = some (.wake w) → ColdBootAt es k →
      frameAt flash es k = some (sendReading ((nodeAt flash es k).boot w.load).state w.hal)) ∧
    (∀ k w v, es[k]? = some (.wake w) → es[k + 1]? = some (.wake v) →
      (ReportsAt flash es (k + 1) ↔ ColdBootAt es k ∨ w.configDownlink.isSome = true) ∧
      (ReportsAt flash es (k + 1) → frameAt flash es (k + 1) = some ⟨aqReportFport,
        configReport (w.outcome ((nodeAt flash es k).uplinked w).state.cfg) (nodeAt flash es (k + 1)).state.cfg⟩) ∧
      (¬ReportsAt flash es (k + 1) → frameAt flash es (k + 1) = some (sendReading (nodeAt flash es (k + 1)).state v.hal))) ∧
    (∀ i w, es[i]? = some (.wake w) → w.configDownlink.isSome = true →
      ((∃ v, es[i + 1]? = some (.wake v)) → ∃! j, AnswersAt es i j ∧ ReportsAt flash es j) ∧
      (es[i + 1]? = some .powerCut → ∀ j, ¬(AnswersAt es i j ∧ ReportsAt flash es j))) ∧
    (∀ k w v, es[k]? = some (.wake w) → ReportsAt flash es k → w.radio = .failed → es[k + 1]? = some (.wake v) →
      frameAt flash es (k + 1) = some (sendReading (nodeAt flash es (k + 1)).state v.hal)) := by
  refine ⟨fun k w h hcold => frameAt_coldBoot h hcold, fun k w v h h' => frameAt_succ h h', ?_, ?_⟩
  · intro i w h hdata
    refine ⟨?_, ?_⟩
    · rintro ⟨v, hv⟩
      refine ⟨i + 1, (answering_reportsAt_iff h hdata _).2 ⟨rfl, v, hv⟩, fun j hj => ?_⟩
      exact ((answering_reportsAt_iff h hdata j).1 hj).1
    · intro hcut j hj
      obtain ⟨-, v, hv⟩ := (answering_reportsAt_iff h hdata j).1 hj
      rw [hcut] at hv
      cases hv
  · intro k w v h hreport hfailed h'
    refine (frameAt_succ h h').2.2 (fun hagain => ?_)
    rcases (frameAt_succ h h').1.1 hagain with hcold | hdata
    · obtain ⟨f, hf, hport⟩ := hreport
      rw [frameAt_coldBoot h hcold] at hf
      obtain rfl := Option.some.inj hf
      cases hport
    · have hnone : w.configDownlink = none := by simp [WakeInput.configDownlink, hfailed, LorawanResult.down]
      rw [hnone] at hdata
      cases hdata

/-- A run whose one config downlink is followed by a power cut. -/
def cutAfterCommand : List NodeEvent :=
  [.wake (.command [0x01, 0x58, 0x02] .healthy), .powerCut, .wake .quiet, .wake .quiet, .wake .quiet]

/-- A power cut loses the confirmation: not every config downlink is confirmed by a report, however the node goes on. The one
report of this run is the boot's, with opcode 0. -/
theorem every_downlink_confirmed_false :
    ¬∀ (flash : Flash) (es : List NodeEvent) (i : Nat) (w : WakeInput) (data : List UInt8), es[i]? = some (.wake w) →
      w.configDownlink = some data → ∃ j f, i < j ∧ frameAt flash es j = some f ∧ f.fport = aqReportFport ∧
        f.payload[2]? = some (aqLastCmdOf (some data)) := by
  intro h
  obtain ⟨j, f, -, hf, hport, hcmd⟩ := h ⟨none⟩ cutAfterCommand 0 _ _ rfl rfl
  have hreports : ∀ r ∈ nodeRecords ⟨none⟩ cutAfterCommand,
      ∀ r' ∈ r, r'.frame.fport = aqReportFport → r'.frame.payload[2]? = some 0 := by decide
  obtain ⟨r, hr, rfl⟩ := Option.map_eq_some_iff.1 hf
  have hmem : some r ∈ nodeRecords ⟨none⟩ cutAfterCommand := List.mem_of_getElem? (Option.join_eq_some_iff.1 hr)
  rw [hreports _ hmem r rfl hport] at hcmd
  cases hcmd

end AirQuality
