import AirQuality.Codec.Downlink
import AirQuality.Firmware.Downlink

/-!
# Server and node agree on config downlinks

The decoder of the server and the parser of the node read the same bytes independently. `DownlinkCommand.Applied` says what a
command means: the config after it is the config before it with the one field it names replaced. The node does to its config
what the command the server decodes means, and it refuses exactly what the server refuses to send.
-/

namespace AirQuality

/-- `new` is `old` with precisely the field that the command names replaced by the command's value. -/
def DownlinkCommand.Applied (old new : AqConfig) : DownlinkCommand → Prop
  | .setInterval v =>
    v = .ofInt new.sampleIntervalS.toNat ∧ new = { old with sampleIntervalS := new.sampleIntervalS }
  | .setPmOffset v => v = .ofInt new.pmOffsetX10.toInt ∧ new = { old with pmOffsetX10 := new.pmOffsetX10 }
  | .setTempOffset v => v = .ofInt new.tempOffsetX100.toInt ∧ new = { old with tempOffsetX100 := new.tempOffsetX100 }

/-- The two opcode tables are the same. -/
theorem downlink_opcodes : aqCmdSetInterval = DownlinkOpcode.setInterval ∧
    aqCmdSetPmOffset = DownlinkOpcode.setPmOffset ∧ aqCmdSetTempOffset = DownlinkOpcode.setTempOffset :=
  ⟨rfl, rfl, rfl⟩

/-- The same bytes on both sides: either the server cannot decode them and the node finds no command, or the server decodes a
command and the node's copy of the config is the config with that command applied. -/
theorem downlink_wire (b : List UInt8) (cfg : AqConfig) :
    ((∃ e, decodeDownlink b = .error e) ∧ (b.length < 3 ∨ aqDownlinkNext b cfg = none)) ∨
      ∃ c next, decodeDownlink b = .ok c ∧ ¬b.length < 3 ∧ aqDownlinkNext b cfg = some next ∧ c.Applied cfg next := by
  by_cases hlen : b.length < 3
  · exact Or.inl ⟨⟨_, by rw [decodeDownlink, if_pos hlen]⟩, Or.inl hlen⟩
  · have hdec := decodeDownlink.eq_def b
    have hnext := aqDownlinkNext.eq_def b cfg
    rw [if_neg hlen] at hdec
    rw [rdU16_drop, downlink_opcodes.1, downlink_opcodes.2.1, downlink_opcodes.2.2] at hnext
    by_cases h1 : b.getD 0 0 = DownlinkOpcode.setInterval
    · rw [if_pos h1] at hdec hnext
      exact Or.inr ⟨_, _, hdec, hlen, hnext, rfl, rfl⟩
    · rw [if_neg h1] at hdec hnext
      by_cases h2 : b.getD 0 0 = DownlinkOpcode.setPmOffset
      · rw [if_pos h2] at hdec hnext
        exact Or.inr ⟨_, _, hdec, hlen, hnext, rfl, rfl⟩
      · rw [if_neg h2] at hdec hnext
        by_cases h3 : b.getD 0 0 = DownlinkOpcode.setTempOffset
        · rw [if_pos h3] at hdec hnext
          exact Or.inr ⟨_, _, hdec, hlen, hnext, rfl, rfl⟩
        · rw [if_neg h3] at hdec hnext
          exact Or.inl ⟨⟨_, hdec⟩, Or.inr hnext⟩

/-- The two range checks agree: the server accepts a command exactly when the config it leads to, from an in-range config, is
in range as a whole. -/
theorem assertDownlinkInRange_iff {c : DownlinkCommand} {old new : AqConfig} (hold : aqConfigValid old = true)
    (h : c.Applied old new) : assertDownlinkInRange c = .ok () ↔ aqConfigValid new = true := by
  obtain ⟨hi, hp, ht⟩ := (aqConfigValid_iff old).1 hold
  rw [aqConfigValid_iff]
  cases c with
  | setInterval v =>
    obtain ⟨rfl, hnew⟩ := h
    rw [assertDownlinkInRange, checkRange_ofInt_iff, hnew]
    simp only [DownlinkLimits.intervalMinS, DownlinkLimits.intervalMaxS, hp, ht, and_true]
    omega
  | setPmOffset v =>
    obtain ⟨rfl, hnew⟩ := h
    rw [assertDownlinkInRange, checkRange_ofInt_iff, hnew]
    simp only [DownlinkLimits.pmOffsetMaxX10, hi, ht, true_and, and_true]
  | setTempOffset v =>
    obtain ⟨rfl, hnew⟩ := h
    rw [assertDownlinkInRange, checkRange_ofInt_iff, hnew]
    simp only [DownlinkLimits.tempOffsetMaxX100, hi, hp, true_and]

/-- What the node makes of a downlink, read off what the server decodes: malformed when the server throws, else out of range or
applied as the server's range check says. -/
theorem aqDownlinkApply_eq (b : List UInt8) (cfg : InRangeConfig) :
    ((∃ e, decodeDownlink b = .error e) ∧ aqDownlinkApply (some b) cfg = (aqDlMalformed, cfg.val)) ∨
    (∃ c e, decodeDownlink b = .ok c ∧ assertDownlinkInRange c = .error e ∧
      aqDownlinkApply (some b) cfg = (aqDlOutOfRange, cfg.val)) ∨
    ∃ c new, decodeDownlink b = .ok c ∧ assertDownlinkInRange c = .ok () ∧ c.Applied cfg new ∧
      aqDownlinkApply (some b) cfg = (aqDlOk, new) := by
  rcases downlink_wire b cfg with ⟨herr, hnone⟩ | ⟨c, next, hdec, hlen, hnext, happ⟩
  · refine Or.inl ⟨herr, ?_⟩
    by_cases hlen : b.length < 3
    · rw [aqDownlinkApply, if_pos hlen]
    · simp [aqDownlinkApply, hlen, hnone.resolve_left hlen]
  · have hrange := assertDownlinkInRange_iff cfg.property happ
    cases hvalid : aqConfigValid next with
    | true => exact Or.inr (Or.inr ⟨c, next, hdec, hrange.2 hvalid, happ, by simp [aqDownlinkApply, hlen, hnext, hvalid]⟩)
    | false =>
      rcases assertDownlinkInRange_cases c with hok | ⟨_, _, _, herr⟩
      · rw [hrange.1 hok] at hvalid
        cases hvalid
      · exact Or.inr (Or.inl ⟨c, _, hdec, herr, by simp [aqDownlinkApply, hlen, hnext, hvalid]⟩)

/-- A command the server accepts is encoded in three bytes that decode to the command. -/
theorem decodeDownlink_encodeDownlink {c : DownlinkCommand} (h : assertDownlinkInRange c = .ok ()) :
    ∃ b, encodeDownlink c = .ok b ∧ b.length = 3 ∧ decodeDownlink b = .ok c := by
  cases c with
  | setInterval v =>
    obtain ⟨z, rfl, h₁, h₂⟩ := (checkRange_ok_iff _ _ _ _).1 h
    simp only [DownlinkLimits.intervalMinS, DownlinkLimits.intervalMaxS] at h₁ h₂
    refine ⟨_, by rw [encodeDownlink, h]; rfl, rfl, ?_⟩
    have hv := getUint16_ofInt (by omega : 0 ≤ z) (by omega) DownlinkOpcode.setInterval
    simp only [JsNumber.toUint16_ofInt, decodeDownlink, List.length_cons, Word.bytes_length, List.getD_cons_zero, hv]
    rfl
  | setPmOffset v =>
    obtain ⟨z, rfl, h₁, h₂⟩ := (checkRange_ok_iff _ _ _ _).1 h
    simp only [DownlinkLimits.pmOffsetMaxX10] at h₁ h₂
    refine ⟨_, by rw [encodeDownlink, h]; rfl, rfl, ?_⟩
    have hv := getInt16_ofInt (by omega : -32768 ≤ z) (by omega) DownlinkOpcode.setPmOffset
    simp only [JsNumber.toUint16_ofInt, decodeDownlink, List.length_cons, Word.bytes_length, List.getD_cons_zero, hv]
    rfl
  | setTempOffset v =>
    obtain ⟨z, rfl, h₁, h₂⟩ := (checkRange_ok_iff _ _ _ _).1 h
    simp only [DownlinkLimits.tempOffsetMaxX100] at h₁ h₂
    refine ⟨_, by rw [encodeDownlink, h]; rfl, rfl, ?_⟩
    have hv := getInt16_ofInt (by omega : -32768 ≤ z) (by omega) DownlinkOpcode.setTempOffset
    simp only [JsNumber.toUint16_ofInt, decodeDownlink, List.length_cons, Word.bytes_length, List.getD_cons_zero, hv]
    rfl

/-- Server and node agree on every config downlink.
1. For all bytes and every in-range config, the node answers malformed exactly when the server cannot decode them, out of range
   exactly when the server decodes a command its range check rejects, and otherwise applies the decoded command; in the first
   two cases the config is unchanged.
2. The encoder of the server throws a `RangeError`, or gives three bytes that every node applies as the command.
3. It throws exactly when no bytes make a node with an in-range config apply the command. -/
theorem downlink_agreement :
    (∀ (b : List UInt8) (cfg : InRangeConfig),
      ((aqDownlinkApply (some b) cfg).1 = aqDlMalformed ↔ ∃ e, decodeDownlink b = .error e) ∧
      ((aqDownlinkApply (some b) cfg).1 = aqDlOutOfRange ↔
        ∃ c e, decodeDownlink b = .ok c ∧ assertDownlinkInRange c = .error e) ∧
      ((∃ e, decodeDownlink b = .error e) ∨ (∃ c e, decodeDownlink b = .ok c ∧ assertDownlinkInRange c = .error e) ∨
        ∃ c, decodeDownlink b = .ok c ∧ (aqDownlinkApply (some b) cfg).1 = aqDlOk ∧
          c.Applied cfg (aqDownlinkApply (some b) cfg).2) ∧
      ((aqDownlinkApply (some b) cfg).1 ≠ aqDlOk → (aqDownlinkApply (some b) cfg).2 = cfg)) ∧
    (∀ c : DownlinkCommand,
      ((∃ e, encodeDownlink c = .error e ∧ e.isRangeError = true) ∨
        ∃ b, encodeDownlink c = .ok b ∧ b.length = 3 ∧ ∀ cfg : InRangeConfig,
          (aqDownlinkApply (some b) cfg).1 = aqDlOk ∧ c.Applied cfg (aqDownlinkApply (some b) cfg).2) ∧
      ((∃ e, encodeDownlink c = .error e) ↔
        ∀ (b : List UInt8) (cfg : InRangeConfig),
          ¬((aqDownlinkApply (some b) cfg).1 = aqDlOk ∧ c.Applied cfg (aqDownlinkApply (some b) cfg).2))) := by
  refine ⟨fun b cfg => ?_, fun c => ?_⟩
  · rcases aqDownlinkApply_eq b cfg with ⟨⟨e, hdec⟩, happly⟩ | ⟨c, e, hdec, herr, happly⟩ | ⟨c, new, hdec, hok, happ, happly⟩
    · simp [hdec, happly, aqDlMalformed, aqDlOutOfRange, aqDlOk]
    · simp [hdec, herr, happly, aqDlMalformed, aqDlOutOfRange, aqDlOk]
    · simp [hdec, hok, happ, happly, aqDlMalformed, aqDlOutOfRange, aqDlOk]
  · rcases assertDownlinkInRange_cases c with hok | ⟨name, min, max, herr⟩
    · -- in range: the three bytes are applied by every node
      obtain ⟨b, henc, hlen, hdec⟩ := decodeDownlink_encodeDownlink hok
      have hnode : ∀ cfg : InRangeConfig,
          (aqDownlinkApply (some b) cfg).1 = aqDlOk ∧ c.Applied cfg (aqDownlinkApply (some b) cfg).2 := by
        intro cfg
        rcases aqDownlinkApply_eq b cfg with ⟨⟨e, hdec'⟩, -⟩ | ⟨c', e, hdec', herr, -⟩ | ⟨c', new, hdec', -, happ, happly⟩
        · rw [hdec] at hdec'
          cases hdec'
        · rw [hdec] at hdec'
          cases hdec'
          rw [hok] at herr
          cases herr
        · rw [hdec] at hdec'
          cases hdec'
          rw [happly]
          exact ⟨rfl, happ⟩
      refine ⟨Or.inr ⟨b, henc, hlen, hnode⟩, ?_⟩
      rw [henc]
      exact ⟨nofun, fun h => absurd (hnode ⟨aqConfigInit, aqConfigInit_valid⟩) (h b _)⟩
    · -- out of range: a node that applied the command would hold an out-of-range config
      have henc := (encodeDownlink_error_iff c _).2 herr
      refine ⟨Or.inl ⟨_, henc, rfl⟩, fun _ b cfg h => ?_, fun _ => ⟨_, henc⟩⟩
      have hok := (assertDownlinkInRange_iff cfg.property h.2).2 (aqDownlinkApply_valid (some b) cfg.property)
      rw [herr] at hok
      cases hok

end AirQuality
