import AirQuality.Theorems.Node

/-!
# Settings across a power cut

What the flash restores against what is active in RTC RAM, over every run of wakes and power cuts. A wake leaves the two equal
if its downlink changed the config and the save succeeded, or if they were equal before (`appMain_stored_iff`): as long as no
save fails they stay equal, but once one has failed a downlink that changes nothing leaves them apart.
-/

namespace AirQuality

/-- The flash restores the active config: a power cut now would lose nothing. -/
def Node.Stored (n : Node) : Prop := coldBootConfig n.flash = n.state.cfg

instance (n : Node) : Decidable n.Stored := inferInstanceAs (Decidable (_ = _))

/-- The save of a wake, if there was one, succeeded. -/
def WakeRecord.SaveOk (r : WakeRecord) : Prop := ∀ rc, r.saved = some rc → rc = 0

/-! ## One wake -/

/-- After a boot from a driver that works, the flash restores what the boot started from. -/
theorem boot_stored {n : Node} (h : n.haveState = true → n.Stored) {load : NvsCall} (hload : load.Works) :
    (n.boot load).Stored := by
  cases hs : n.haveState with
  | true =>
    rw [boot_warm hs]
    exact h hs
  | false =>
    rw [boot_cold hs, Node.Stored, coldBootConfig, ← esp32ConfigLoad_of_works hload]

/-- What `handle_downlink` does to the config and the flash: either both stay, or the config changes and is saved. -/
theorem appMain_cfg_cases (n : Node) (w : WakeInput) :
    ((appMain n w).1.state.cfg = (n.uplinked w).state.cfg ∧ (appMain n w).1.flash = (n.uplinked w).flash ∧
      (appMain n w).2.saved = none) ∨
    ((appMain n w).1.state.cfg ≠ (n.uplinked w).state.cfg ∧
      (appMain n w).1.flash = (esp32ConfigSave w.save (n.uplinked w).flash (appMain n w).1.state.cfg).1 ∧
      (appMain n w).2.saved = some (esp32ConfigSave w.save (n.uplinked w).flash (appMain n w).1.state.cfg).2) := by
  rw [appMain_node, appMain_saved]
  cases hdown : w.configDownlink with
  | none =>
    rw [handleDownlink_none hdown]
    exact Or.inl ⟨rfl, rfl, rfl⟩
  | some data =>
    by_cases hcfg : (aqStateOnDownlink (n.uplinked w).state aqDownlinkFport (some data)).2.cfg = (n.uplinked w).state.cfg
    · rw [handleDownlink_same hdown hcfg]
      exact Or.inl ⟨hcfg, rfl, rfl⟩
    · rw [handleDownlink_changed hdown hcfg]
      exact Or.inr ⟨hcfg, rfl, rfl⟩

/-- A save by a driver that works, and commits, succeeds. -/
theorem saveOk_of_works {w : WakeInput} (hworks : w.save.Works) (hcommit : w.save.commit = .ok) (n : Node) :
    (appMain n w).2.SaveOk := by
  intro rc hrc
  rcases appMain_cfg_cases n w with ⟨-, -, hsaved⟩ | ⟨-, -, hsaved⟩
  · rw [hsaved] at hrc
    cases hrc
  · rw [hsaved] at hrc
    rw [← Option.some.inj hrc]
    exact esp32ConfigSave_of_works hworks hcommit _ _

/-- A wake whose save, if any, succeeds leaves the flash in step with the active config if it changed the config, or if the two
were in step before its downlink. -/
theorem appMain_stored_iff {n : Node} (h : NodeInv n) {w : WakeInput} (hsave : (appMain n w).2.SaveOk) :
    (appMain n w).1.Stored ↔
      (appMain n w).1.state.cfg ≠ (n.uplinked w).state.cfg ∨ (n.uplinked w).Stored := by
  unfold Node.Stored
  rcases appMain_cfg_cases n w with ⟨hcfg, hflash, -⟩ | ⟨hcfg, hflash, hsaved⟩
  · rw [hcfg, hflash]
    simp
  · have hstored : coldBootConfig (appMain n w).1.flash = (appMain n w).1.state.cfg := by
      rw [hflash]
      exact coldBootConfig_of_save (appMain_ok h w).1 (hsave _ hsaved)
    exact iff_of_true hstored (Or.inl hcfg)

/-! ## Settings survive a power cut -/

/-- A node in a well-formed state, whose flash restores its config, if it has a state. -/
def StoredInv (n : Node) : Prop := NodeInv n ∧ (n.haveState = true → n.Stored)

theorem appMain_storedInv {n : Node} (h : StoredInv n) {w : WakeInput} (hload : w.load.Works)
    (hsave : (appMain n w).2.SaveOk) : StoredInv (appMain n w).1 := by
  refine ⟨fun _ => appMain_ok h.1 w, fun _ => (appMain_stored_iff h.1 hsave).2 (Or.inr ?_)⟩
  rw [Node.Stored, uplinked_cfg, uplinked_flash]
  exact boot_stored h.2 hload

/-- A run in which every load works and no save fails leaves the flash in step with the active config. -/
theorem nodeRun_storedInv {flash : Flash} {es : List NodeEvent} (hload : ∀ w, .wake w ∈ es → w.load.Works)
    (hsave : ∀ r, some r ∈ nodeRecords flash es → r.SaveOk) : StoredInv (nodeRun flash es) := by
  refine nodeMachine.run_inv_of_forall (P := fun e => ∀ w, e = .wake w → w.load.Works)
    (Q := fun o => ∀ r, o = some r → r.SaveOk) ?_ ⟨nofun, nofun⟩ ?_ ?_
  · intro n e he ho hn
    cases e with
    | wake w => exact appMain_storedInv hn (he w rfl) (ho _ rfl)
    | powerCut => exact ⟨nofun, nofun⟩
  · rintro e he w rfl
    exact hload w he
  · rintro o ho r rfl
    exact hsave r ho

/-- Settings survive a power cut. From any content of the flash, over every run of wakes and power cuts that ends in a wake, if
every load finds what is on flash and no save has failed:
1. a cold boot would start from the config that is active;
2. a save that succeeds is read back by any later load, whatever the config, negative offsets included;
3. not writing when `aq_state_on_downlink` returns 0 keeps flash and RAM in step. -/
theorem settings_survive_a_power_cut (flash : Flash) (es : List NodeEvent) (w : WakeInput)
    (hload : ∀ v, .wake v ∈ es ++ [.wake w] → v.load.Works)
    (hsave : ∀ r, some r ∈ nodeRecords flash (es ++ [.wake w]) → r.SaveOk) :
    coldBootConfig (nodeRun flash (es ++ [.wake w])).flash = (nodeRun flash (es ++ [.wake w])).state.cfg ∧
    (∀ load save fl cfg, load.Works → load.init = .ok → (esp32ConfigSave save fl cfg).2 = 0 →
      (esp32ConfigLoad load (esp32ConfigSave save fl cfg).1).2 = some cfg) ∧
    (∀ fl st fport buf, (aqStateOnDownlink st fport buf).1 = 0 → coldBootConfig fl = st.cfg →
      coldBootConfig fl = (aqStateOnDownlink st fport buf).2.cfg) := by
  refine ⟨?_, ?_, ?_⟩
  · refine (nodeRun_storedInv hload hsave).2 ?_
    rw [nodeRun, Machine.run_snoc]
    exact appMain_haveState _ w
  · intro load save fl cfg hload hinit hrc
    rw [esp32ConfigSave_flash hrc, esp32ConfigLoad_of_usable hload hinit, esp32ConfigLoad_record]
  · intro fl st fport buf hrc hcfg
    have hsame : (aqStateOnDownlink st fport buf).2.cfg = st.cfg := by
      by_contra hne
      exact (aqStateOnDownlink_changed_iff st fport buf).2 hne hrc
    rw [hsame]
    exact hcfg

/-- A negative offset set in the first wake is still there after a power cut. -/
theorem settings_survive_a_power_cut_offset :
    coldBootConfig (nodeRun ⟨none⟩
        [.wake (.command [0x02, 0xe7, 0xff] .healthy), .powerCut, .wake .quiet]).flash =
      (nodeRun ⟨none⟩ [.wake (.command [0x02, 0xe7, 0xff] .healthy), .powerCut, .wake .quiet]).state.cfg ∧
    (nodeRun ⟨none⟩ [.wake (.command [0x02, 0xe7, 0xff] .healthy), .powerCut, .wake .quiet]).state.cfg =
      ⟨300, -25, 0⟩ := by
  refine ⟨(settings_survive_a_power_cut ⟨none⟩ [.wake (.command [0x02, 0xe7, 0xff] .healthy), .powerCut] .quiet
    ?_ ?_).1, by decide⟩
  · intro v hv
    simp only [List.cons_append, List.nil_append, List.mem_cons, reduceCtorEq, NodeEvent.wake.injEq,
      List.not_mem_nil, or_false, false_or] at hv
    rcases hv with rfl | rfl
    · exact ⟨Or.inl rfl, rfl, rfl⟩
    · exact ⟨Or.inl rfl, rfl, rfl⟩
  · have hrecords : (nodeRecords ⟨none⟩ [.wake (.command [0x02, 0xe7, 0xff] .healthy), .powerCut, .wake .quiet]).map
        (Option.bind · WakeRecord.saved) = [some 0, none, none] := by decide
    intro r hr rc hrc
    have hmem : some rc ∈ [some (0 : Int), none, none] := by
      rw [← hrecords]
      exact List.mem_map.2 ⟨some r, hr, hrc⟩
    simpa using hmem

/-! ## What a resend mends -/

/-- The value a command sets is the one that is active. -/
def AlreadyActive (cfg : AqConfig) (data : List UInt8) : Prop :=
  (data.getD 0 0 = aqCmdSetInterval ∧ rdU16 (data.drop 1) = cfg.sampleIntervalS) ∨
  (data.getD 0 0 = aqCmdSetPmOffset ∧ (rdU16 (data.drop 1)).toInt16 = cfg.pmOffsetX10) ∨
  (data.getD 0 0 = aqCmdSetTempOffset ∧ (rdU16 (data.drop 1)).toInt16 = cfg.tempOffsetX100)

/-- A command leaves the config as it is exactly if its value is already active. -/
theorem aqDownlinkNext_eq_self_iff {data : List UInt8} {cfg next : AqConfig} (h : aqDownlinkNext data cfg = some next) :
    next = cfg ↔ AlreadyActive cfg data := by
  unfold aqDownlinkNext at h
  unfold AlreadyActive
  generalize data.getD 0 0 = cmd at h ⊢
  generalize rdU16 (data.drop 1) = value at h ⊢
  split_ifs at h with h1 h2 h3
  · obtain rfl := Option.some.inj h
    subst h1
    simp [AqConfig.ext_iff, aqCmdSetInterval, aqCmdSetPmOffset, aqCmdSetTempOffset]
  · obtain rfl := Option.some.inj h
    subst h2
    simp [AqConfig.ext_iff, aqCmdSetInterval, aqCmdSetPmOffset, aqCmdSetTempOffset]
  · obtain rfl := Option.some.inj h
    subst h3
    simp [AqConfig.ext_iff, aqCmdSetInterval, aqCmdSetPmOffset, aqCmdSetTempOffset]

/-- A config downlink recorded as applied leaves the config as it is exactly if its value is already active. -/
theorem appMain_applied_unchanged_iff {n : Node} {w : WakeInput} {data : List UInt8} (hdata : w.configDownlink = some data)
    (happlied : (appMain n w).1.state.lastResult = aqResultApplied) :
    (appMain n w).1.state.cfg = (n.uplinked w).state.cfg ↔ AlreadyActive (n.uplinked w).state.cfg data := by
  rw [appMain_state_config hdata, aqStateOnDownlink_config] at happlied ⊢
  rcases aqDownlinkApply_cases (some data) (n.uplinked w).state.cfg with h | h | ⟨bs, next, hbs, -, hnext, -, h⟩
  · rw [h] at happlied
    change aqResultOf aqDlMalformed = aqResultApplied at happlied
    exact absurd happlied (by decide)
  · rw [h] at happlied
    change aqResultOf aqDlOutOfRange = aqResultApplied at happlied
    exact absurd happlied (by decide)
  · rw [h]
    cases hbs
    exact aqDownlinkNext_eq_self_iff hnext

/-- When a config downlink heals the flash. After every run from any content of the flash, in a wake that records "applied" for
a config downlink while the flash is writable, a cold boot restores the active config if and only if the downlink changes it, or
the flash was in step with it before: a resend of the active value writes nothing. -/
theorem resend_heals_iff (flash : Flash) (es : List NodeEvent) (w : WakeInput) (data : List UInt8)
    (hdata : w.configDownlink = some data) (hworks : w.save.Works) (hcommit : w.save.commit = .ok)
    (happlied : (appMain (nodeRun flash es) w).1.state.lastResult = aqResultApplied) :
    coldBootConfig (appMain (nodeRun flash es) w).1.flash = (appMain (nodeRun flash es) w).1.state.cfg ↔
      ¬AlreadyActive ((nodeRun flash es).uplinked w).state.cfg data ∨
        coldBootConfig ((nodeRun flash es).uplinked w).flash = ((nodeRun flash es).uplinked w).state.cfg := by
  have hsave : (appMain (nodeRun flash es) w).2.SaveOk := saveOk_of_works hworks hcommit _
  rw [← appMain_applied_unchanged_iff hdata happlied]
  exact appMain_stored_iff (nodeRun_inv flash es) hsave

/-- A first setting whose save succeeds, in a run of one wake. -/
theorem resend_heals_iff_first :
    coldBootConfig (appMain (nodeRun ⟨none⟩ []) (.command [0x01, 0x58, 0x02] .healthy)).1.flash = ⟨600, 0, 0⟩ := by
  have h := resend_heals_iff ⟨none⟩ [] (.command [0x01, 0x58, 0x02] .healthy) [0x01, 0x58, 0x02] rfl
    ⟨Or.inl rfl, rfl, rfl⟩ rfl (by decide)
  rw [h.2 (Or.inr (by decide))]
  decide

/-- The NVS driver while the flash cannot be committed. -/
def NvsCall.commitFails : NvsCall := { NvsCall.healthy with commit := .fail }

/-- A failed flash write does not heal on resend: the node applies 600 s but cannot save it, the operator sends 600 s again, the
node records "applied" without writing, and a power cut restores 300 s. -/
theorem failed_write_heals_on_resend_false :
    ¬∀ (flash : Flash) (es : List NodeEvent) (w : WakeInput) (data : List UInt8), w.configDownlink = some data →
      w.save.Works → w.save.commit = .ok → (appMain (nodeRun flash es) w).1.state.lastResult = aqResultApplied →
      coldBootConfig (appMain (nodeRun flash es) w).1.flash = (appMain (nodeRun flash es) w).1.state.cfg := by
  intro h
  have heals := h ⟨none⟩ [.wake (.command [0x01, 0x58, 0x02] .commitFails)] (.command [0x01, 0x58, 0x02] .healthy)
    [0x01, 0x58, 0x02] rfl ⟨Or.inl rfl, rfl, rfl⟩ rfl (by decide)
  revert heals
  decide

end AirQuality
