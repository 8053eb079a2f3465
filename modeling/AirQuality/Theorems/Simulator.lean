import AirQuality.Firmware.Sim
import AirQuality.Theorems.Settings

/-!
# The simulator runs the decisions of the board

The node on the host against the node on the board, over every run of wakes and power cuts. The board keeps its state in RTC RAM
and its config in NVS, the host keeps both in one line of text. Between two wakes the two are related by `Mirrors`: the next wake
of the host starts from the state the next wake of the board starts from, and a power cut keeps it so.
-/

namespace AirQuality

/-! ## One wake -/

/-- The flash works through a wake: a cold boot finds what is on flash, and the save, if there is one, succeeds. -/
def FlashOk (n : Node) (w : WakeInput) : Prop :=
  (n.haveState = false → esp32ConfigLoad w.load n.flash = esp32ConfigLoad .healthy n.flash) ∧ (appMain n w).2.SaveOk

/-- A driver that works on a usable partition, and commits, gives a flash that works. -/
theorem flashOk_of_works {w : WakeInput} (hload : w.load.Works) (hinit : w.load.init = .ok) (hsave : w.save.Works)
    (hcommit : w.save.commit = .ok) (n : Node) : FlashOk n w :=
  ⟨fun _ => esp32ConfigLoad_of_usable hload hinit n.flash, saveOk_of_works hsave hcommit n⟩

/-- A boot that finds what is on flash is a boot with a healthy driver. -/
theorem boot_healthy {n : Node} {load : NvsCall}
    (h : n.haveState = false → esp32ConfigLoad load n.flash = esp32ConfigLoad .healthy n.flash) :
    n.boot load = n.boot .healthy := by
  cases hs : n.haveState with
  | true => rw [boot_warm hs, boot_warm hs]
  | false => rw [boot_cold hs, boot_cold hs, h hs]

/-- The uplink of the host is that of the board, if there is a state file. -/
theorem simUplink_eq (coldBoot : Bool) (hal : AqSensorHal) (st : AqNodeState) :
    simUplink true coldBoot hal st = sendUplink coldBoot hal st := by
  unfold simUplink sendUplink
  rw [Bool.true_and]
  split_ifs
  · rfl
  · rfl
  · rfl

/-- A run of the program for a wake: it boots, sends and stores its state. -/
theorem simMain_wakeArgs (hal : AqSensorHal) (stateFile : ArgValue) (boot : Bool) (a : SensorArgs) (files : Files)
    {coldBoot : Bool} {st : AqNodeState} (h : simBoot boot (loadState (files stateFile.1)) = (coldBoot, st)) :
    simMain ⟨hal, .done⟩ (wakeArgs stateFile boot a) files =
      (Function.update files stateFile.1 (some (stateText (sendUplink coldBoot hal st).2)),
        ⟨0, wakeLine (sendUplink coldBoot hal st).1 (aqStateSleepS (sendUplink coldBoot hal st).2), []⟩) := by
  simp only [simMain, simArgs_wakeArgs, h, simUplink_eq, saveState]
  rfl

/-- A run of the program for a downlink: it applies the downlink to the state stored, and stores the result. -/
theorem simMain_downlinkArgs (hal : AqSensorHal) (stateFile : ArgValue) (fPort : UInt8) {data : List UInt8}
    (hdata : data.length ≤ 242) (files : Files) {st : AqNodeState} (h : loadState (files stateFile.1) = some st) :
    simMain ⟨hal, .done⟩ (downlinkArgs stateFile fPort data) files =
      (Function.update files stateFile.1 (some (stateText (aqStateOnDownlink st fPort (some data)).2)),
        ⟨0, downlinkLine (aqStateOnDownlink st fPort (some data)).2, []⟩) := by
  simp only [simMain, simArgs_downlinkArgs, deliverDownlink, h, String.toList_ofList, parseHex_toHex hdata, saveState]
  rfl

/-! ## The host mirrors the board -/

/-- What the host keeps of the node is what the board keeps: with RTC RAM, the state, whose config is on flash too; without it, what
a cold boot makes of the flash, with `--boot` or, if the power was not cut since the last wake, without. -/
structure Mirrors (stateFile : ArgValue) (s : SimNode) (n : Node) : Prop where
  stored : StoredInv n
  warm : n.haveState = true → s.cut = false ∧ loadState (s.files stateFile.1) = some n.state
  cold : n.haveState = false → ∀ boot, (s.cut = true → boot = true) →
    simBoot boot (loadState (s.files stateFile.1)) = (true, aqStateInit (esp32ConfigLoad .healthy n.flash).2)

variable {stateFile : ArgValue} {s : SimNode} {n : Node}

/-- A node on the host without a state file mirrors a board with an empty flash. -/
theorem mirrors_powerUp (h : s.files stateFile.1 = none) : Mirrors stateFile s (Node.powerUp ⟨none⟩) := by
  refine ⟨⟨nofun, nofun⟩, nofun, ?_⟩
  intro _ boot _
  rw [h]
  rfl

/-- The next wake of the host starts from the state the next wake of the board starts from. -/
theorem Mirrors.boot (h : Mirrors stateFile s n) :
    simBoot s.cut (loadState (s.files stateFile.1)) = (!n.haveState, (n.boot .healthy).state) := by
  cases hs : n.haveState with
  | true =>
    obtain ⟨hcut, hfile⟩ := h.warm hs
    rw [hcut, hfile, boot_warm hs]
    rfl
  | false =>
    rw [h.cold hs s.cut id, boot_cold hs]
    rfl

/-- A state that a boot starts from is its config. -/
theorem aqStateInit_of_valid {cfg : AqConfig} (h : aqConfigValid cfg = true) {stored : Option AqConfig}
    (hcfg : (aqStateInit stored).cfg = cfg) : aqStateInit (some cfg) = aqStateInit stored := by
  have hinit : ∀ c, aqStateInit c = ⟨(aqStateInit c).cfg, 0, 0, aqResultNone⟩ := fun _ => rfl
  rw [hinit (some cfg), hinit stored, aqStateInit_cfg_of_valid h, hcfg]

/-- A power cut is mirrored: the config that is lost in RTC RAM is on flash, as the host keeps it in its file. -/
theorem Mirrors.powerCut (h : Mirrors stateFile s n) :
    Mirrors stateFile { s with cut := true } (Node.powerUp n.flash) := by
  refine ⟨⟨nofun, nofun⟩, nofun, ?_⟩
  intro _ boot hboot
  obtain rfl : boot = true := hboot rfl
  cases hs : n.haveState with
  | true =>
    rw [(h.warm hs).2]
    have hinit := aqStateInit_of_valid (h.stored.1 hs).1 (h.stored.2 hs)
    exact congrArg (Prod.mk true) hinit
  | false => exact h.cold hs true (fun _ => rfl)

/-- A wake with a flash that works leaves the config on flash. -/
theorem appMain_storedInv_of_flashOk (h : StoredInv n) {w : WakeInput} (hok : FlashOk n w) : StoredInv (appMain n w).1 := by
  have heq : appMain n { w with load := .healthy } = appMain n w := by
    simp only [appMain, boot_healthy hok.1]
  rw [← heq]
  refine appMain_storedInv h ⟨Or.inl rfl, rfl, rfl⟩ ?_
  rw [heq]
  exact hok.2

/-- What a wake of the board sends, and how long it then sleeps. -/
def WakeRecord.firmwareWake (r : WakeRecord) : FirmwareWake := ⟨r.frame.fport.toNat, r.frame.payload, r.sleepS⟩

/-- A wake on the host leaves the state of the board in the file, and sends what the board sends. -/
theorem Mirrors.simWake_eq (h : Mirrors stateFile s n) {w : WakeInput} (hok : FlashOk n w)
    (hdata : ∀ down, w.radio.down = some down → down.data.length ≤ 242) (a : SensorArgs) :
    loadState ((simWake stateFile s w a).1 stateFile.1) = some (appMain n w).1.state ∧
      (simWake stateFile s w a).2 = some (appMain n w).2.firmwareWake := by
  have hboot : simBoot s.cut (loadState (s.files stateFile.1)) = (!n.haveState, (n.boot w.load).state) := by
    rw [boot_healthy hok.1]
    exact h.boot
  have hrun := simMain_wakeArgs w.hal stateFile s.cut a s.files hboot
  have hsent := readWake_wakeLine (appMain n w).2.frame (aqStateSleepS (n.uplinked w).state)
  have hmain := loadState_stateText (appMain_ok h.stored.1 w).1
  change simMain _ _ _ = (Function.update s.files stateFile.1 (some (stateText (n.uplinked w).state)),
    ⟨0, wakeLine (appMain n w).2.frame (aqStateSleepS (n.uplinked w).state), []⟩) at hrun
  cases hdown : w.radio.down with
  | none =>
    have hstate : (appMain n w).1.state = (n.uplinked w).state := appMain_state_none hdown
    have hsim : simWake stateFile s w a = (Function.update s.files stateFile.1 (some (stateText (n.uplinked w).state)),
        readWake (wakeLine (appMain n w).2.frame (aqStateSleepS (n.uplinked w).state))) := by
      simp only [simWake, hrun, hdown]
    rw [hsim, hsent, ← hstate]
    exact ⟨by simpa using hmain, rfl⟩
  | some down =>
    have hstate : (appMain n w).1.state = (aqStateOnDownlink (n.uplinked w).state down.fport (some down.data)).2 :=
      appMain_state_some hdown
    have hfile : loadState ((Function.update s.files stateFile.1 (some (stateText (n.uplinked w).state))) stateFile.1) =
        some (n.uplinked w).state := by
      simpa using loadState_stateText (uplinked_ok h.stored.1 w).1
    have hdelivered := simMain_downlinkArgs w.hal stateFile down.fport (hdata down hdown) _ hfile
    rw [← hstate] at hdelivered
    have hsim : simWake stateFile s w a = (Function.update (Function.update s.files stateFile.1
        (some (stateText (n.uplinked w).state))) stateFile.1 (some (stateText (appMain n w).1.state)),
        some (appMain n w).2.firmwareWake) := by
      simp only [simWake, hrun, hdown, hdelivered, hsent, readSleep_downlinkLine]
      rfl
    rw [hsim]
    exact ⟨by simpa using hmain, rfl⟩

/-- A wake is mirrored: with a flash that works, the host sends what the board sends, and mirrors the board again. -/
theorem Mirrors.wake (h : Mirrors stateFile s n) {w : WakeInput} (hok : FlashOk n w)
    (hdata : ∀ down, w.radio.down = some down → down.data.length ≤ 242) (a : SensorArgs) :
    Mirrors stateFile ⟨(simWake stateFile s w a).1, false⟩ (appMain n w).1 where
  stored := appMain_storedInv_of_flashOk h.stored hok
  warm := fun _ => ⟨rfl, (h.simWake_eq hok hdata a).1⟩
  cold := fun hs => absurd (appMain_haveState n w) (by rw [hs]; exact Bool.false_ne_true)

/-! ## The simulator runs the decisions of the board -/

/-- A step of the board whose writes succeed, with a downlink of at most 242 bytes. -/
def NodeEvent.Ok (n : Node) : NodeEvent → Prop
  | .wake w => FlashOk n w ∧ ∀ down, w.radio.down = some down → down.data.length ≤ 242
  | .powerCut => True

/-- The host simulator runs the same decisions as the board. Over every run of wakes, power cuts and downlinks from an empty NVS,
on any fPort and of any bytes up to 242, with the same sensor outputs on both sides, a flash that works and every write of the
state file succeeding:
1. one run of the program for each wake, with `--boot` after a power cut, and one for each downlink received, print the fPort, the
   payload and the final sleep time of the wake of the board;
2. the text that `save_state` writes is loaded as the state it was written for, for every reachable state. -/
theorem simulator_mirrors_board (stateFile : ArgValue) (files : Files) (hfiles : files stateFile.1 = none) (cut : Bool)
    (es : List (NodeEvent × SensorArgs))
    (hok : nodeMachine.Along NodeEvent.Ok (Node.powerUp ⟨none⟩) (es.map Prod.fst)) :
    (simMachine stateFile).outputs ⟨files, cut⟩ es =
      (nodeRecords ⟨none⟩ (es.map Prod.fst)).map (Option.map (fun r => some r.firmwareWake)) ∧
    ∀ fs path st, st.Reachable → loadState ((saveState .done fs path st).1 path) = some st := by
  constructor
  · have hstep : ∀ (s : SimNode) (n : Node) (i : NodeEvent × SensorArgs), Mirrors stateFile s n → NodeEvent.Ok n i.1 →
        Mirrors stateFile ((simMachine stateFile).step s i).1 (nodeMachine.step n i.1).1 ∧
          ((simMachine stateFile).step s i).2 = (nodeMachine.step n i.1).2.map (fun r => some r.firmwareWake) := by
      rintro s n ⟨e, a⟩ h he
      cases e with
      | wake w => exact ⟨h.wake he.1 he.2 a, congrArg some (h.simWake_eq he.1 he.2 a).2⟩
      | powerCut => exact ⟨h.powerCut, rfl⟩
    have hstart : Mirrors stateFile ⟨files, cut⟩ (Node.powerUp ⟨none⟩) := mirrors_powerUp hfiles
    exact Machine.outputs_eq_of_along hstep hstart hok
  · intro fs path st hst
    simpa [saveState] using loadState_stateText hst.ok.1

/-- The options of the simulated sensors in a first wake. -/
def SensorArgs.first : SensorArgs where
  baselinePm25 := ⟨"30", by decide⟩
  hour := ⟨"12.00", by decide⟩
  fcnt := ⟨"0", by decide⟩
  seed := ⟨"30", by decide⟩

/-- A node that is told an offset of -25, loses its power and reports two wakes later, as the host runs it. -/
theorem simulator_mirrors_board_offset :
    (simMachine ⟨"node.state", by decide⟩).outputs ⟨fun _ => none, true⟩
        [(.wake (.command [0x02, 0xe7, 0xff] .healthy), .first), (.powerCut, .first), (.wake .quiet, .first),
          (.wake .quiet, .first)] =
      [some (some ⟨2, [0, 0, 0, 0, 0, 0, 0, 0, 0, 0, 0x3c, 0x0f, 1], 120⟩), none,
        some (some ⟨2, [0, 0, 0, 0, 0, 0, 0, 0, 0, 0, 0x3c, 0x0f, 1], 120⟩),
        some (some ⟨11, [1, 0, 0, 0x2c, 0x01, 0xe7, 0xff, 0, 0], 300⟩)] := by
  have hquiet : ∀ n, NodeEvent.Ok n (.wake .quiet) := fun n =>
    ⟨flashOk_of_works ⟨Or.inl rfl, rfl, rfl⟩ rfl ⟨Or.inl rfl, rfl, rfl⟩ rfl n, nofun⟩
  have hcommand : ∀ n, NodeEvent.Ok n (.wake (.command [0x02, 0xe7, 0xff] .healthy)) := by
    intro n
    refine ⟨flashOk_of_works ⟨Or.inl rfl, rfl, rfl⟩ rfl ⟨Or.inl rfl, rfl, rfl⟩ rfl n, ?_⟩
    rintro down ⟨⟩
    decide
  have h := simulator_mirrors_board ⟨"node.state", by decide⟩ (fun _ => none) rfl true
    [(.wake (.command [0x02, 0xe7, 0xff] .healthy), .first), (.powerCut, .first), (.wake .quiet, .first),
      (.wake .quiet, .first)] ⟨hcommand _, trivial, hquiet _, hquiet _, trivial⟩
  rw [h.1]
  decide +kernel

end AirQuality
