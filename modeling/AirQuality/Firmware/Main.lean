import AirQuality.Firmware.ConfigStore
import AirQuality.Firmware.Lora

/-!
# One wake of the node

`firmware/src/main.cpp`: what the board does between power-up or a deep-sleep wake and the next sleep. The state it keeps in RTC
RAM survives deep sleep and is lost with the power; the flash survives both. The sensors, the NVS driver and the radio answer
from outside: a `WakeInput`.
-/

namespace AirQuality

/-- The node between two wakes: `s_have_state` and `s_state` in RTC RAM, and the flash. -/
structure Node where
  haveState : Bool
  state : AqNodeState
  flash : Flash
deriving DecidableEq

/-- What the outside world answers during one wake. -/
structure WakeInput where
  hal : AqSensorHal
  /-- The NVS driver during `esp32_config_load`. -/
  load : NvsCall
  radio : LorawanResult
  /-- The NVS driver during `esp32_config_save`. -/
  save : NvsCall

/-- A wake in which no sensor answers, the flash works and the uplink is sent and brings nothing back. -/
def WakeInput.quiet : WakeInput where
  hal := { readPm := (-1, 0, 0), readEnv := (-1, 0, 0, 0), readBatteryMv := 3900 }
  load := .healthy
  radio := .sent none
  save := .healthy

/-- A wake in which a config downlink comes back. -/
def WakeInput.command (data : List UInt8) (save : NvsCall) : WakeInput :=
  { WakeInput.quiet with radio := .sent (some ⟨aqDownlinkFport, data⟩), save }

/-- What one wake did. -/
structure WakeRecord where
  coldBoot : Bool
  frame : Frame
  /-- The return code of `esp32_config_save`, if it was called. -/
  saved : Option Int
  /-- The seconds it then sleeps. -/
  sleepS : Nat
deriving DecidableEq

/-- The first part of `app_main`: on a cold boot the config is reloaded from NVS. -/
def Node.boot (n : Node) (load : NvsCall) : Node :=
  if n.haveState = true then n
  else
    let (flash, stored) := esp32ConfigLoad load n.flash
    { haveState := true, state := aqStateInit stored, flash }

/-- `send_reading`: the frame it sends. A node whose sensors have all failed still sends. -/
def sendReading (st : AqNodeState) (hal : AqSensorHal) : Frame :=
  { fport := aqDataFport, payload := aqPayloadEncode (aqConfigCalibrate st.cfg (aqSample hal).2) }

/-- `send_report`: the frame it sends, and the state afterwards, whether the uplink succeeds or not. -/
def sendReport (st : AqNodeState) : Frame × AqNodeState :=
  ({ fport := aqReportFport, payload := aqConfigReportEncode st }, aqStateReportDone st)

/-- The second part of `app_main`: a report if one is due, else a reading; the first reading of a cold boot queues a report. -/
def sendUplink (coldBoot : Bool) (hal : AqSensorHal) (st : AqNodeState) : Frame × AqNodeState :=
  if aqStateReportDue st = true then sendReport st
  else (sendReading st hal, if coldBoot = true then aqStateRequestReport st else st)

/-- `handle_downlink`: apply a config downlink, if one came back, and persist a change. -/
def handleDownlink (n : Node) (save : NvsCall) : Option LorawanDownlink → Node × Option Int
  | none => (n, none)
  | some down =>
    let (changed, state) := aqStateOnDownlink n.state down.fport (some down.data)
    if down.fport ≠ aqDownlinkFport then ({ n with state }, none)
    else if changed ≠ 0 then
      let (flash, rc) := esp32ConfigSave save n.flash state.cfg
      ({ n with state, flash }, some rc)
    else ({ n with state }, none)

/-- `app_main`: one wake. -/
def appMain (n : Node) (w : WakeInput) : Node × WakeRecord :=
  let coldBoot := !n.haveState
  let booted := n.boot w.load
  let (frame, state) := sendUplink coldBoot w.hal booted.state
  let (n, saved) := handleDownlink { booted with state } w.save w.radio.down
  (n, { coldBoot, frame, saved, sleepS := aqStateSleepS n.state })

/-- RTC RAM as it is when the power comes up: `s_have_state` is false and the rest is zero. -/
def Node.powerUp (flash : Flash) : Node where
  haveState := false
  state := { cfg := ⟨0, 0, 0⟩, reportPending := 0, lastCmd := 0, lastResult := 0 }
  flash := flash

/-- What happens to a node: it wakes, works and goes back to deep sleep, or it loses its power while asleep. -/
inductive NodeEvent where
  | wake (w : WakeInput)
  | powerCut

/-- The node as a machine: a wake gives its record. -/
def nodeMachine : Machine Node NodeEvent (Option WakeRecord) where
  step n
    | .wake w => ((appMain n w).1, some (appMain n w).2)
    | .powerCut => (Node.powerUp n.flash, none)

/-- The node after a run of events, from power-up with some content of the flash. -/
def nodeRun (flash : Flash) (es : List NodeEvent) : Node := nodeMachine.run (Node.powerUp flash) es

/-- The records of a run, `none` for a power cut. -/
def nodeRecords (flash : Flash) (es : List NodeEvent) : List (Option WakeRecord) :=
  nodeMachine.outputs (Node.powerUp flash) es

/-- The config downlink a wake receives, if any: the bytes of a downlink on the config port. -/
def WakeInput.configDownlink (w : WakeInput) : Option (List UInt8) :=
  w.radio.down.bind (fun down => if down.fport = aqDownlinkFport then some down.data else none)

/-- The node right after the uplink of a wake, when its downlink is handled. -/
def Node.uplinked (n : Node) (w : WakeInput) : Node :=
  { (n.boot w.load) with state := (sendUplink (!n.haveState) w.hal (n.boot w.load).state).2 }

/-- The values `s_state` takes in a wake: after boot, after the uplink, after the downlink. -/
def Node.wakeStates (n : Node) (w : WakeInput) : List AqNodeState :=
  [(n.boot w.load).state, (n.uplinked w).state, (appMain n w).1.state]

/-! ## What a wake can do -/

theorem appMain_node (n : Node) (w : WakeInput) :
    (appMain n w).1 = (handleDownlink (n.uplinked w) w.save w.radio.down).1 := rfl

theorem appMain_frame (n : Node) (w : WakeInput) :
    (appMain n w).2.frame = (sendUplink (!n.haveState) w.hal (n.boot w.load).state).1 := rfl

theorem appMain_saved (n : Node) (w : WakeInput) :
    (appMain n w).2.saved = (handleDownlink (n.uplinked w) w.save w.radio.down).2 := rfl

@[simp] theorem boot_haveState (n : Node) (load : NvsCall) : (n.boot load).haveState = true := by
  unfold Node.boot
  split_ifs with h
  · exact h
  · rfl

/-- A node that has its state boots as it is. -/
theorem boot_warm {n : Node} (h : n.haveState = true) (load : NvsCall) : n.boot load = n := if_pos h

/-- A node without its state starts from what it loads. -/
theorem boot_cold {n : Node} (h : n.haveState = false) (load : NvsCall) :
    n.boot load = ⟨true, aqStateInit (esp32ConfigLoad load n.flash).2, (esp32ConfigLoad load n.flash).1⟩ := by
  simp [Node.boot, h]

/-- After a wake the node has its state. -/
@[simp] theorem appMain_haveState (n : Node) (w : WakeInput) : (appMain n w).1.haveState = true := by
  have h : (n.uplinked w).haveState = true := boot_haveState n w.load
  rw [appMain_node]
  cases w.radio.down with
  | none => exact h
  | some down =>
    simp only [handleDownlink]
    split_ifs
    · exact h
    · exact h
    · exact h

/-- The uplink of a wake changes nothing but the pending flag. -/
theorem sendUplink_state (coldBoot : Bool) (hal : AqSensorHal) (st : AqNodeState) :
    (sendUplink coldBoot hal st).2 = { st with reportPending := (sendUplink coldBoot hal st).2.reportPending } := by
  unfold sendUplink
  split_ifs
  · rfl
  · rfl
  · rfl

@[simp] theorem uplinked_cfg (n : Node) (w : WakeInput) : (n.uplinked w).state.cfg = (n.boot w.load).state.cfg := by
  simp only [Node.uplinked]
  rw [sendUplink_state]

@[simp] theorem uplinked_flash (n : Node) (w : WakeInput) : (n.uplinked w).flash = (n.boot w.load).flash := rfl

/-- Handling the downlink of a wake is `aq_state_on_downlink`, as far as the state goes. -/
theorem handleDownlink_state (n : Node) (save : NvsCall) (down : LorawanDownlink) :
    (handleDownlink n save (some down)).1.state = (aqStateOnDownlink n.state down.fport (some down.data)).2 := by
  simp only [handleDownlink]
  split_ifs
  · rfl
  · rfl
  · rfl

/-- A config downlink is what the radio received, on the config port. -/
theorem configDownlink_some {w : WakeInput} {data : List UInt8} (h : w.configDownlink = some data) :
    ∃ down, w.radio.down = some down ∧ down.fport = aqDownlinkFport ∧ down.data = data := by
  obtain ⟨down, hdown, hif⟩ := Option.bind_eq_some_iff.1 h
  by_cases hport : down.fport = aqDownlinkFport
  · rw [if_pos hport] at hif
    exact ⟨down, hdown, hport, Option.some.inj hif⟩
  · rw [if_neg hport] at hif
    cases hif

/-- Without a downlink, a wake leaves the state as the uplink left it. -/
theorem appMain_state_none {n : Node} {w : WakeInput} (h : w.radio.down = none) :
    (appMain n w).1.state = (n.uplinked w).state := by
  rw [appMain_node, h]
  rfl

/-- With a downlink, a wake leaves what `aq_state_on_downlink` makes of the state after the uplink. -/
theorem appMain_state_some {n : Node} {w : WakeInput} {down : LorawanDownlink} (h : w.radio.down = some down) :
    (appMain n w).1.state = (aqStateOnDownlink (n.uplinked w).state down.fport (some down.data)).2 := by
  rw [appMain_node, h, handleDownlink_state]

theorem appMain_state_config {n : Node} {w : WakeInput} {data : List UInt8} (h : w.configDownlink = some data) :
    (appMain n w).1.state = (aqStateOnDownlink (n.uplinked w).state aqDownlinkFport (some data)).2 := by
  obtain ⟨down, hdown, hport, rfl⟩ := configDownlink_some h
  rw [appMain_state_some hdown, hport]

/-- Without a config downlink, handling the downlink changes nothing and saves nothing. -/
theorem handleDownlink_none {w : WakeInput} (h : w.configDownlink = none) (n : Node) :
    handleDownlink n w.save w.radio.down = (n, none) := by
  unfold WakeInput.configDownlink at h
  cases hdown : w.radio.down with
  | none => rfl
  | some down =>
    have hport : down.fport ≠ aqDownlinkFport := by
      intro heq
      simp [hdown, heq] at h
    simp [handleDownlink, aqStateOnDownlink_other hport, hport]

/-- A config downlink that leaves the config as it is is applied to the state and saves nothing. -/
theorem handleDownlink_same {w : WakeInput} {data : List UInt8} (h : w.configDownlink = some data) {n : Node}
    (hcfg : (aqStateOnDownlink n.state aqDownlinkFport (some data)).2.cfg = n.state.cfg) :
    handleDownlink n w.save w.radio.down =
      ({ n with state := (aqStateOnDownlink n.state aqDownlinkFport (some data)).2 }, none) := by
  obtain ⟨down, hdown, hport, rfl⟩ := configDownlink_some h
  have hrc : (aqStateOnDownlink n.state aqDownlinkFport (some down.data)).1 = 0 := by
    by_contra hne
    exact (aqStateOnDownlink_changed_iff _ _ _).1 hne hcfg
  simp [handleDownlink, hdown, hport, hrc]

/-- A config downlink that changes the config is applied to the state, and the new config is saved. -/
theorem handleDownlink_changed {w : WakeInput} {data : List UInt8} (h : w.configDownlink = some data) {n : Node}
    (hcfg : (aqStateOnDownlink n.state aqDownlinkFport (some data)).2.cfg ≠ n.state.cfg) :
    handleDownlink n w.save w.radio.down =
      ({ n with
          state := (aqStateOnDownlink n.state aqDownlinkFport (some data)).2
          flash := (esp32ConfigSave w.save n.flash (aqStateOnDownlink n.state aqDownlinkFport (some data)).2.cfg).1 },
        some (esp32ConfigSave w.save n.flash (aqStateOnDownlink n.state aqDownlinkFport (some data)).2.cfg).2) := by
  obtain ⟨down, hdown, hport, rfl⟩ := configDownlink_some h
  have hrc : (aqStateOnDownlink n.state aqDownlinkFport (some down.data)).1 ≠ 0 :=
    (aqStateOnDownlink_changed_iff _ _ _).2 hcfg
  simp [handleDownlink, hdown, hport, hrc]

end AirQuality
