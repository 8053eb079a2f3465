import AirQuality.Ingestion.Contents
import AirQuality.Lib.History
import AirQuality.System.Fleet
import AirQuality.Theorems.Confirmation
import AirQuality.Theorems.Downlink
import AirQuality.Theorems.Persistence
import AirQuality.Theorems.Report

/-!
# What the server holds of the fleet

Over every run of the fleet: a reading in any store was measured by its device, and a config in the cache was once the config of its
device, with an outcome that a command queued for it had. The first half is about the nodes and the queue, the second about the
service, which only ever sees frames that the nodes have sent.
-/

namespace AirQuality

open History

/-! ## What has happened -/

/-- The opcode of a command. -/
def DownlinkCommand.opcode : DownlinkCommand → UInt8
  | .setInterval _ => DownlinkOpcode.setInterval
  | .setPmOffset _ => DownlinkOpcode.setPmOffset
  | .setTempOffset _ => DownlinkOpcode.setTempOffset

/-- The config has the value of the command. -/
abbrev DownlinkCommand.InForce (command : DownlinkCommand) (cfg : AqConfig) : Prop := command.Applied cfg cfg

/-- The command has been enqueued for the device. -/
def Enqueued (es : List FleetEvent) (devEui : String) (command : DownlinkCommand) : Prop :=
  Once (fun _ e => e = .enqueue devEui command) es

section

variable (dateParse : String → Option ℤ) (flash : String → Flash)

/-- The command has been enqueued for the device, and then a wake of the device has received its bytes. -/
def Received (es : List FleetEvent) (devEui : String) (command : DownlinkCommand) : Prop :=
  Once (fun before e => ∃ w data, e = .wake devEui w ∧ Enqueued before devEui command ∧
    encodeDownlink command = .ok data ∧ ((fleetRun dateParse flash before).wakeInput devEui w).configDownlink = some data) es

/-- What the state of a node says of its last command: there was none since it booted, or it is one that the device has received,
and the config has its value. -/
def Told (es : List FleetEvent) (devEui : String) (st : AqNodeState) : Prop :=
  (st.lastResult = aqResultNone ∧ st.lastCmd = 0) ∨
    (st.lastResult = aqResultApplied ∧
      ∃ command, Received dateParse flash es devEui command ∧ st.lastCmd = command.opcode ∧ command.InForce st.cfg)

/-- The state a node of a run boots with in a wake. -/
def bootState (es : List FleetEvent) (devEui : String) (w : Wake) : AqNodeState :=
  (((fleetRun dateParse flash es).node devEui).boot w.load).state

/-- A wake of its device has sent the frame: a reading of its sensors, or a report of the state it woke up with. -/
def SentBy (es : List FleetEvent) (s : SentFrame) : Prop :=
  Once (fun before e => ∃ w, e = .wake s.devEui w ∧
    (s.frame = sendReading (bootState dateParse flash before s.devEui w) (sensorHal w.pm w.env w.battery) ∨
      ((fleetRun dateParse flash before).node s.devEui).haveState = true ∧
        s.frame = ⟨aqReportFport, aqConfigReportEncode ((fleetRun dateParse flash before).node s.devEui).state⟩)) es

/-- The reading that becomes of what the two sensors of a device have read, under its config: each value in steps of the wire and cut
to its range. -/
def readingOfSensors (devEui : String) (cfg : AqConfig) (pm25 pm10 : UInt16) (t : ℤ) (humidity pressure : ℚ) (battery : UInt16)
    (timestamp : ℤ) (signal : Option ℤ) : SensorReading where
  deviceId := devEui
  timestamp := timestamp
  pm25 := (Rounding.saturate 0 65535 (10 * pm25.toNat + cfg.pmOffsetX10.toInt) : ℤ) / 10
  pm10 := ((min (10 * pm10.toNat) 65535 : ℤ) : ℚ) / 10
  temperature := (Rounding.saturate (-32768) 32767 (t + cfg.tempOffsetX100.toInt) : ℤ) / 100
  humidity := (Rounding.clampAway 0 65535 (humidity * 100) : ℤ) / 100
  pressure := (Rounding.clampAway 0 65535 pressure : ℤ)
  batteryMv := battery.toNat
  signalStrength := signal

/-- A wake of its device has measured the reading, with a config in range. -/
def Measured (es : List FleetEvent) (r : SensorReading) : Prop :=
  Once (fun before e => ∃ w pm25 pm10 t humidity pressure, e = .wake r.deviceId w ∧
    w.pm = .ok pm25 pm10 ∧ w.env = .ok t humidity pressure ∧
    aqConfigValid (bootState dateParse flash before r.deviceId w).cfg = true ∧
    r = readingOfSensors r.deviceId (bootState dateParse flash before r.deviceId w).cfg pm25 pm10 t humidity pressure w.battery
      r.timestamp r.signalStrength) es

/-- The reading was measured, then delivered at the time it carries, satisfies the schema and has the AQI of its concentrations. -/
def Genuine (es : List FleetEvent) (p : ReadingPayload) : Prop :=
  sensorReadingOk p.reading = true ∧
  p.aqi = (calculateAqi p.reading.pm25 p.reading.pm10).aqi ∧
  p.aqiCategory = (calculateAqi p.reading.pm25 p.reading.pm10).category ∧
  Once (fun before e => ∃ i time rxInfo now, e = .uplink i time rxInfo now ∧
    p.reading.timestamp = uplinkTime dateParse now time ∧ Measured dateParse flash before p.reading) es

/-- The config is what its device has reported in a wake, of the state it woke up with, and was delivered at the time it carries. -/
def Confirmed (es : List FleetEvent) (c : DeviceConfig) : Prop :=
  Once (fun before e => ∃ i time rxInfo now, e = .uplink i time rxInfo now ∧ c.reportedAt = uplinkTime dateParse now time ∧
    Once (fun before e => ∃ w st, e = .wake c.deviceId w ∧ st = ((fleetRun dateParse flash before).node c.deviceId).state ∧
      aqConfigValid st.cfg = true ∧ c.intervalS = st.cfg.sampleIntervalS.toNat ∧
      c.pmOffset = (st.cfg.pmOffsetX10.toInt : ℚ) / 10 ∧ c.temperatureOffset = (st.cfg.tempOffsetX100.toInt : ℚ) / 100 ∧
      ((c.lastResult = .none ∧ c.lastCommand = 0) ∨
        (c.lastResult = .applied ∧ ∃ command, Received dateParse flash before c.deviceId command ∧
          c.lastCommand = command.opcode ∧ command.InForce st.cfg))) before) es

end

/-! ## Commands -/

theorem encodeDownlink_opcode {command : DownlinkCommand} {data : List UInt8} (h : encodeDownlink command = .ok data) :
    aqLastCmdOf (some data) = command.opcode := by
  unfold encodeDownlink at h
  cases hrange : assertDownlinkInRange command with
  | error e =>
    rw [hrange] at h
    cases h
  | ok u =>
    rw [hrange] at h
    cases command with
    | setInterval v =>
      obtain rfl := Except.ok.inj h
      rfl
    | setPmOffset v =>
      obtain rfl := Except.ok.inj h
      rfl
    | setTempOffset v =>
      obtain rfl := Except.ok.inj h
      rfl

theorem inForce_of_applied {command : DownlinkCommand} {old new : AqConfig} (h : command.Applied old new) :
    command.InForce new := by
  cases command with
  | setInterval v => exact ⟨h.1, rfl⟩
  | setPmOffset v => exact ⟨h.1, rfl⟩
  | setTempOffset v => exact ⟨h.1, rfl⟩

/-- A node applies the bytes of every command that can be enqueued. -/
theorem aqDownlinkApply_encoded {command : DownlinkCommand} {data : List UInt8} (h : encodeDownlink command = .ok data)
    {cfg : AqConfig} (hcfg : aqConfigValid cfg = true) :
    ∃ new, aqDownlinkApply (some data) cfg = (aqDlOk, new) ∧ command.Applied cfg new := by
  have hok : assertDownlinkInRange command = .ok () := by
    rcases assertDownlinkInRange_cases command with hok | ⟨name, min, max, herr⟩
    · exact hok
    · rw [(encodeDownlink_error_iff command _).2 herr] at h
      cases h
  obtain ⟨bytes, hbytes, -, hdec⟩ := decodeDownlink_encodeDownlink hok
  rw [h] at hbytes
  obtain rfl := Except.ok.inj hbytes
  rcases aqDownlinkApply_eq data ⟨cfg, hcfg⟩ with ⟨⟨e, herr⟩, -⟩ | ⟨c, e, hdec', herr, -⟩ | ⟨c, new, hdec', -, happ, happly⟩
  · rw [hdec] at herr
    cases herr
  · rw [hdec] at hdec'
    obtain rfl := Except.ok.inj hdec'
    rw [hok] at herr
    cases herr
  · rw [hdec] at hdec'
    obtain rfl := Except.ok.inj hdec'
    exact ⟨new, happly, happ⟩

/-! ## The nodes and the queue -/

section

variable {dateParse : String → Option ℤ} {flash : String → Flash} {es : List FleetEvent}

theorem Told.append {devEui : String} {st : AqNodeState} (h : Told dateParse flash es devEui st) (e : FleetEvent) :
    Told dateParse flash (es ++ [e]) devEui st := by
  rcases h with h | ⟨hresult, command, hreceived, hcmd⟩
  · exact Or.inl h
  · exact Or.inr ⟨hresult, command, Once.append hreceived [e], hcmd⟩

variable (dateParse flash) in
/-- What is known of the nodes, the queue and the frames after a run. -/
structure NetworkOk (es : List FleetEvent) (f : Fleet) : Prop where
  node : ∀ devEui, NodeInv (f.node devEui)
  told : ∀ devEui, (f.node devEui).haveState = true → Told dateParse flash es devEui (f.node devEui).state
  queue : ∀ item ∈ f.queue, encodeDownlink item.command = .ok item.data ∧ Enqueued es item.devEui item.command
  sent : ∀ s ∈ f.sent, SentBy dateParse flash es s

/-- What is known after a run is known after a longer one. -/
theorem NetworkOk.append {f : Fleet} (h : NetworkOk dateParse flash es f) (e : FleetEvent) :
    NetworkOk dateParse flash (es ++ [e]) f where
  node := h.node
  told := fun devEui hs => (h.told devEui hs).append e
  queue := fun item hitem => ⟨(h.queue item hitem).1, (h.queue item hitem).2.append [e]⟩
  sent := fun s hs => (h.sent s hs).append [e]

/-- What a node boots with tells of its last command. -/
theorem told_boot (h : NetworkOk dateParse flash es (fleetRun dateParse flash es)) (devEui : String) (w : Wake) :
    Told dateParse flash es devEui (bootState dateParse flash es devEui w) := by
  unfold bootState
  cases hs : ((fleetRun dateParse flash es).node devEui).haveState with
  | true =>
    rw [boot_warm hs]
    exact h.told devEui hs
  | false =>
    rw [boot_cold hs]
    exact Or.inl ⟨rfl, rfl⟩

/-- A config downlink of a wake is an item of the queue. -/
theorem configDownlink_wakeInput {f : Fleet} {devEui : String} {w : Wake} {data : List UInt8}
    (h : (f.wakeInput devEui w).configDownlink = some data) : ∃ item ∈ f.queue, item.devEui = devEui ∧ item.data = data := by
  obtain ⟨down, hdown, hport, rfl⟩ := configDownlink_some h
  have hradio : (f.radio devEui w.radio).down = some down := hdown
  cases hw : w.radio with
  | failed =>
    rw [hw] at hradio
    cases hradio
  | quiet =>
    rw [hw] at hradio
    cases hradio
  | command i =>
    rw [hw] at hradio
    obtain ⟨item, hitem, rfl⟩ := Option.map_eq_some_iff.1 hradio
    obtain ⟨hget, hdevEui⟩ := Option.filter_eq_some_iff.1 hitem
    exact ⟨item, List.mem_of_getElem? hget, of_decide_eq_true hdevEui, rfl⟩
  | other fport bytes =>
    rw [hw] at hradio
    obtain rfl := Option.some.inj hradio
    exact absurd hport fport.2

/-- After a wake, what a node holds tells of its last command. -/
theorem told_wake (h : NetworkOk dateParse flash es (fleetRun dateParse flash es)) (devEui : String) (w : Wake) :
    Told dateParse flash (es ++ [.wake devEui w]) devEui
      (appMain ((fleetRun dateParse flash es).node devEui) ((fleetRun dateParse flash es).wakeInput devEui w)).1.state := by
  have hboot := (told_boot h devEui w).append (.wake devEui w)
  set n := (fleetRun dateParse flash es).node devEui with hn
  set input := (fleetRun dateParse flash es).wakeInput devEui w with hinput
  have huplinked : Told dateParse flash (es ++ [.wake devEui w]) devEui (n.uplinked input).state := by
    simp only [Node.uplinked]
    rw [sendUplink_state]
    exact hboot
  cases hdata : input.configDownlink with
  | none =>
    rw [appMain_node, handleDownlink_none hdata]
    exact huplinked
  | some data =>
    obtain ⟨item, hitem, hdevEui, rfl⟩ := configDownlink_wakeInput hdata
    obtain ⟨hencoded, henqueued⟩ := h.queue item hitem
    rw [hdevEui] at henqueued
    obtain ⟨new, happly, happ⟩ := aqDownlinkApply_encoded hencoded (uplinked_ok (h.node devEui) input).1
    rw [appMain_state_config hdata, aqStateOnDownlink_config, happly]
    refine Or.inr ⟨rfl, item.command, ?_, encodeDownlink_opcode hencoded, inForce_of_applied happ⟩
    exact once_last ⟨w, item.data, rfl, henqueued, hencoded, hdata⟩

/-- The frame of a wake is a reading, or a report of the state the node woke up with. -/
theorem sentBy_wake (devEui : String) (w : Wake) :
    SentBy dateParse flash (es ++ [.wake devEui w])
      ⟨devEui, (appMain ((fleetRun dateParse flash es).node devEui) ((fleetRun dateParse flash es).wakeInput devEui w)).2.frame⟩ := by
  refine once_last ⟨w, rfl, ?_⟩
  change (appMain _ _).2.frame = _ ∨ _ ∧ (appMain _ _).2.frame = _
  rw [appMain_sent]
  split_ifs with howed
  · refine Or.inr ⟨?_, rfl⟩
    by_contra hs
    rw [Node.owed, if_neg hs] at howed
    cases howed
  · exact Or.inl rfl

/-- A step keeps what is known of the nodes, the queue and the frames. -/
theorem networkOk_step (h : NetworkOk dateParse flash es (fleetRun dateParse flash es)) (e : FleetEvent) :
    NetworkOk dateParse flash (es ++ [e]) ((fleetRun dateParse flash es).step dateParse e) := by
  have hlater := h.append e
  cases e with
  | enqueue devEui command =>
    rw [Fleet.step]
    cases hencoded : encodeDownlink command with
    | error err => exact hlater
    | ok data =>
      refine ⟨hlater.node, hlater.told, fun item hitem => ?_, hlater.sent⟩
      rcases List.mem_append.1 hitem with hitem | hitem
      · exact hlater.queue item hitem
      · obtain rfl := List.mem_singleton.1 hitem
        exact ⟨hencoded, once_last rfl⟩
  | wake devEui w =>
    refine ⟨fun d => ?_, fun d hs => ?_, hlater.queue, fun s hs => ?_⟩
    · rw [step_wake_node]
      split_ifs with hd
      · exact fun _ => appMain_ok (h.node devEui) _
      · exact h.node d
    · rw [step_wake_node] at hs ⊢
      split_ifs at hs ⊢ with hd
      · rw [hd]
        exact told_wake h devEui w
      · exact hlater.told d hs
    · rcases List.mem_append.1 hs with hs | hs
      · exact hlater.sent s hs
      · obtain rfl := List.mem_singleton.1 hs
        exact sentBy_wake devEui w
  | powerCut devEui =>
    refine ⟨fun d => ?_, fun d hs => ?_, hlater.queue, hlater.sent⟩
    · rw [step_powerCut_node]
      split_ifs with hd
      · intro hs
        cases hs
      · exact h.node d
    · rw [step_powerCut_node] at hs ⊢
      split_ifs at hs ⊢ with hd
      · cases hs
      · exact hlater.told d hs
  | uplink i time rxInfo now =>
    rw [Fleet.step]
    cases (fleetRun dateParse flash es).sent[i]? with
    | none => exact hlater
    | some s => exact ⟨hlater.node, hlater.told, hlater.queue, hlater.sent⟩
  | noise now => exact ⟨hlater.node, hlater.told, hlater.queue, hlater.sent⟩
  | resolve i => exact ⟨hlater.node, hlater.told, hlater.queue, hlater.sent⟩
  | reject i applied => exact ⟨hlater.node, hlater.told, hlater.queue, hlater.sent⟩
  | restart => exact ⟨hlater.node, hlater.told, hlater.queue, hlater.sent⟩
  | expire devEui => exact ⟨hlater.node, hlater.told, hlater.queue, hlater.sent⟩

theorem fleetRun_networkOk (dateParse : String → Option ℤ) (flash : String → Flash) (es : List FleetEvent) :
    NetworkOk dateParse flash es (fleetRun dateParse flash es) := by
  have hstart : NetworkOk dateParse flash [] (fleetRun dateParse flash []) := by
    refine ⟨?_, ?_, ?_, ?_⟩
    · intro devEui hs
      cases hs
    · intro devEui hs
      cases hs
    · intro item hitem
      cases hitem
    · intro s hs
      cases hs
  have hstep : ∀ es e, NetworkOk dateParse flash es (fleetRun dateParse flash es) →
      NetworkOk dateParse flash (es ++ [e]) ((fleetRun dateParse flash es).step dateParse e) := by
    intro es e h
    exact networkOk_step h e
  exact (fleetMachine dateParse).run_history hstart hstep es

/-! ## The service -/

/-- The server reads back the bytes that the network server writes in base64. -/
@[simp] theorem bufferFromBase64_encode (payload : List UInt8) :
    bufferFromBase64 (String.ofList (Base64.encode Base64.standard payload)) = payload := by
  rw [← base64Encode_eq, bufferFromBase64_base64Encode]

/-- The signal strength of an uplink, rounded. -/
def signalOf (rxInfo : Option (List RxInfo)) : Option ℤ := ((rxInfo.bind List.head?).bind RxInfo.rssi).map round

/-- What ingestion makes of a frame that carries a reading: no config, and a reading only if both sensors were read. -/
theorem handleUplink_sendReading {s : SentFrame} {st : AqNodeState} {pm : PmRead} {env : EnvRead} {battery : UInt16}
    (hframe : s.frame = sendReading st (sensorHal pm env battery)) (time : Option String) (rxInfo : Option (List RxInfo))
    (now : ℤ) :
    (∃ reason, handleUplink dateParse now (some (s.uplink time rxInfo)) = .dropped reason) ∨
      ∃ p pm25 pm10 t humidity pressure, handleUplink dateParse now (some (s.uplink time rxInfo)) = .reading p ∧
        pm = .ok pm25 pm10 ∧ env = .ok t humidity pressure ∧ sensorReadingOk p.reading = true ∧
        p.aqi = (calculateAqi p.reading.pm25 p.reading.pm10).aqi ∧
        p.aqiCategory = (calculateAqi p.reading.pm25 p.reading.pm10).category ∧
        p.reading = readingOfSensors s.devEui st.cfg pm25 pm10 t humidity pressure battery (uplinkTime dateParse now time)
          (signalOf rxInfo) := by
  have hport : (s.uplink time rxInfo).fPort = some 2 := by
    rw [SentFrame.uplink, hframe]
    rfl
  obtain ⟨d, hd, -, hpresent, hbattery, hpm, -, henv, -⟩ := decodeUplink_readingPayload st.cfg pm env battery
  have hdata : decodeUplink (bufferFromBase64 (s.uplink time rxInfo).data) = .ok d := by
    rw [SentFrame.uplink, bufferFromBase64_encode, hframe]
    exact hd
  cases pm with
  | failed rc pm25 pm10 =>
    obtain ⟨reason, -, h⟩ := handleUplink_incomplete dateParse now hport hdata hpresent (Or.inl rfl)
    exact Or.inl ⟨reason, h⟩
  | ok pm25 pm10 =>
    cases env with
    | failed rc temperature humidity pressure =>
      obtain ⟨reason, -, h⟩ := handleUplink_incomplete dateParse now hport hdata hpresent (Or.inr rfl)
      exact Or.inl ⟨reason, h⟩
    | ok t humidity pressure =>
      obtain ⟨hpm25, hpm10⟩ := hpm pm25 pm10 rfl
      obtain ⟨htemperature, hhumidity, hpressure⟩ := henv t humidity pressure rfl
      have hreading : readingOf dateParse now (s.uplink time rxInfo) d =
          readingOfSensors s.devEui st.cfg pm25 pm10 t humidity pressure battery (uplinkTime dateParse now time)
            (signalOf rxInfo) := by
        simp only [readingOf, readingOfSensors, hpm25, hpm10, htemperature, hhumidity, hpressure, hbattery]
        rfl
      rw [handleUplink_telemetry dateParse now hport, handleTelemetry, hdata]
      simp only [hpresent, Option.getD_some, PmRead.isOk, EnvRead.isOk, Bool.true_eq_false, false_and, or_self, if_false]
      split_ifs with hok
      · exact Or.inr ⟨_, pm25, pm10, t, humidity, pressure, rfl, rfl, rfl, hok, rfl, rfl, hreading⟩
      · exact Or.inl ⟨_, rfl⟩

/-- What ingestion makes of a frame that carries a report of a state. -/
theorem handleUplink_report {s : SentFrame} {st : AqNodeState} {lastResult : ConfigResult}
    (hframe : s.frame = ⟨aqReportFport, aqConfigReportEncode st⟩) (hresult : ConfigResult.ofByte? st.lastResult = some lastResult)
    (time : Option String) (rxInfo : Option (List RxInfo)) (now : ℤ) :
    handleUplink dateParse now (some (s.uplink time rxInfo)) = .config {
      deviceId := s.devEui
      intervalS := st.cfg.sampleIntervalS.toNat
      pmOffset := st.cfg.pmOffsetX10.toInt / 10
      temperatureOffset := st.cfg.tempOffsetX100.toInt / 100
      lastCommand := st.lastCmd
      lastResult := lastResult
      reportedAt := uplinkTime dateParse now time } := by
  have hport : (s.uplink time rxInfo).fPort = some configReportFport := by
    rw [SentFrame.uplink, hframe]
    rfl
  have hdata : bufferFromBase64 (s.uplink time rxInfo).data = aqConfigReportEncode st := by
    rw [SentFrame.uplink, bufferFromBase64_encode, hframe]
  simp only [handleUplink]
  rw [if_pos hport, handleConfigReport_report hresult dateParse now hdata]
  rfl

/-- What the node tells of its last command is a result the server reads. -/
theorem Told.result {devEui : String} {st : AqNodeState} (h : Told dateParse flash es devEui st) :
    ∃ lastResult, ConfigResult.ofByte? st.lastResult = some lastResult ∧
      ((lastResult = .none ∧ st.lastCmd = 0) ∨
        (lastResult = .applied ∧ ∃ command, Received dateParse flash es devEui command ∧ st.lastCmd = command.opcode ∧
          command.InForce st.cfg)) := by
  rcases h with ⟨hresult, hcmd⟩ | ⟨hresult, hcommand⟩
  · exact ⟨.none, by rw [hresult]; rfl, Or.inl ⟨rfl, hcmd⟩⟩
  · exact ⟨.applied, by rw [hresult]; rfl, Or.inr ⟨rfl, hcommand⟩⟩

/-- A reading that ingestion makes of a frame was measured. -/
theorem measured_of_sent {s : SentFrame} (hs : SentBy dateParse flash es s) {time : Option String}
    {rxInfo : Option (List RxInfo)} {now : ℤ} {p : ReadingPayload}
    (hp : handleUplink dateParse now (some (s.uplink time rxInfo)) = .reading p) :
    sensorReadingOk p.reading = true ∧ p.aqi = (calculateAqi p.reading.pm25 p.reading.pm10).aqi ∧
      p.aqiCategory = (calculateAqi p.reading.pm25 p.reading.pm10).category ∧
      p.reading.timestamp = uplinkTime dateParse now time ∧ Measured dateParse flash es p.reading := by
  obtain ⟨before, e, after, rfl, w, rfl, hframe⟩ := hs
  have hnode := fleetRun_networkOk dateParse flash before
  rcases hframe with hframe | ⟨hstate, hframe⟩
  · rcases handleUplink_sendReading hframe time rxInfo now with
      ⟨reason, hdropped⟩ | ⟨q, pm25, pm10, t, humidity, pressure, hq, hpm, henv, hok, haqi, hcategory, hreading⟩
    · rw [hdropped] at hp
      cases hp
    · rw [hq] at hp
      obtain rfl := Handled.reading.inj hp
      have hdevice : q.reading.deviceId = s.devEui := by rw [hreading]; rfl
      have htime : q.reading.timestamp = uplinkTime dateParse now time := by rw [hreading]; rfl
      have hsignal : q.reading.signalStrength = signalOf rxInfo := by rw [hreading]; rfl
      refine ⟨hok, haqi, hcategory, htime, before, _, after, rfl, w, pm25, pm10, t, humidity, pressure, ?_, hpm, henv, ?_, ?_⟩
      · rw [hdevice]
      · exact (boot_ok (hnode.node _) w.load).1
      · rw [hdevice, htime, hsignal]
        exact hreading
  · obtain ⟨lastResult, hresult, -⟩ := (hnode.told s.devEui hstate).result
    rw [handleUplink_report hframe hresult] at hp
    cases hp

/-- A config that ingestion makes of a frame was reported, and is confirmed once the frame has been delivered. -/
theorem confirmed_of_sent {s : SentFrame} (hs : SentBy dateParse flash es s) {i : Nat} {time : Option String}
    {rxInfo : Option (List RxInfo)} {now : ℤ} {c : DeviceConfig}
    (hc : handleUplink dateParse now (some (s.uplink time rxInfo)) = .config c) :
    Confirmed dateParse flash (es ++ [.uplink i time rxInfo now]) c := by
  obtain ⟨before, e, after, rfl, w, rfl, hframe⟩ := hs
  have hnode := fleetRun_networkOk dateParse flash before
  rcases hframe with hframe | ⟨hstate, hframe⟩
  · rcases handleUplink_sendReading hframe time rxInfo now with ⟨reason, hdropped⟩ | ⟨p, -, -, -, -, -, hp, -⟩
    · rw [hdropped] at hc
      cases hc
    · rw [hp] at hc
      cases hc
  · obtain ⟨lastResult, hresult, hcommand⟩ := (hnode.told s.devEui hstate).result
    rw [handleUplink_report hframe hresult] at hc
    obtain rfl := Handled.config.inj hc
    refine once_last ⟨i, time, rxInfo, now, rfl, rfl, before, _, after, rfl, w, _, rfl, rfl, ?_, rfl, rfl, rfl, hcommand⟩
    exact (hnode.node s.devEui hstate).1

theorem Genuine.append {p : ReadingPayload} (h : Genuine dateParse flash es p) (e : FleetEvent) :
    Genuine dateParse flash (es ++ [e]) p := ⟨h.1, h.2.1, h.2.2.1, h.2.2.2.append [e]⟩

theorem Confirmed.append {c : DeviceConfig} (h : Confirmed dateParse flash es c) (e : FleetEvent) :
    Confirmed dateParse flash (es ++ [e]) c := Once.append h [e]

/-- What a delivered frame brings is genuine, or confirmed. -/
theorem carries_sent {s : SentFrame} (hs : SentBy dateParse flash es s) (i : Nat) (time : Option String)
    (rxInfo : Option (List RxInfo)) (now : ℤ) :
    (handleUplink dateParse now (some (s.uplink time rxInfo))).exec.Carries
      (Genuine dateParse flash (es ++ [.uplink i time rxInfo now]))
      (Confirmed dateParse flash (es ++ [.uplink i time rxInfo now])) := by
  cases hh : handleUplink dateParse now (some (s.uplink time rxInfo)) with
  | reading p =>
    obtain ⟨hok, haqi, hcategory, htime, hmeasured⟩ := measured_of_sent hs hh
    exact ⟨hok, haqi, hcategory, once_last ⟨i, time, rxInfo, now, rfl, htime, hmeasured⟩⟩
  | config c => exact confirmed_of_sent hs hh
  | ignored => trivial
  | dropped reason => trivial

/-! ## Steps of the service -/

variable (dateParse) in
/-- A step of the fleet leaves the service alone, or is a step of it, a restart or an expiry. -/
theorem step_service (f : Fleet) (e : FleetEvent) :
    (f.step dateParse e).service = f.service ∨
    (∃ a, (f.step dateParse e).service = ((ingestion dateParse).step f.service a).1 ∧
      ∀ uplink now, a = .deliver uplink now → uplink = none ∨ ∃ s ∈ f.sent, ∃ i time rxInfo,
        e = .uplink i time rxInfo now ∧ uplink = some (s.uplink time rxInfo)) ∨
    (f.step dateParse e).service = f.service.restart ∨
    ∃ devEui, (f.step dateParse e).service = f.service.expire devEui := by
  cases e with
  | enqueue devEui command =>
    rw [Fleet.step]
    cases encodeDownlink command with
    | ok data => exact Or.inl rfl
    | error err => exact Or.inl rfl
  | wake devEui w => exact Or.inl rfl
  | powerCut devEui => exact Or.inl rfl
  | uplink i time rxInfo now =>
    rw [Fleet.step]
    cases hs : f.sent[i]? with
    | none => exact Or.inl rfl
    | some s =>
      refine Or.inr (Or.inl ⟨.deliver (some (s.uplink time rxInfo)) now, rfl, ?_⟩)
      intro uplink now' h
      obtain ⟨rfl, rfl⟩ := Action.deliver.inj h
      exact Or.inr ⟨s, List.mem_of_getElem? hs, i, time, rxInfo, rfl, rfl⟩
  | noise now =>
    refine Or.inr (Or.inl ⟨.deliver none now, rfl, ?_⟩)
    intro uplink now' h
    exact Or.inl (Action.deliver.inj h).1.symm
  | resolve i =>
    refine Or.inr (Or.inl ⟨.resolve i, rfl, ?_⟩)
    intro uplink now h
    cases h
  | reject i applied =>
    refine Or.inr (Or.inl ⟨.reject i applied, rfl, ?_⟩)
    intro uplink now h
    cases h
  | restart => exact Or.inr (Or.inr (Or.inl rfl))
  | expire devEui => exact Or.inr (Or.inr (Or.inr ⟨devEui, rfl⟩))

theorem holds_restart {P : ReadingPayload → Prop} {Q : DeviceConfig → Prop} {s : Service} (h : s.Holds P Q) :
    s.restart.Holds P Q := by
  refine holds_with_execs h ?_ [] []
  intro e he
  cases he

theorem holds_expire {P : ReadingPayload → Prop} {Q : DeviceConfig → Prop} {s : Service} (h : s.Holds P Q) (devEui : String) :
    (s.expire devEui).Holds P Q := by
  refine ⟨h.execs, h.readings, fun device p hp => ?_, h.config, h.published⟩
  change Function.update s.latest devEui none device = some p at hp
  rw [Function.update_apply] at hp
  split_ifs at hp
  exact h.latest device p hp

/-- A step keeps what is known of the stores. -/
theorem service_holds_step
    (h : (fleetRun dateParse flash es).service.Holds (Genuine dateParse flash es) (Confirmed dateParse flash es))
    (e : FleetEvent) :
    ((fleetRun dateParse flash es).step dateParse e).service.Holds (Genuine dateParse flash (es ++ [e]))
      (Confirmed dateParse flash (es ++ [e])) := by
  have hlater := h.mono (fun p hp => Genuine.append hp e) (fun c hc => Confirmed.append hc e)
  rcases step_service dateParse (fleetRun dateParse flash es) e with
    hstep | ⟨a, hstep, ha⟩ | hstep | ⟨devEui, hstep⟩
  · rw [hstep]
    exact hlater
  · rw [hstep]
    refine holds_step hlater (fun uplink now hdeliver => ?_)
    rcases ha uplink now hdeliver with rfl | ⟨s, hs, i, time, rxInfo, rfl, rfl⟩
    · trivial
    · exact carries_sent ((fleetRun_networkOk dateParse flash es).sent s hs) i time rxInfo now
  · rw [hstep]
    exact holds_restart hlater
  · rw [hstep]
    exact holds_expire hlater devEui

theorem fleetRun_holds (dateParse : String → Option ℤ) (flash : String → Flash) (es : List FleetEvent) :
    (fleetRun dateParse flash es).service.Holds (Genuine dateParse flash es) (Confirmed dateParse flash es) := by
  have hstep : ∀ es e, (fleetRun dateParse flash es).service.Holds (Genuine dateParse flash es) (Confirmed dateParse flash es) →
      ((fleetRun dateParse flash es).step dateParse e).service.Holds (Genuine dateParse flash (es ++ [e]))
        (Confirmed dateParse flash (es ++ [e])) := by
    intro es e h
    exact service_holds_step h e
  exact @Machine.run_history _ _ _ (fleetMachine dateParse)
    (fun es f => f.service.Holds (Genuine dateParse flash es) (Confirmed dateParse flash es)) (Fleet.start flash)
    holds_start hstep es

/-! ## What is shown has been stored -/

theorem shownStored_restart {s : Service} (h : ShownStored s) : ShownStored s.restart where
  keys := h.keys
  execs := by
    intro e he
    cases he
  latest := h.latest
  published := h.published

theorem shownStored_expire {s : Service} (h : ShownStored s) (devEui : String) : ShownStored (s.expire devEui) where
  keys := h.keys
  execs := h.execs
  latest := by
    intro device p hp
    change Function.update s.latest devEui none device = some p at hp
    rw [Function.update_apply] at hp
    split_ifs at hp
    exact h.latest device p hp
  published := h.published

/-- A step of the fleet keeps that what is shown has been stored. -/
theorem shownStored_fleetStep {f : Fleet} (h : ShownStored f.service) (e : FleetEvent) :
    ShownStored (f.step dateParse e).service := by
  rcases step_service dateParse f e with hstep | ⟨a, hstep, -⟩ | hstep | ⟨devEui, hstep⟩
  · rw [hstep]
    exact h
  · rw [hstep]
    exact shownStored_step h a
  · rw [hstep]
    exact shownStored_restart h
  · rw [hstep]
    exact shownStored_expire h devEui

theorem fleetRun_shownStored (dateParse : String → Option ℤ) (flash : String → Flash) (es : List FleetEvent) :
    ShownStored (fleetRun dateParse flash es).service := by
  have hstart : ShownStored (Fleet.start flash).service := by
    refine ⟨List.nodup_nil, ?_, ?_, ?_⟩
    · intro e he
      cases he
    · intro device p hp
      cases hp
    · intro p hp
      cases hp
  have hstep : ∀ (f : Fleet) (e : FleetEvent), ShownStored f.service → ShownStored (f.step dateParse e).service := by
    intro f e h
    exact shownStored_fleetStep h e
  exact @Machine.run_inv _ _ _ (fleetMachine dateParse) (fun f => ShownStored f.service) hstep _ hstart es

/-! ## The settings on the server -/

/-- A wake in which no sensor answers and the flash works. -/
def Wake.deaf (radio : RadioOutcome) : Wake where
  pm := .failed ⟨-1, by decide⟩ 0 0
  env := .failed ⟨-1, by decide⟩ 0 0 0
  battery := 3900
  load := .healthy
  save := .healthy
  radio := radio

/-- A node is told to sample every ten minutes, and reports it. -/
def retuneRun : List FleetEvent :=
  [.enqueue "a" (.setInterval (.ofInt 600)), .wake "a" (.deaf (.command 0)), .wake "a" (.deaf .quiet), .uplink 1 none none 0,
    .resolve 0]

/-- The server's settings are true. Over every run of the fleet, whatever is lost, repeated, reordered or restarted: a config cached
for a device is one that this device has had in some wake, in range, and its outcome is "none" with opcode 0, or "applied" with the
opcode of a command that was enqueued for this device, that the device received before it reported, and whose value the settings
have. No command of the queue is ever reported as rejected. -/
theorem cached_config_true (dateParse : String → Option ℤ) (flash : String → Flash) (es : List FleetEvent) (devEui : String)
    (c : DeviceConfig) (h : (fleetRun dateParse flash es).service.config devEui = some c) :
    c.deviceId = devEui ∧ Confirmed dateParse flash es c ∧ c.lastResult ≠ .outOfRange ∧ c.lastResult ≠ .malformed := by
  obtain ⟨hdevice, hconfirmed⟩ := (fleetRun_holds dateParse flash es).config devEui c h
  refine ⟨hdevice, hconfirmed, ?_⟩
  obtain ⟨before, e, after, rfl, i, time, rxInfo, now, rfl, -, b, e', a, rfl, w, st, rfl, -, -, -, -, -, hresult⟩ := hconfirmed
  rcases hresult with ⟨hnone, -⟩ | ⟨happlied, -⟩
  · rw [hnone]
    exact ⟨by decide, by decide⟩
  · rw [happlied]
    exact ⟨by decide, by decide⟩

/-- The report of a node that was told to sample every ten minutes. -/
theorem cached_config_true_retune :
    (fleetRun (fun _ => none) (fun _ => ⟨none⟩) retuneRun).service.config "a" =
        some ⟨"a", 600, 0, 0, DownlinkOpcode.setInterval, .applied, 0⟩ ∧
      Confirmed (fun _ => none) (fun _ => ⟨none⟩) retuneRun ⟨"a", 600, 0, 0, DownlinkOpcode.setInterval, .applied, 0⟩ := by
  have h : (fleetRun (fun _ => none) (fun _ => ⟨none⟩) retuneRun).service.config "a" =
      some ⟨"a", 600, 0, 0, DownlinkOpcode.setInterval, .applied, 0⟩ := by decide +kernel
  exact ⟨h, (cached_config_true (fun _ => none) (fun _ => ⟨none⟩) retuneRun "a" _ h).2.1⟩

end

end AirQuality
