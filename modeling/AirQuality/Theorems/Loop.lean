import AirQuality.Theorems.Fleet

/-!
# The loop of a config command is closed

From the downlink that a node receives to the settings the server shows: what happens to the other devices, on the air and in the
service in between does not matter.
-/

namespace AirQuality

/-- The event is one of the node of the device. -/
def FleetEvent.OfNode (devEui : String) : FleetEvent → Prop
  | .wake d _ | .powerCut d => d = devEui
  | _ => False

/-- The event may end the call that an execution of ingestion awaits. -/
def FleetEvent.Ends (m : Nat) : FleetEvent → Prop
  | .resolve i | .reject i _ => i = m
  | .restart => True
  | _ => False

section

variable {dateParse : String → Option ℤ}

/-! ## What events leave alone -/

/-- The fleet after a run of events, from any fleet. -/
theorem fleetRun_append (dateParse : String → Option ℤ) (flash : String → Flash) (es fs : List FleetEvent) :
    fleetRun dateParse flash (es ++ fs) = (fleetMachine dateParse).run (fleetRun dateParse flash es) fs :=
  (fleetMachine dateParse).run_append _ es fs

theorem node_step {devEui : String} {e : FleetEvent} (h : ¬e.OfNode devEui) (f : Fleet) :
    (f.step dateParse e).node devEui = f.node devEui := by
  cases e with
  | enqueue d command =>
    rw [Fleet.step]
    cases encodeDownlink command with
    | ok data => rfl
    | error err => rfl
  | wake d w => rw [step_wake_node, if_neg (fun hd => h hd.symm)]
  | powerCut d => rw [step_powerCut_node, if_neg (fun hd => h hd.symm)]
  | uplink i time rxInfo now =>
    rw [Fleet.step]
    cases f.sent[i]? with
    | none => rfl
    | some s => rfl
  | _ => rfl

/-- A node is as it was after events that are not its own. -/
theorem node_run {devEui : String} {es : List FleetEvent} (h : ∀ e ∈ es, ¬e.OfNode devEui) (f : Fleet) :
    ((fleetMachine dateParse).run f es).node devEui = f.node devEui := by
  induction es generalizing f with
  | nil => rfl
  | cons e es ih =>
    rw [Machine.run_cons, ih (fun e' he' => h e' (List.mem_cons_of_mem e he'))]
    exact node_step (h e List.mem_cons_self) f

theorem sent_step {i : Nat} {s : SentFrame} {f : Fleet} (h : f.sent[i]? = some s) (e : FleetEvent) :
    (f.step dateParse e).sent[i]? = some s := by
  cases e with
  | enqueue d command =>
    rw [Fleet.step]
    cases encodeDownlink command with
    | ok data => exact h
    | error err => exact h
  | wake d w => exact (List.getElem?_append_left (List.getElem?_eq_some_iff.1 h).1).trans h
  | uplink j time rxInfo now =>
    rw [Fleet.step]
    cases f.sent[j]? with
    | none => exact h
    | some s' => exact h
  | _ => exact h

/-- A frame that was sent stays where it is. -/
theorem sent_run {i : Nat} {s : SentFrame} {f : Fleet} (h : f.sent[i]? = some s) (es : List FleetEvent) :
    ((fleetMachine dateParse).run f es).sent[i]? = some s := by
  induction es generalizing f with
  | nil => exact h
  | cons e es ih =>
    rw [Machine.run_cons]
    exact ih (sent_step h e)

theorem exec_step {m : Nat} {x : Exec} {e : FleetEvent} (he : ¬e.Ends m) {f : Fleet} (h : f.service.execs[m]? = some x) :
    (f.step dateParse e).service.execs[m]? = some x := by
  have hdeliver : ∀ message now, (f.service.deliver dateParse message now).execs[m]? = some x := by
    intro message now
    exact (List.getElem?_append_left (List.getElem?_eq_some_iff.1 h).1).trans h
  have hmodify : ∀ {i : Nat} {returned : Bool}, i ≠ m → (f.service.execs.modify i (Exec.after · returned))[m]? = some x := by
    intro i returned hi
    rw [List.getElem?_modify, h, Option.map_eq_map, Option.map_some, if_neg hi]
  cases e with
  | enqueue d command =>
    rw [Fleet.step]
    cases encodeDownlink command with
    | ok data => exact h
    | error err => exact h
  | uplink i time rxInfo now =>
    rw [Fleet.step]
    cases f.sent[i]? with
    | none => exact h
    | some s => exact hdeliver _ _
  | noise now => exact hdeliver _ _
  | resolve i =>
    change (f.service.resolve i).execs[m]? = some x
    rw [resolve_execs]
    exact hmodify he
  | reject i applied =>
    change (f.service.reject i applied).execs[m]? = some x
    rw [reject_execs]
    exact hmodify he
  | restart => exact absurd trivial he
  | wake d w => exact h
  | powerCut d => exact h
  | expire d => exact h

/-- An execution waits for as long as no event ends its call. -/
theorem exec_run {m : Nat} {x : Exec} {es : List FleetEvent} (hes : ∀ e ∈ es, ¬e.Ends m) {f : Fleet}
    (h : f.service.execs[m]? = some x) : ((fleetMachine dateParse).run f es).service.execs[m]? = some x := by
  induction es generalizing f with
  | nil => exact h
  | cons e es ih =>
    rw [Machine.run_cons]
    exact ih (fun e' he' => hes e' (List.mem_cons_of_mem e he')) (exec_step (hes e List.mem_cons_self) h)

/-! ## The loop -/

variable {flash : String → Flash}

/-- After a wake that received a command, the node has its value, and owes a report that says so. -/
theorem received_wake {es : List FleetEvent} {devEui : String} {w : Wake} {command : DownlinkCommand} {data : List UInt8}
    (hencoded : encodeDownlink command = .ok data)
    (hdata : ((fleetRun dateParse flash es).wakeInput devEui w).configDownlink = some data) :
    let n := (fleetRun dateParse flash (es ++ [.wake devEui w])).node devEui
    command.Applied (bootState dateParse flash es devEui w).cfg n.state.cfg ∧ n.owed = some true ∧
      n.state.lastCmd = command.opcode ∧ n.state.lastResult = aqResultApplied := by
  have hnetwork := fleetRun_networkOk dateParse flash es
  rw [fleetRun_snoc, step_wake_node, if_pos rfl]
  set n := (fleetRun dateParse flash es).node devEui
  set input := (fleetRun dateParse flash es).wakeInput devEui w with hinput
  obtain ⟨new, happly, happ⟩ := aqDownlinkApply_encoded hencoded (uplinked_ok (hnetwork.node devEui) input).1
  have hdue : aqStateReportDue (appMain n input).1.state = true := by
    rw [appMain_due, hdata]
    simp
  have hstate : (appMain n input).1.state =
      { cfg := new, reportPending := 1, lastCmd := command.opcode, lastResult := aqResultApplied } := by
    rw [appMain_state_config hdata, aqStateOnDownlink_config, happly, encodeDownlink_opcode hencoded]
    rfl
  refine ⟨?_, ?_, ?_, ?_⟩
  · rw [hstate]
    rw [uplinked_cfg] at happ
    exact happ
  · rw [Node.owed, if_pos (appMain_haveState n input), hdue]
  · rw [hstate]
  · rw [hstate]

/-- A command is confirmed on the server. A node receives a command of the queue in a wake; nothing but other devices and the
service moves until its next wake. Then its settings are those it booted with, with the value of the command, and if the frame of
the next wake is delivered at some later point and no restart or failure ends its execution before its call returns, the cached
config of the device is that: these settings, the opcode of the command, applied, at the time of the delivery. -/
theorem command_confirmed (dateParse : String → Option ℤ) (flash : String → Flash) (es mid : List FleetEvent) (devEui : String)
    (w : Wake) (command : DownlinkCommand) (data : List UInt8) (hencoded : encodeDownlink command = .ok data)
    (hdata : ((fleetRun dateParse flash es).wakeInput devEui w).configDownlink = some data)
    (hmid : ∀ e ∈ mid, ¬e.OfNode devEui) :
    let told := fleetRun dateParse flash (es ++ .wake devEui w :: mid)
    let cfg := (told.node devEui).state.cfg
    command.Applied (bootState dateParse flash es devEui w).cfg cfg ∧
      ∀ (w' : Wake) (rest more : List FleetEvent) (time : Option String) (rxInfo : Option (List RxInfo)) (now : ℤ),
        let reported := fleetRun dateParse flash (es ++ .wake devEui w :: mid ++ .wake devEui w' :: rest)
        let m := reported.service.execs.length
        (∀ e ∈ more, ¬e.Ends m) →
        (fleetRun dateParse flash (es ++ .wake devEui w :: mid ++ .wake devEui w' :: rest ++
          .uplink told.sent.length time rxInfo now :: more ++ [.resolve m])).service.config devEui =
            some {
              deviceId := devEui
              intervalS := cfg.sampleIntervalS.toNat
              pmOffset := cfg.pmOffsetX10.toInt / 10
              temperatureOffset := cfg.tempOffsetX100.toInt / 100
              lastCommand := command.opcode
              lastResult := .applied
              reportedAt := uplinkTime dateParse now time } := by
  intro told cfg
  obtain ⟨happlied, howed, hcmd, hresult⟩ := received_wake hencoded hdata
  -- the node is as the wake left it
  have hnode : told.node devEui = (fleetRun dateParse flash (es ++ [.wake devEui w])).node devEui := by
    change (fleetRun dateParse flash (es ++ .wake devEui w :: mid)).node devEui = _
    rw [List.append_cons, fleetRun_append]
    exact node_run hmid _
  rw [← hnode] at happlied howed hcmd hresult
  refine ⟨happlied, ?_⟩
  intro w' rest more time rxInfo now reported m hmore
  -- its next wake sends the report
  have hreport : (told.step dateParse (.wake devEui w')).sent[told.sent.length]? =
      some ⟨devEui, ⟨aqReportFport, aqConfigReportEncode (told.node devEui).state⟩⟩ := by
    have hframe := appMain_sent (told.node devEui) (told.wakeInput devEui w')
    rw [if_pos howed] at hframe
    change (told.sent ++ [⟨devEui, (appMain (told.node devEui) (told.wakeInput devEui w')).2.frame⟩])[told.sent.length]? = _
    rw [List.getElem?_concat_length, hframe]
  have hreported : reported = (fleetMachine dateParse).run (told.step dateParse (.wake devEui w')) rest := by
    change fleetRun dateParse flash (es ++ .wake devEui w :: mid ++ .wake devEui w' :: rest) = _
    rw [fleetRun_append]
    rfl
  have hsent : reported.sent[told.sent.length]? =
      some ⟨devEui, ⟨aqReportFport, aqConfigReportEncode (told.node devEui).state⟩⟩ := by
    rw [hreported]
    exact sent_run hreport rest
  -- its delivery starts an execution that reports the settings
  have hhandled := @handleUplink_report dateParse ⟨devEui, ⟨aqReportFport, aqConfigReportEncode (told.node devEui).state⟩⟩ _ _ rfl
    (show ConfigResult.ofByte? (told.node devEui).state.lastResult = some .applied by rw [hresult]; rfl) time rxInfo now
  have hexec : (reported.step dateParse (.uplink told.sent.length time rxInfo now)).service.execs[m]? =
      some (.reporting ⟨devEui, cfg.sampleIntervalS.toNat, cfg.pmOffsetX10.toInt / 10, cfg.tempOffsetX100.toInt / 100,
        command.opcode, .applied, uplinkTime dateParse now time⟩) := by
    rw [Fleet.step, hsent]
    change (reported.service.execs ++ [_])[m]? = _
    rw [List.getElem?_concat_length, hhandled, hcmd]
    rfl
  -- and the execution waits until its call returns
  have hwait := @exec_run dateParse m _ more hmore _ hexec
  have hrun : fleetRun dateParse flash (es ++ .wake devEui w :: mid ++ .wake devEui w' :: rest ++
      .uplink told.sent.length time rxInfo now :: more) =
      (fleetMachine dateParse).run (reported.step dateParse (.uplink told.sent.length time rxInfo now)) more :=
    fleetRun_append dateParse flash _ _
  rw [fleetRun_snoc, hrun]
  change (Service.resolve _ m).config devEui = _
  rw [Service.resolve, hwait]
  simp [Exec.awaits, Service.effect]

/-- A node is told to sample every ten minutes; another loses its power before it reports. -/
theorem command_confirmed_retune :
    (fleetRun (fun _ => none) (fun _ => ⟨none⟩)
      [.enqueue "a" (.setInterval (.ofInt 600)), .wake "a" (.deaf (.command 0)), .powerCut "b", .wake "a" (.deaf .quiet),
        .uplink 1 none none 0, .resolve 0]).service.config "a" =
      some ⟨"a", 600, 0, 0, DownlinkOpcode.setInterval, .applied, 0⟩ := by
  have hmid : ∀ e ∈ [FleetEvent.powerCut "b"], ¬e.OfNode "a" := by simp [FleetEvent.OfNode]
  have hmore : ∀ e ∈ ([] : List FleetEvent), ¬e.Ends 0 := by simp
  have h := (command_confirmed (fun _ => none) (fun _ => ⟨none⟩) [.enqueue "a" (.setInterval (.ofInt 600))] [.powerCut "b"] "a"
    (.deaf (.command 0)) (.setInterval (.ofInt 600)) [1, 0x58, 2] (by decide +kernel) (by decide +kernel) hmid).2
    (.deaf .quiet) [] [] none none 0
  have hsent : (fleetRun (fun _ => none) (fun _ => ⟨none⟩) ([.enqueue "a" (.setInterval (.ofInt 600))] ++
      .wake "a" (.deaf (.command 0)) :: [.powerCut "b"])).sent.length = 1 := by decide +kernel
  have hexecs : (fleetRun (fun _ => none) (fun _ => ⟨none⟩) ([.enqueue "a" (.setInterval (.ofInt 600))] ++
      .wake "a" (.deaf (.command 0)) :: [.powerCut "b"] ++ .wake "a" (.deaf .quiet) :: [])).service.execs.length = 0 := by
    decide +kernel
  have hcfg : ((fleetRun (fun _ => none) (fun _ => ⟨none⟩) ([.enqueue "a" (.setInterval (.ofInt 600))] ++
      .wake "a" (.deaf (.command 0)) :: [.powerCut "b"])).node "a").state.cfg = ⟨600, 0, 0⟩ := by decide +kernel
  simp only [hsent, hexecs, hcfg] at h
  exact (h hmore).trans (by decide +kernel)

end

end AirQuality
