import AirQuality.Firmware.Main

/-!
# No downlink strands a node

A statement about every run of wakes and power cuts, from any content of the flash. `NodeOk` is what every value of `s_state` in
a run satisfies: one lemma for each operation that makes a new one.
-/

namespace AirQuality

/-! ## Well-formed states -/

/-- A config in range, and a result that is one of the four codes. -/
def NodeOk (st : AqNodeState) : Prop :=
  aqConfigValid st.cfg = true ∧
    st.lastResult ∈ [aqResultNone, aqResultApplied, aqResultOutOfRange, aqResultMalformed]

theorem aqStateInit_ok (cfg : Option AqConfig) : NodeOk (aqStateInit cfg) :=
  ⟨aqStateInit_valid cfg, List.mem_cons_self⟩

/-- Handling a downlink, whatever its port and its bytes, keeps the state well formed. -/
theorem aqStateOnDownlink_ok {st : AqNodeState} (h : NodeOk st) (fport : UInt8) (buf : Option (List UInt8)) :
    NodeOk (aqStateOnDownlink st fport buf).2 := by
  by_cases hport : fport = aqDownlinkFport
  · subst hport
    rw [aqStateOnDownlink_config]
    refine ⟨aqDownlinkApply_valid buf h.1, ?_⟩
    rcases aqResultOf_cases buf st.cfg with ⟨hr, -⟩ | ⟨hr, -⟩ | ⟨hr, -⟩
    · simp [hr]
    · simp [hr]
    · simp [hr]
  · rw [aqStateOnDownlink_other hport]
    exact h

/-- The uplink of a wake keeps the state well formed. -/
theorem sendUplink_ok {st : AqNodeState} (h : NodeOk st) (coldBoot : Bool) (hal : AqSensorHal) :
    NodeOk (sendUplink coldBoot hal st).2 := by
  rw [sendUplink_state]
  exact h

/-- The state a node holds, once it holds one. -/
def NodeInv (n : Node) : Prop := n.haveState = true → NodeOk n.state

theorem boot_ok {n : Node} (h : NodeInv n) (load : NvsCall) : NodeOk (n.boot load).state := by
  cases hs : n.haveState with
  | true =>
    rw [boot_warm hs]
    exact h hs
  | false =>
    rw [boot_cold hs]
    exact aqStateInit_ok _

theorem uplinked_ok {n : Node} (h : NodeInv n) (w : WakeInput) : NodeOk (n.uplinked w).state :=
  sendUplink_ok (boot_ok h w.load) _ w.hal

theorem appMain_ok {n : Node} (h : NodeInv n) (w : WakeInput) : NodeOk (appMain n w).1.state := by
  cases hdown : w.radio.down with
  | none =>
    rw [appMain_state_none hdown]
    exact uplinked_ok h w
  | some down =>
    rw [appMain_state_some hdown]
    exact aqStateOnDownlink_ok (uplinked_ok h w) down.fport (some down.data)

/-- In every run the node holds a well-formed state or none. -/
theorem nodeRun_inv (flash : Flash) (es : List NodeEvent) : NodeInv (nodeRun flash es) := by
  refine nodeMachine.run_inv ?_ (fun h => nomatch h) es
  intro n e hn
  cases e with
  | wake w => exact fun _ => appMain_ok hn w
  | powerCut => exact fun h => nomatch h

/-! ## Reachable states -/

/-- A value of `aq_node_state_t` that calls of `aq_state_*` can make. -/
inductive AqNodeState.Reachable : AqNodeState → Prop where
  | init (cfg : Option AqConfig) : Reachable (aqStateInit cfg)
  | onDownlink {st : AqNodeState} (h : Reachable st) (fport : UInt8) (buf : Option (List UInt8)) :
      Reachable (aqStateOnDownlink st fport buf).2
  | requestReport {st : AqNodeState} (h : Reachable st) : Reachable (aqStateRequestReport st)
  | reportDone {st : AqNodeState} (h : Reachable st) : Reachable (aqStateReportDone st)

theorem AqNodeState.Reachable.ok {st : AqNodeState} (h : st.Reachable) : NodeOk st := by
  induction h with
  | init cfg => exact aqStateInit_ok cfg
  | onDownlink h fport buf ih => exact aqStateOnDownlink_ok ih fport buf
  | requestReport h ih => exact ih
  | reportDone h ih => exact ih

theorem sendUplink_reachable {st : AqNodeState} (h : st.Reachable) (coldBoot : Bool) (hal : AqSensorHal) :
    (sendUplink coldBoot hal st).2.Reachable := by
  unfold sendUplink
  split_ifs
  · exact h.reportDone
  · exact h.requestReport
  · exact h

theorem wakeStates_reachable_of {n : Node} (h : n.haveState = true → n.state.Reachable) (w : WakeInput) :
    ∀ st ∈ n.wakeStates w, st.Reachable := by
  have hboot : (n.boot w.load).state.Reachable := by
    cases hs : n.haveState with
    | true =>
      rw [boot_warm hs]
      exact h hs
    | false =>
      rw [boot_cold hs]
      exact .init _
  have huplinked : (n.uplinked w).state.Reachable := sendUplink_reachable hboot _ w.hal
  have hmain : (appMain n w).1.state.Reachable := by
    cases hdown : w.radio.down with
    | none =>
      rw [appMain_state_none hdown]
      exact huplinked
    | some down =>
      rw [appMain_state_some hdown]
      exact huplinked.onDownlink _ _
  intro st hst
  simp only [Node.wakeStates, List.mem_cons, List.not_mem_nil, or_false] at hst
  rcases hst with rfl | rfl | rfl
  · exact hboot
  · exact huplinked
  · exact hmain

/-- Every value the state takes in a run is reachable. -/
theorem wakeStates_reachable (flash : Flash) (es : List NodeEvent) (w : WakeInput) :
    ∀ st ∈ (nodeRun flash es).wakeStates w, st.Reachable := by
  have hrun : (nodeRun flash es).haveState = true → (nodeRun flash es).state.Reachable := by
    have hstep : ∀ n e, (n.haveState = true → n.state.Reachable) →
        (nodeMachine.step n e).1.haveState = true → (nodeMachine.step n e).1.state.Reachable := by
      intro n e hn
      cases e with
      | wake v =>
        intro _
        exact wakeStates_reachable_of hn v _ (List.mem_cons_of_mem _ (List.mem_cons_of_mem _ List.mem_cons_self))
      | powerCut => exact fun h => nomatch h
    have hstart : (Node.powerUp flash).haveState = true → (Node.powerUp flash).state.Reachable := nofun
    exact nodeMachine.run_inv hstep hstart es
  exact wakeStates_reachable_of hrun w

/-! ## No downlink strands a node -/

/-- A well-formed state sleeps between two minutes and six hours. -/
theorem aqStateSleepS_bounds {st : AqNodeState} (h : NodeOk st) : 120 ≤ aqStateSleepS st ∧ aqStateSleepS st ≤ 21600 := by
  obtain ⟨hinterval, -, -⟩ := (aqConfigValid_iff st.cfg).1 h.1
  unfold aqStateSleepS
  split_ifs
  · exact ⟨by decide, by decide⟩
  · exact hinterval

/-- No downlink can strand a node. From any content of the flash, after any run of wakes and power cuts, in the next wake:
1. every value of the state is in range and records one of the four results;
2. the sleep that follows lies between 120 s and 21600 s;
3. a downlink on another fPort than 10 leaves the whole state, and the flash, as they were;
4. a config downlink whose recorded result is not "applied" leaves the config as it was. -/
theorem no_downlink_strands_a_node (flash : Flash) (es : List NodeEvent) (w : WakeInput) :
    (∀ st ∈ (nodeRun flash es).wakeStates w, aqConfigValid st.cfg = true ∧
      st.lastResult ∈ [aqResultNone, aqResultApplied, aqResultOutOfRange, aqResultMalformed]) ∧
    (120 ≤ (appMain (nodeRun flash es) w).2.sleepS ∧ (appMain (nodeRun flash es) w).2.sleepS ≤ 21600) ∧
    (∀ down, w.radio.down = some down → down.fport ≠ aqDownlinkFport →
      (appMain (nodeRun flash es) w).1 = (nodeRun flash es).uplinked w) ∧
    (∀ data, w.configDownlink = some data → (appMain (nodeRun flash es) w).1.state.lastResult ≠ aqResultApplied →
      (appMain (nodeRun flash es) w).1.state.cfg = ((nodeRun flash es).uplinked w).state.cfg) := by
  have hinv := nodeRun_inv flash es
  refine ⟨?_, aqStateSleepS_bounds (appMain_ok hinv w), ?_, ?_⟩
  · intro st hst
    simp only [Node.wakeStates, List.mem_cons, List.not_mem_nil, or_false] at hst
    rcases hst with rfl | rfl | rfl
    · exact boot_ok hinv w.load
    · exact uplinked_ok hinv w
    · exact appMain_ok hinv w
  · intro down hdown hport
    have hnone : w.configDownlink = none := by simp [WakeInput.configDownlink, hdown, hport]
    rw [appMain_node, handleDownlink_none hnone]
  · intro data hdata hresult
    rw [appMain_state_config hdata] at hresult ⊢
    exact aqStateOnDownlink_rejected hresult

end AirQuality
