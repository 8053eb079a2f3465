import AirQuality.Lib.History
import AirQuality.Lib.Line
import AirQuality.Simulator.Gateway
import AirQuality.Theorems.Fleet

/-!
# What the gateway acknowledges, and to whom it gives a downlink

The waits of the gateway are a line (`Line`): a downlink is an item, a wait comes into the line, and a timeout leaves it. Whatever
becomes of a PULL_RESP, it is acknowledged.
-/

namespace AirQuality

variable (text : DatagramText) (euiBytes : List UInt8)

/-- A datagram that is acknowledged. -/
def isPullResp (msg : List UInt8) : Bool := decide (4 ≤ msg.length) && decide (msg.getD 3 0 = pullResp)

def GatewayEvent.msg? : GatewayEvent → Option (List UInt8)
  | .onMessage msg => some msg
  | _ => none

def GatewayEffect.sent? : GatewayEffect → Option (List UInt8)
  | .send datagram => some datagram
  | _ => none

/-- The outcome for the line. -/
def GatewayEffect.outcome? : GatewayEffect → Option (Line.Outcome (List UInt8))
  | .resolve wait phy => some (.served wait phy)
  | .reject wait => some (.left wait)
  | .handle _ phy => some (.passed phy)
  | .send _ => none

/-- What an event is for the line. -/
def GatewayEvent.line : GatewayEvent → Option (Line.Event (List UInt8))
  | .waitForDownlink => some .come
  | .timeout wait => some (.leave wait)
  | .onMessage msg => if isPullResp msg = true then (pullRespData text msg).map Line.Event.item else none
  | _ => none

/-! ## One step -/

/-- Who waits, as a line; whoever waits has a timeout pending, and nobody else. -/
structure InLine (s : SemtechGateway) (t : Line.State) : Prop where
  waiting : t.waiting = s.downlinkWaiters
  came : t.came = s.waits
  timers : s.timers = s.downlinkWaiters

variable {text euiBytes}

theorem isPullResp_iff {msg : List UInt8} : isPullResp msg = true ↔ ¬msg.length < 4 ∧ msg.getD 3 0 = pullResp := by
  unfold isPullResp
  rw [Bool.and_eq_true, decide_eq_true_iff, decide_eq_true_iff, Nat.not_lt]

theorem onMessage_pullResp {msg : List UInt8} (h : isPullResp msg = true) (s : SemtechGateway) :
    s.onMessage text euiBytes msg = ((s.downlink text msg).1, (s.downlink text msg).2 ++ [.send (ackOf euiBytes msg)]) := by
  obtain ⟨hlength, hkind⟩ := isPullResp_iff.1 h
  unfold SemtechGateway.onMessage
  rw [if_neg hlength, if_pos hkind]

theorem onMessage_other {msg : List UInt8} (h : ¬isPullResp msg = true) (s : SemtechGateway) :
    s.onMessage text euiBytes msg = (s, []) := by
  unfold SemtechGateway.onMessage
  split_ifs with hlength hkind
  · rfl
  · exact absurd (isPullResp_iff.2 ⟨hlength, hkind⟩) h
  · rfl

theorem downlink_none {msg : List UInt8} (h : pullRespData text msg = none) (s : SemtechGateway) :
    s.downlink text msg = (s, []) := by
  unfold SemtechGateway.downlink
  rw [h]

theorem downlink_idle {msg phy : List UInt8} (h : pullRespData text msg = some phy) {s : SemtechGateway}
    (hs : s.downlinkWaiters = []) : s.downlink text msg = (s, [.handle s.dataDownlinkHandler phy]) := by
  unfold SemtechGateway.downlink
  rw [h]
  dsimp only
  rw [hs]

theorem downlink_waiter {msg phy : List UInt8} (h : pullRespData text msg = some phy) {s : SemtechGateway} {waiter : Nat}
    {downlinkWaiters : List Nat} (hs : s.downlinkWaiters = waiter :: downlinkWaiters) :
    s.downlink text msg =
      ({ s with downlinkWaiters, timers := s.timers.filter (fun timer => decide (timer ≠ waiter)) }, [.resolve waiter phy]) := by
  unfold SemtechGateway.downlink
  rw [h]
  dsimp only
  rw [hs]

/-- What a step gives that is no datagram is what the line gives. -/
theorem inLine_step (text : DatagramText) (euiBytes : List UInt8) {s : SemtechGateway} {t : Line.State} (h : InLine s t)
    (hnodup : t.waiting.Nodup) (e : GatewayEvent) :
    InLine (s.step text euiBytes e).1 (Line.step t (e.line text)).1 ∧
      (s.step text euiBytes e).2.filterMap GatewayEffect.outcome? = (Line.step t (e.line text)).2.toList := by
  cases e with
  | sendPullData token => exact ⟨h, rfl⟩
  | uplink token heard phyPayload => exact ⟨h, rfl⟩
  | onDataDownlink => exact ⟨⟨h.waiting, h.came, h.timers⟩, rfl⟩
  | waitForDownlink =>
    refine ⟨⟨?_, ?_, ?_⟩, rfl⟩
    · change t.waiting ++ [t.came] = s.downlinkWaiters ++ [s.waits]
      rw [h.waiting, h.came]
    · exact congrArg (· + 1) h.came
    · exact congrArg (· ++ [s.waits]) h.timers
  | timeout wait =>
    change InLine (s.timeout wait).1 (Line.step t (some (.leave wait))).1 ∧
      (s.timeout wait).2.filterMap GatewayEffect.outcome? = (Line.step t (some (.leave wait))).2.toList
    by_cases hwait : wait ∈ t.waiting
    · have hwaiter : wait ∈ s.downlinkWaiters := h.waiting ▸ hwait
      have hstep : s.timeout wait =
          (⟨s.downlinkWaiters.filter (fun waiter => decide (waiter ≠ wait)), s.dataDownlinkHandler,
            s.timers.filter (fun timer => decide (timer ≠ wait)), s.waits⟩, [.reject wait]) := if_pos (h.timers ▸ hwaiter)
      rw [hstep, Line.step_leave_mem hwait]
      exact ⟨⟨congrArg _ h.waiting, h.came, congrArg _ h.timers⟩, rfl⟩
    · have htimer : wait ∉ s.timers := by
        rw [h.timers, ← h.waiting]
        exact hwait
      have hstep : s.timeout wait = (s, []) := if_neg htimer
      rw [hstep, Line.step_leave_notMem hwait]
      exact ⟨h, rfl⟩
  | onMessage msg =>
    change InLine (s.onMessage text euiBytes msg).1 (Line.step t (GatewayEvent.line text (.onMessage msg))).1 ∧
      (s.onMessage text euiBytes msg).2.filterMap GatewayEffect.outcome? =
        (Line.step t (GatewayEvent.line text (.onMessage msg))).2.toList
    unfold GatewayEvent.line
    by_cases hmsg : isPullResp msg = true
    · rw [onMessage_pullResp hmsg]
      dsimp only
      rw [if_pos hmsg]
      cases hdata : pullRespData text msg with
      | none =>
        rw [downlink_none hdata]
        exact ⟨h, rfl⟩
      | some phy =>
        have hwaiting := h.waiting
        cases hs : s.downlinkWaiters with
        | nil =>
          rw [hs] at hwaiting
          rw [downlink_idle hdata hs, Option.map_some, Line.step_item_nil hwaiting]
          exact ⟨h, rfl⟩
        | cons waiter downlinkWaiters =>
          rw [hs] at hwaiting
          rw [downlink_waiter hdata hs, Option.map_some, Line.step_item_cons hwaiting]
          refine ⟨⟨rfl, h.came, ?_⟩, rfl⟩
          -- the timeout that is cleared is that of the first in line
          rw [hwaiting] at hnodup
          have hfresh := (List.nodup_cons.1 hnodup).1
          change s.timers.filter _ = downlinkWaiters
          rw [h.timers, hs, List.filter_cons_of_neg (by simp), List.filter_eq_self.2]
          intro timer htimer
          rw [decide_eq_true_iff]
          rintro rfl
          exact hfresh htimer
    · rw [onMessage_other hmsg]
      dsimp only
      rw [if_neg hmsg]
      exact ⟨h, rfl⟩

/-! ## Every run -/

def GatewayEffect.phy? : GatewayEffect → Option (List UInt8)
  | .resolve _ phy | .handle _ phy => some phy
  | _ => none

/-- A wait that is over. -/
def GatewayEffect.settled? : GatewayEffect → Option Nat
  | .resolve wait _ | .reject wait => some wait
  | _ => none

def GatewayEffect.resolved? : GatewayEffect → Option Nat
  | .resolve wait _ => some wait
  | _ => none

section

variable (text : DatagramText) (euiBytes : List UInt8)

/-- What the gateway has done in a run, from its start. -/
def gatewayEffects (es : List GatewayEvent) : List GatewayEffect :=
  ((gatewayMachine text euiBytes).outputs SemtechGateway.init es).flatten

/-- Where it has got to. -/
def gatewayRun (es : List GatewayEvent) : SemtechGateway := (gatewayMachine text euiBytes).run SemtechGateway.init es

theorem gatewayEffects_snoc (es : List GatewayEvent) (e : GatewayEvent) :
    gatewayEffects text euiBytes (es ++ [e]) =
      gatewayEffects text euiBytes es ++ ((gatewayRun text euiBytes es).step text euiBytes e).2 := by
  unfold gatewayEffects
  rw [Machine.outputs_snoc, List.flatten_append, List.flatten_singleton]
  rfl

/-- The line of the waits, and the acknowledgements sent. -/
structure GatewayInv (es : List GatewayEvent) (effects : List GatewayEffect) (s : SemtechGateway) : Prop where
  line : ∃ t, InLine s t ∧ Line.LineInv (es.map (GatewayEvent.line text)) (effects.filterMap GatewayEffect.outcome?) t
  acks : (effects.filterMap GatewayEffect.sent?).filter (fun datagram => decide (datagram.getD 3 0 = txAck)) =
    ((es.filterMap GatewayEvent.msg?).filter isPullResp).map (ackOf euiBytes)
  sent : ∀ datagram ∈ effects.filterMap GatewayEffect.sent?, ∃ token₁ token₂ kind rest,
    datagram = protoVersion :: token₁ :: token₂ :: kind :: euiField euiBytes ++ rest

variable {text euiBytes}

/-- A step sends an acknowledgement exactly for a PULL_RESP, and every datagram has the version and the EUI. -/
theorem step_sent (text : DatagramText) (euiBytes : List UInt8) (s : SemtechGateway) (e : GatewayEvent) :
    ((s.step text euiBytes e).2.filterMap GatewayEffect.sent?).filter (fun datagram => decide (datagram.getD 3 0 = txAck)) =
      ((e.msg?.toList).filter isPullResp).map (ackOf euiBytes) ∧
    ∀ datagram ∈ (s.step text euiBytes e).2.filterMap GatewayEffect.sent?, ∃ token₁ token₂ kind rest,
      datagram = protoVersion :: token₁ :: token₂ :: kind :: euiField euiBytes ++ rest := by
  cases e with
  | sendPullData token =>
    refine ⟨rfl, ?_⟩
    intro datagram hdatagram
    obtain rfl := List.mem_singleton.1 hdatagram
    exact ⟨_, _, _, [], (List.append_nil _).symm⟩
  | uplink token heard phyPayload =>
    refine ⟨rfl, ?_⟩
    intro datagram hdatagram
    obtain rfl := List.mem_singleton.1 hdatagram
    exact ⟨_, _, _, _, rfl⟩
  | onDataDownlink => exact ⟨rfl, fun datagram hdatagram => absurd hdatagram List.not_mem_nil⟩
  | waitForDownlink => exact ⟨rfl, fun datagram hdatagram => absurd hdatagram List.not_mem_nil⟩
  | timeout wait =>
    have hnone : (s.timeout wait).2.filterMap GatewayEffect.sent? = [] := by
      unfold SemtechGateway.timeout
      split_ifs <;> rfl
    change ((s.timeout wait).2.filterMap GatewayEffect.sent?).filter _ = [] ∧
      ∀ datagram ∈ (s.timeout wait).2.filterMap GatewayEffect.sent?, _
    rw [hnone]
    exact ⟨rfl, fun datagram hdatagram => absurd hdatagram List.not_mem_nil⟩
  | onMessage msg =>
    change ((s.onMessage text euiBytes msg).2.filterMap GatewayEffect.sent?).filter _ =
        ([msg].filter isPullResp).map (ackOf euiBytes) ∧
      ∀ datagram ∈ (s.onMessage text euiBytes msg).2.filterMap GatewayEffect.sent?, _
    by_cases hmsg : isPullResp msg = true
    · have hnone : (s.downlink text msg).2.filterMap GatewayEffect.sent? = [] := by
        unfold SemtechGateway.downlink
        cases pullRespData text msg with
        | none => rfl
        | some phy => cases s.downlinkWaiters <;> rfl
      rw [onMessage_pullResp hmsg, List.filterMap_append, hnone, List.filter_cons_of_pos hmsg, List.filter_nil]
      refine ⟨rfl, ?_⟩
      intro datagram hdatagram
      obtain rfl := List.mem_singleton.1 hdatagram
      exact ⟨_, _, _, [], (List.append_nil _).symm⟩
    · rw [onMessage_other hmsg, List.filter_cons_of_neg hmsg, List.filter_nil]
      exact ⟨rfl, fun datagram hdatagram => absurd hdatagram List.not_mem_nil⟩

theorem gatewayInv_run (text : DatagramText) (euiBytes : List UInt8) (es : List GatewayEvent) :
    GatewayInv text euiBytes es (gatewayEffects text euiBytes es) (gatewayRun text euiBytes es) := by
  refine @Machine.run_history _ _ _ (gatewayMachine text euiBytes)
    (fun es s => GatewayInv text euiBytes es (gatewayEffects text euiBytes es) s) _ ?_ ?_ es
  · exact ⟨⟨Line.init, ⟨rfl, rfl, rfl⟩, Line.lineInv_init⟩, rfl, fun datagram hdatagram => absurd hdatagram List.not_mem_nil⟩
  · intro es e h
    obtain ⟨t, hin, hline⟩ := h.line
    have hnodup : t.waiting.Nodup := (List.pairwise_append.1 hline.sorted).2.1.imp (fun hlt => Nat.ne_of_lt hlt)
    obtain ⟨hin', hgiven⟩ := inLine_step text euiBytes hin hnodup e
    obtain ⟨hacks, hsent⟩ := step_sent text euiBytes (gatewayRun text euiBytes es) e
    rw [gatewayEffects_snoc]
    refine ⟨⟨_, hin', ?_⟩, ?_, ?_⟩
    · rw [List.map_append, List.filterMap_append]
      exact hgiven ▸ Line.lineInv_step hline (e.line text)
    · rw [List.filterMap_append, List.filter_append, h.acks, hacks, List.filterMap_append, List.filter_append, List.map_append]
      cases e <;> rfl
    · intro datagram hdatagram
      rw [List.filterMap_append] at hdatagram
      rcases List.mem_append.1 hdatagram with hold | hnew
      · exact h.sent datagram hold
      · exact hsent datagram hnew

/-- A downlink goes past the waits only where nobody waits; whether it is heard then is whether the handler was set before. -/
theorem handle_mem {s : SemtechGateway} {e : GatewayEvent} {heard : Bool} {phy : List UInt8}
    (h : GatewayEffect.handle heard phy ∈ (s.step text euiBytes e).2) :
    s.downlinkWaiters = [] ∧ heard = s.dataDownlinkHandler := by
  cases e with
  | sendPullData token => simp [SemtechGateway.step] at h
  | uplink token heard phyPayload => simp [SemtechGateway.step] at h
  | onDataDownlink => simp [SemtechGateway.step] at h
  | waitForDownlink => simp [SemtechGateway.step] at h
  | timeout wait =>
    simp only [SemtechGateway.step, SemtechGateway.timeout] at h
    split_ifs at h <;> simp at h
  | onMessage msg =>
    simp only [SemtechGateway.step] at h
    by_cases hmsg : isPullResp msg = true
    · rw [onMessage_pullResp hmsg] at h
      cases hdata : pullRespData text msg with
      | none =>
        rw [downlink_none hdata] at h
        simp at h
      | some phy' =>
        cases hs : s.downlinkWaiters with
        | nil =>
          rw [downlink_idle hdata hs] at h
          simp only [List.cons_append, List.nil_append, List.mem_cons, GatewayEffect.handle.injEq] at h
          simp only [reduceCtorEq, List.not_mem_nil, or_false] at h
          exact ⟨rfl, h.1⟩
        | cons waiter downlinkWaiters =>
          rw [downlink_waiter hdata hs] at h
          simp at h
    · rw [onMessage_other hmsg] at h
      cases h

theorem step_handler (s : SemtechGateway) (e : GatewayEvent) :
    (s.step text euiBytes e).1.dataDownlinkHandler = (s.dataDownlinkHandler || decide (e = .onDataDownlink)) := by
  cases e with
  | onDataDownlink => simp [SemtechGateway.step]
  | timeout wait =>
    simp only [SemtechGateway.step, SemtechGateway.timeout]
    split_ifs <;> simp
  | onMessage msg =>
    simp only [SemtechGateway.step]
    by_cases hmsg : isPullResp msg = true
    · rw [onMessage_pullResp hmsg]
      unfold SemtechGateway.downlink
      cases pullRespData text msg with
      | none => simp
      | some phy => cases s.downlinkWaiters <;> simp
    · rw [onMessage_other hmsg]
      simp
  | _ => simp [SemtechGateway.step]

/-- A handler that was set stays. -/
theorem run_handler (text : DatagramText) (euiBytes : List UInt8) (es : List GatewayEvent) :
    (gatewayRun text euiBytes es).dataDownlinkHandler = es.any (fun e => decide (e = .onDataDownlink)) := by
  refine @Machine.run_history _ _ _ (gatewayMachine text euiBytes)
    (fun es s => s.dataDownlinkHandler = es.any (fun e => decide (e = .onDataDownlink))) _ rfl ?_ es
  intro es e h
  change ((gatewayRun text euiBytes es).step text euiBytes e).1.dataDownlinkHandler = _
  rw [step_handler, List.any_append]
  exact congrArg₂ _ h (Bool.or_false _).symm

/-- A PHYPayload that an uplink carries comes back as it was from a PULL_RESP that carries its text. -/
theorem pullRespData_rxpk {heard : Heard} {phy msg : List UInt8} (hphy : phy ≠ [])
    (h : (text.parse (msg.drop 4)).bind txpkData = some (.string (rxpk heard phy).data)) : pullRespData text msg = some phy := by
  have hdata : bufferFromBase64 (rxpk heard phy).data = phy := bufferFromBase64_encode phy
  unfold pullRespData
  rw [h]
  split
  · rename_i hnone
    cases hnone
  · rename_i hempty
    rw [Json.string.inj (Option.some.inj hempty)] at hdata
    exact absurd hdata.symm hphy
  · rename_i data _ heq
    obtain rfl := Option.some.inj heq
    exact congrArg some hdata

/-- The items for the line are the PHYPayloads of the PULL_RESPs. -/
theorem items_line (es : List GatewayEvent) :
    (es.map (GatewayEvent.line text)).filterMap (fun e => e.bind Line.Event.item?) =
      ((es.filterMap GatewayEvent.msg?).filter isPullResp).filterMap (pullRespData text) := by
  rw [List.filterMap_map, List.filter_filterMap, List.filterMap_filterMap]
  congr 1
  funext e
  cases e with
  | onMessage msg =>
    change (if isPullResp msg = true then (pullRespData text msg).map Line.Event.item else none).bind Line.Event.item? =
      ((some msg).filter isPullResp).bind (pullRespData text)
    rw [Option.filter_some]
    by_cases hmsg : isPullResp msg = true
    · rw [if_pos hmsg, if_pos hmsg, Option.bind_some]
      cases pullRespData text msg <;> rfl
    · rw [if_neg hmsg, if_neg hmsg]
      rfl
  | _ => rfl

/-- In every run of the gateway, whatever datagrams come and whenever the waits time out: every PULL_RESP, malformed or not, is
acknowledged once, in order, with its token, and nothing else is; every datagram sent carries the EUI; every PHYPayload of a PULL_RESP
is handed on once, in order; a wait ends at most once, and has its timeout pending exactly until then; the waits that get a downlink
get them in the order in which they began; the handler gets only what nobody waits for, provided that it was set by then; and bytes
that an uplink carries come back from a PULL_RESP that carries them in the same text. -/
theorem gateway_run (text : DatagramText) (euiBytes : List UInt8) (es : List GatewayEvent) :
    let effects := gatewayEffects text euiBytes es
    let pullResps := (es.filterMap GatewayEvent.msg?).filter isPullResp
    (effects.filterMap GatewayEffect.sent?).filter (fun datagram => decide (datagram.getD 3 0 = txAck)) =
        pullResps.map (ackOf euiBytes) ∧
      (∀ datagram ∈ effects.filterMap GatewayEffect.sent?, ∃ token₁ token₂ kind rest,
        datagram = protoVersion :: token₁ :: token₂ :: kind :: euiField euiBytes ++ rest) ∧
      effects.filterMap GatewayEffect.phy? = pullResps.filterMap (pullRespData text) ∧
      (effects.filterMap GatewayEffect.settled? ++ (gatewayRun text euiBytes es).downlinkWaiters).Perm
        (List.range (gatewayRun text euiBytes es).waits) ∧
      (gatewayRun text euiBytes es).timers = (gatewayRun text euiBytes es).downlinkWaiters ∧
      (effects.filterMap GatewayEffect.resolved? ++ (gatewayRun text euiBytes es).downlinkWaiters).Pairwise (· < ·) ∧
      (∀ k stepEffects, ((gatewayMachine text euiBytes).outputs SemtechGateway.init es)[k]? = some stepEffects →
        ∀ heard phy, .handle heard phy ∈ stepEffects → (gatewayRun text euiBytes (es.take k)).downlinkWaiters = [] ∧
          heard = (es.take k).any (fun e => decide (e = .onDataDownlink))) ∧
      ∀ heard phy msg, phy ≠ [] → (text.parse (msg.drop 4)).bind txpkData = some (.string (rxpk heard phy).data) →
        pullRespData text msg = some phy := by
  obtain ⟨⟨t, hin, hline⟩, hacks, hsent⟩ := gatewayInv_run text euiBytes es
  refine ⟨hacks, hsent, ?_, ?_, hin.timers, ?_, ?_, fun heard phy msg => pullRespData_rxpk⟩
  · have hphy : GatewayEffect.phy? = fun e => e.outcome?.bind Line.Outcome.item? := by
      funext e
      cases e <;> rfl
    rw [hphy, ← List.filterMap_filterMap, hline.items, items_line]
  · have hperm := hline.perm
    rw [List.filterMap_filterMap, hin.waiting, hin.came] at hperm
    have hsettled : GatewayEffect.settled? = fun e => e.outcome?.bind Line.Outcome.taker? := by
      funext e
      cases e <;> rfl
    rw [hsettled]
    exact hperm
  · have hsorted := hline.sorted
    rw [List.filterMap_filterMap, hin.waiting] at hsorted
    have hresolved : GatewayEffect.resolved? = fun e => e.outcome?.bind Line.Outcome.served? := by
      funext e
      cases e <;> rfl
    rw [hresolved]
    exact hsorted
  · intro k stepEffects hk heard phy hmem
    rw [Machine.outputs_getElem?, Option.map_eq_some_iff] at hk
    obtain ⟨e, -, rfl⟩ := hk
    obtain ⟨hidle, hheard⟩ := handle_mem hmem
    exact ⟨hidle, hheard.trans (run_handler text euiBytes (es.take k))⟩

end

end AirQuality
