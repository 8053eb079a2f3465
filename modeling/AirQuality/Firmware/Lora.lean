import AirQuality.Lib.Machine
import Mathlib.Data.List.Basic

/-!
# The LoRaWAN adapter

`firmware/adapters/esp32/lora_esp32.{h,cpp}` over RadioLib, which is not part of the repository. Its node object is a DevNonce
counter and a session; an OTAA activation without a session transmits a Join Request with the counter and advances it, whether a
Join Accept comes back or not, and `sendReceive` transmits with the session's FCntUp and advances it, whatever status it then
returns. Only RTC RAM survives deep sleep.
-/

namespace AirQuality

/-- `AQ_LORAWAN_DOWNLINK_MAX` -/
def aqLorawanDownlinkMax : Nat := 242

/-- `aq_lorawan_downlink_t` with `received` set: what arrived in the receive windows after an uplink. -/
structure LorawanDownlink where
  fport : UInt8
  data : List UInt8
deriving DecidableEq

/-- What `lorawan_send` gives back: -1, and then `down->received` is 0, or 0 with the downlink received, if any. -/
inductive LorawanResult where
  | failed
  | sent (down : Option LorawanDownlink)
deriving DecidableEq

/-- The downlink handed back: `none` when `down->received` is 0. -/
def LorawanResult.down : LorawanResult → Option LorawanDownlink
  | .failed => none
  | .sent down => down

/-- An uplink: what `lorawan_send` is asked to send. -/
structure Frame where
  fport : UInt8
  payload : List UInt8
deriving DecidableEq

/-! ## RadioLib -/

/-- A LoRaWAN session: the DevNonce of the Join Request that opened it, which its keys are derived from, and the FCntUp of its
next uplink. -/
structure Session where
  devNonce : Nat
  fCntUp : Nat
deriving DecidableEq

/-- `LoRaWANNode`, as far as the adapter relies on it. -/
structure LoRaWANNode where
  devNonce : Nat
  session : Option Session
deriving DecidableEq

/-- The values RadioLib starts from: the DevNonce of a fresh node object, and the FCntUp of a new session. -/
structure RadioLib where
  devNonce : Nat
  fCntUp : Nat

/-- A node object as it is constructed. -/
def RadioLib.node (lib : RadioLib) : LoRaWANNode := { devNonce := lib.devNonce, session := none }

/-- What `sendReceive` does with a session: a frame that is not refused goes on air, and a status that is not negative says so. -/
structure SendReceive where
  onAir : Bool
  state : Int
  rx : List UInt8
  rxFport : UInt8
  onAir_of_ok : 0 ≤ state → onAir = true

/-- What the application asks of the adapter in one wake, and what the radio and the network answer. -/
structure LoraWake where
  frame : Frame
  /-- `s_radio.begin()` succeeds. -/
  beginOk : Bool
  /-- RadioLib accepts the session buffer it is given. -/
  restorable : Bool
  /-- A Join Request, if one is sent, is answered by a Join Accept. -/
  accept : Bool
  send : SendReceive

/-- An uplink on air, with the session it belongs to. -/
structure Uplink where
  devNonce : Nat
  fCntUp : Nat
  frame : Frame
deriving DecidableEq

/-- What goes over the air in a wake: the DevNonce of a Join Request, whether a Join Accept answers it, and an uplink. -/
structure Air where
  joinRequest : Option Nat
  joinAccept : Bool
  uplink : Option Uplink
deriving DecidableEq

/-- The states `activateOTAA` returns that the adapter tells apart. -/
inductive ActivateState where
  | newSession
  | sessionRestored
  | failed
deriving DecidableEq

/-- `setBufferNonces`: the DevNonce counter in the buffer. -/
def LoRaWANNode.setBufferNonces (node : LoRaWANNode) (buffer : Nat) : LoRaWANNode := { node with devNonce := buffer }

/-- `setBufferSession`: the session in the buffer, if RadioLib accepts it. -/
def LoRaWANNode.setBufferSession (node : LoRaWANNode) (restorable : Bool) (buffer : Option Session) : LoRaWANNode :=
  if restorable = true then { node with session := buffer } else node

/-- `activateOTAA`: resume the session, or send a Join Request and wait for the Join Accept. The state, the node object, and the
DevNonce of the Join Request, if one was sent. -/
def LoRaWANNode.activateOTAA (lib : RadioLib) (node : LoRaWANNode) (accept : Bool) :
    ActivateState × LoRaWANNode × Option Nat :=
  match node.session with
  | some _ => (.sessionRestored, node, none)
  | none =>
    if accept = true then
      (.newSession, ⟨node.devNonce + 1, some ⟨node.devNonce, lib.fCntUp⟩⟩, some node.devNonce)
    else (.failed, ⟨node.devNonce + 1, none⟩, some node.devNonce)

/-- `sendReceive`: the status, the node object, and the uplink, if one goes on air. Without a session it refuses. -/
def LoRaWANNode.sendReceive (node : LoRaWANNode) (frame : Frame) (a : SendReceive) : Int × LoRaWANNode × Option Uplink :=
  match node.session with
  | none => (-1, node, none)
  | some s =>
    if a.onAir = true then
      (a.state, { node with session := some { s with fCntUp := s.fCntUp + 1 } }, some ⟨s.devNonce, s.fCntUp, frame⟩)
    else (a.state, node, none)

/-! ## The adapter -/

/-- The adapter's RTC RAM: the two buffers, and whether they have been written. -/
structure LoraRtc where
  sNonces : Nat
  sHaveNonces : Bool
  sSession : Option Session
  sHaveSession : Bool
deriving DecidableEq

/-- RTC RAM when the power comes up. -/
def LoraRtc.powerUp : LoraRtc := ⟨0, false, none, false⟩

/-- What deep sleep loses: `s_joined` and the node object. -/
structure LoraRam where
  sJoined : Bool
  sNode : LoRaWANNode
deriving DecidableEq

/-- The adapter's RAM after any boot. -/
def LoraRam.boot (lib : RadioLib) : LoraRam := { sJoined := false, sNode := lib.node }

/-- `lorawan_save_state` -/
def lorawanSaveState (node : LoRaWANNode) : LoraRtc := ⟨node.devNonce, true, node.session, true⟩

/-- `lorawan_join`: restore a persisted session if there is one, else perform a fresh OTAA join. The return code, RTC RAM, RAM,
and the DevNonce of the Join Request, if one was sent. -/
def lorawanJoin (lib : RadioLib) (w : LoraWake) (rtc : LoraRtc) (ram : LoraRam) : Int × LoraRtc × LoraRam × Option Nat :=
  if w.beginOk = false then (-1, rtc, ram, none)
  else
    let node := if rtc.sHaveNonces = true then ram.sNode.setBufferNonces rtc.sNonces else ram.sNode
    let node := if rtc.sHaveSession = true then node.setBufferSession w.restorable rtc.sSession else node
    let (state, node, joinRequest) := node.activateOTAA lib w.accept
    match state with
    | .failed => (-1, rtc, { ram with sNode := node }, joinRequest) -- the advanced DevNonce stays in RAM
    | .newSession => (0, lorawanSaveState node, { sJoined := true, sNode := node }, joinRequest)
    | .sessionRestored => (0, rtc, { sJoined := true, sNode := node }, joinRequest)

/-- The downlink `lorawan_send` hands back for a status of `sendReceive`. -/
def lorawanDown (a : SendReceive) (state : Int) : Option LorawanDownlink :=
  if 0 < state ∧ a.rx.length > 0 then some ⟨a.rxFport, a.rx.take aqLorawanDownlinkMax⟩ else none

/-- `lorawan_send`, once joined: the uplink and its receive windows. -/
def lorawanUplink (w : LoraWake) (rtc : LoraRtc) (ram : LoraRam) : LorawanResult × LoraRtc × LoraRam × Option Uplink :=
  let (state, node, uplink) := ram.sNode.sendReceive w.frame w.send
  if state < 0 then (.failed, rtc, { ram with sNode := node }, uplink) -- the advanced FCntUp stays in RAM
  else (.sent (lorawanDown w.send state), lorawanSaveState node, { ram with sNode := node }, uplink)

/-- `lorawan_send`: what it gives back, RTC RAM, RAM, and what went over the air. -/
def lorawanSend (lib : RadioLib) (w : LoraWake) (rtc : LoraRtc) (ram : LoraRam) :
    LorawanResult × LoraRtc × LoraRam × Air :=
  if ram.sJoined = true then
    let (result, rtc, ram, uplink) := lorawanUplink w rtc ram
    (result, rtc, ram, ⟨none, false, uplink⟩)
  else
    let (rc, rtc, ram, joinRequest) := lorawanJoin lib w rtc ram
    if rc ≠ 0 then (.failed, rtc, ram, ⟨joinRequest, false, none⟩)
    else
      let (result, rtc, ram, uplink) := lorawanUplink w rtc ram
      (result, rtc, ram, ⟨joinRequest, joinRequest.isSome, uplink⟩)

/-- The adapter over wakes separated by deep sleep, in each of which the application sends once. -/
def loraMachine (lib : RadioLib) : Machine LoraRtc LoraWake (LorawanResult × Air) where
  step rtc w :=
    let (result, rtc, _, air) := lorawanSend lib w rtc (LoraRam.boot lib)
    (rtc, result, air)

/-! ## What a wake can do -/

/-- The DevNonce the next Join Request carries: the saved one, or the initial one. -/
def LoraRtc.nonce (lib : RadioLib) (rtc : LoraRtc) : Nat := if rtc.sHaveNonces = true then rtc.sNonces else lib.devNonce

/-- The session in RTC RAM, if one was saved. -/
def LoraRtc.session (rtc : LoraRtc) : Option Session := if rtc.sHaveSession = true then rtc.sSession else none

/-- The radio works and no session is restored: the wake sends a Join Request. -/
def JoinRequested (rtc : LoraRtc) (w : LoraWake) : Prop :=
  w.beginOk = true ∧ ¬(rtc.sHaveSession = true ∧ w.restorable = true)

instance (rtc : LoraRtc) (w : LoraWake) : Decidable (JoinRequested rtc w) := inferInstanceAs (Decidable (_ ∧ _))

/-- The wake sends a Join Request and gets a Join Accept. -/
def Joined (rtc : LoraRtc) (w : LoraWake) : Prop := JoinRequested rtc w ∧ w.accept = true

instance (rtc : LoraRtc) (w : LoraWake) : Decidable (Joined rtc w) := inferInstanceAs (Decidable (_ ∧ _))

/-- The wake has a session, restored or new, and its uplink goes on air. -/
def UplinkOnAir (rtc : LoraRtc) (w : LoraWake) : Prop :=
  w.beginOk = true ∧ (rtc.sHaveSession = true ∧ w.restorable = true ∨ w.accept = true) ∧ w.send.onAir = true

instance (rtc : LoraRtc) (w : LoraWake) : Decidable (UplinkOnAir rtc w) := inferInstanceAs (Decidable (_ ∧ _ ∧ _))

/-- A saved session comes with saved nonces, and the counter is past the DevNonce that opened the session. -/
def RtcOk (rtc : LoraRtc) : Prop :=
  rtc.sHaveSession = true → rtc.sHaveNonces = true ∧ ∃ s, rtc.sSession = some s ∧ s.devNonce < rtc.sNonces

theorem powerUp_rtcOk : RtcOk LoraRtc.powerUp := nofun

/-- A join with a session to restore restores it and sends nothing. -/
theorem lorawanJoin_restored (lib : RadioLib) {w : LoraWake} {rtc : LoraRtc} (hbegin : w.beginOk = true)
    (hhave : rtc.sHaveSession = true) (hrestorable : w.restorable = true) {s : Session} (hs : rtc.sSession = some s) :
    lorawanJoin lib w rtc (LoraRam.boot lib) = (0, rtc, ⟨true, ⟨rtc.nonce lib, some s⟩⟩, none) := by
  cases hnonces : rtc.sHaveNonces <;>
    simp [lorawanJoin, hbegin, hhave, hrestorable, hs, hnonces, LoRaWANNode.setBufferSession, LoRaWANNode.setBufferNonces,
      LoRaWANNode.activateOTAA, LoraRam.boot, RadioLib.node, LoraRtc.nonce]

/-- A join without a session to restore sends a Join Request with the counter, and saves its state if it is answered. -/
theorem lorawanJoin_requested (lib : RadioLib) {w : LoraWake} {rtc : LoraRtc} (h : JoinRequested rtc w) :
    lorawanJoin lib w rtc (LoraRam.boot lib) =
      if w.accept = true then
        (0, ⟨rtc.nonce lib + 1, true, some ⟨rtc.nonce lib, lib.fCntUp⟩, true⟩,
          ⟨true, ⟨rtc.nonce lib + 1, some ⟨rtc.nonce lib, lib.fCntUp⟩⟩⟩, some (rtc.nonce lib))
      else (-1, rtc, ⟨false, ⟨rtc.nonce lib + 1, none⟩⟩, some (rtc.nonce lib)) := by
  obtain ⟨hbegin, hnone⟩ := h
  have hsession : ∀ node : LoRaWANNode,
      (if rtc.sHaveSession = true then node.setBufferSession w.restorable rtc.sSession else node) = node := by
    intro node
    split_ifs with hhave
    · exact if_neg (fun hrestorable => hnone ⟨hhave, hrestorable⟩)
    · rfl
  simp only [lorawanJoin, hbegin, hsession]
  cases hnonces : rtc.sHaveNonces <;> cases w.accept <;>
    simp [hnonces, LoRaWANNode.setBufferNonces, LoRaWANNode.activateOTAA, LoraRam.boot, RadioLib.node, LoraRtc.nonce,
      lorawanSaveState]

/-- An uplink with a session goes on air or not, and its counters are saved if the status is not negative. -/
theorem lorawanUplink_session (w : LoraWake) (rtc : LoraRtc) (joined : Bool) (n : Nat) (s : Session) :
    (lorawanUplink w rtc ⟨joined, ⟨n, some s⟩⟩).2.1 =
      (if 0 ≤ w.send.state then ⟨n, true, some ⟨s.devNonce, s.fCntUp + 1⟩, true⟩ else rtc) ∧
    (lorawanUplink w rtc ⟨joined, ⟨n, some s⟩⟩).2.2.2 =
      if w.send.onAir = true then some ⟨s.devNonce, s.fCntUp, w.frame⟩ else none := by
  by_cases hstate : 0 ≤ w.send.state
  · have hair := w.send.onAir_of_ok hstate
    simp [lorawanUplink, LoRaWANNode.sendReceive, hair, hstate, Int.not_lt.2 hstate, lorawanSaveState]
  · cases hair : w.send.onAir <;> simp [lorawanUplink, LoRaWANNode.sendReceive, hair, hstate, Int.not_le.1 hstate]

theorem loraMachine_join_failed {lib : RadioLib} {w : LoraWake} {rtc rtc' : LoraRtc} {ram : LoraRam} {joinRequest : Option Nat}
    (h : lorawanJoin lib w rtc (LoraRam.boot lib) = (-1, rtc', ram, joinRequest)) :
    (loraMachine lib).step rtc w = (rtc', .failed, ⟨joinRequest, false, none⟩) := by
  simp [loraMachine, lorawanSend, LoraRam.boot] at h ⊢
  simp [h]

theorem loraMachine_joined {lib : RadioLib} {w : LoraWake} {rtc rtc' : LoraRtc} {ram : LoraRam} {joinRequest : Option Nat}
    (h : lorawanJoin lib w rtc (LoraRam.boot lib) = (0, rtc', ram, joinRequest)) :
    (loraMachine lib).step rtc w =
      ((lorawanUplink w rtc' ram).2.1, (lorawanUplink w rtc' ram).1,
        ⟨joinRequest, joinRequest.isSome, (lorawanUplink w rtc' ram).2.2.2⟩) := by
  simp [loraMachine, lorawanSend, LoraRam.boot] at h ⊢
  simp [h]

/-- The session a wake sends with: the one it opens, or the saved one. -/
def LoraWake.session (lib : RadioLib) (rtc : LoraRtc) (w : LoraWake) : Option Session :=
  if Joined rtc w then some ⟨rtc.nonce lib, lib.fCntUp⟩ else rtc.session

/-- A wake whose radio does not start does nothing. -/
theorem loraMachine_silent (lib : RadioLib) (rtc : LoraRtc) {w : LoraWake} (h : w.beginOk = false) :
    (loraMachine lib).step rtc w = (rtc, .failed, ⟨none, false, none⟩) :=
  loraMachine_join_failed (if_pos h)

/-- RTC RAM after the uplink of a wake with a session, given RTC RAM before it. -/
def savedUplink (w : LoraWake) (rtc : LoraRtc) (n : Nat) (s : Session) : LoraRtc :=
  if 0 ≤ w.send.state then ⟨n, true, some ⟨s.devNonce, s.fCntUp + 1⟩, true⟩ else rtc

/-- What a wake does, case by case: its radio does not start; it restores its session; it sends a Join Request that is not
answered; or it joins. -/
theorem loraMachine_cases (lib : RadioLib) {rtc : LoraRtc} (h : RtcOk rtc) (w : LoraWake) :
    (w.beginOk = false ∧ (loraMachine lib).step rtc w = (rtc, .failed, ⟨none, false, none⟩)) ∨
    (∃ s result, w.beginOk = true ∧ rtc.sHaveSession = true ∧ w.restorable = true ∧ rtc.session = some s ∧
      (loraMachine lib).step rtc w = (savedUplink w rtc (rtc.nonce lib) s, result,
        ⟨none, false, if w.send.onAir = true then some ⟨s.devNonce, s.fCntUp, w.frame⟩ else none⟩)) ∨
    (JoinRequested rtc w ∧ w.accept = false ∧
      (loraMachine lib).step rtc w = (rtc, .failed, ⟨some (rtc.nonce lib), false, none⟩)) ∨
    (∃ result, JoinRequested rtc w ∧ w.accept = true ∧
      (loraMachine lib).step rtc w =
        (savedUplink w ⟨rtc.nonce lib + 1, true, some ⟨rtc.nonce lib, lib.fCntUp⟩, true⟩ (rtc.nonce lib + 1)
            ⟨rtc.nonce lib, lib.fCntUp⟩, result,
          ⟨some (rtc.nonce lib), true,
            if w.send.onAir = true then some ⟨rtc.nonce lib, lib.fCntUp, w.frame⟩ else none⟩)) := by
  cases hbegin : w.beginOk with
  | false => exact Or.inl ⟨rfl, loraMachine_silent lib rtc hbegin⟩
  | true =>
    by_cases hrestored : rtc.sHaveSession = true ∧ w.restorable = true
    · obtain ⟨hhave, hrestorable⟩ := hrestored
      obtain ⟨-, s, hs, -⟩ := h hhave
      refine Or.inr (Or.inl ⟨s, ((loraMachine lib).step rtc w).2.1, rfl, hhave, hrestorable, (if_pos hhave).trans hs, ?_⟩)
      rw [loraMachine_joined (lorawanJoin_restored lib hbegin hhave hrestorable hs), (lorawanUplink_session ..).1,
        (lorawanUplink_session ..).2]
      rfl
    · have hreq : JoinRequested rtc w := ⟨hbegin, hrestored⟩
      have hjoin := lorawanJoin_requested lib hreq
      cases haccept : w.accept with
      | false =>
        rw [if_neg (by simp [haccept])] at hjoin
        exact Or.inr (Or.inr (Or.inl ⟨hreq, rfl, loraMachine_join_failed hjoin⟩))
      | true =>
        rw [if_pos haccept] at hjoin
        refine Or.inr (Or.inr (Or.inr ⟨((loraMachine lib).step rtc w).2.1, hreq, rfl, ?_⟩))
        rw [loraMachine_joined hjoin, (lorawanUplink_session ..).1, (lorawanUplink_session ..).2]
        rfl

/-- What a wake does. RTC RAM stays well formed; the DevNonce counter advances if the wake joins; the session is the one the
wake sends with, its FCntUp advanced if the status of the uplink is not negative. A Join Request carries the counter, and an
uplink on air the FCntUp of its session. -/
theorem loraMachine_step (lib : RadioLib) {rtc : LoraRtc} (h : RtcOk rtc) (w : LoraWake) :
    RtcOk ((loraMachine lib).step rtc w).1 ∧
    ((loraMachine lib).step rtc w).1.nonce lib = (if Joined rtc w then rtc.nonce lib + 1 else rtc.nonce lib) ∧
    ((loraMachine lib).step rtc w).1.session =
      (if UplinkOnAir rtc w ∧ 0 ≤ w.send.state then (w.session lib rtc).map (fun s => ⟨s.devNonce, s.fCntUp + 1⟩)
        else w.session lib rtc) ∧
    ((loraMachine lib).step rtc w).2.2.joinRequest = (if JoinRequested rtc w then some (rtc.nonce lib) else none) ∧
    ((loraMachine lib).step rtc w).2.2.joinAccept = decide (Joined rtc w) ∧
    ((loraMachine lib).step rtc w).2.2.uplink =
      if UplinkOnAir rtc w then (w.session lib rtc).map (fun s => ⟨s.devNonce, s.fCntUp, w.frame⟩) else none := by
  rcases loraMachine_cases lib h w with ⟨hbegin, hstep⟩ | ⟨s, result, hbegin, hhave, hrestorable, hs, hstep⟩ |
    ⟨hreq, haccept, hstep⟩ | ⟨result, hreq, haccept, hstep⟩
  · simp [hstep, h, JoinRequested, Joined, UplinkOnAir, LoraWake.session, hbegin]
  · obtain ⟨hnonces, t, ht, hlt⟩ := h hhave
    obtain rfl : t = s := by simpa [LoraRtc.session, hhave, ht] using hs
    have hjoin : ¬JoinRequested rtc w := fun hreq => hreq.2 ⟨hhave, hrestorable⟩
    have hjoined : ¬Joined rtc w := fun hj => hjoin hj.1
    have hair : UplinkOnAir rtc w ↔ w.send.onAir = true := by simp [UplinkOnAir, hbegin, hhave, hrestorable]
    have hnonce : rtc.nonce lib = rtc.sNonces := if_pos hnonces
    rw [hstep]
    simp only [hjoin, hjoined, hair, LoraWake.session, hs, if_false, hnonce, savedUplink]
    by_cases hstate : 0 ≤ w.send.state
    · simp [hstate, w.send.onAir_of_ok hstate, RtcOk, LoraRtc.nonce, LoraRtc.session, hlt]
    · simp [hstate, h, hnonces, LoraRtc.nonce, hs]
  · have hjoined : ¬Joined rtc w := by simp [Joined, haccept]
    have hair : ¬UplinkOnAir rtc w := fun hup => hup.2.1.elim hreq.2 (by simp [haccept])
    simp [hstep, h, hreq, hjoined, hair, LoraWake.session]
  · have hjoined : Joined rtc w := ⟨hreq, haccept⟩
    have hair : UplinkOnAir rtc w ↔ w.send.onAir = true := by simp [UplinkOnAir, hreq.1, haccept]
    rw [hstep]
    simp only [hreq, hjoined, hair, LoraWake.session, if_true, savedUplink]
    by_cases hstate : 0 ≤ w.send.state
    · simp [hstate, w.send.onAir_of_ok hstate, RtcOk, LoraRtc.nonce, LoraRtc.session]
    · simp [hstate, RtcOk, LoraRtc.nonce, LoraRtc.session]

/-- RTC RAM is well formed in every run. -/
theorem loraRun_rtcOk (lib : RadioLib) (ws : List LoraWake) : RtcOk ((loraMachine lib).run LoraRtc.powerUp ws) :=
  have hstep : ∀ rtc w, RtcOk rtc → RtcOk ((loraMachine lib).step rtc w).1 := fun _ w h => (loraMachine_step lib h w).1
  (loraMachine lib).run_inv hstep powerUp_rtcOk ws

end AirQuality
