import AirQuality.Firmware.Lora
import AirQuality.Lib.Checkpoint
import Mathlib.Data.Prod.Lex

/-!
# DevNonces and frame counters over deep sleeps

The adapter keeps two counters in RTC RAM: the DevNonce, and the FCntUp of the session. Both are emitted on paths that return
without saving the advanced counter: a Join Request without an answer, and an uplink on air with a negative status. Each is then
emitted again, by the next wake that emits at all.
-/

namespace AirQuality

/-! ## The two counters as checkpoints -/

/-- RTC RAM before wake `k` of a run. -/
def rtcAt (lib : RadioLib) (ws : List LoraWake) (k : Nat) : LoraRtc := (loraMachine lib).run LoraRtc.powerUp (ws.take k)

/-- What goes over the air in a run, wake by wake. -/
def airs (lib : RadioLib) (ws : List LoraWake) : List Air := ((loraMachine lib).outputs LoraRtc.powerUp ws).map Prod.snd

/-- A wake, for the DevNonce counter: a Join Request emits it, and only an answered one saves it. -/
def nonceCycle (rtc : LoraRtc) (w : LoraWake) : Checkpoint.Cycle Nat where
  jump := none
  emit := if JoinRequested rtc w then some w.accept else none

/-- The DevNonce counter of the adapter is a checkpointed counter. -/
theorem lora_refines_nonce (lib : RadioLib) :
    (loraMachine lib).Refines (Checkpoint.machine (· + 1)) nonceCycle (fun out => out.2.joinRequest)
      (fun rtc stored => RtcOk rtc ∧ stored = some (rtc.nonce lib)) := by
  intro rtc stored w hstored
  obtain ⟨hok, rfl⟩ := hstored
  obtain ⟨hok', hnonce, -, hreq, -, -⟩ := loraMachine_step lib hok w
  simp only [hreq, hnonce]
  by_cases h : JoinRequested rtc w
  · cases haccept : w.accept <;> simp [hok', Checkpoint.machine, nonceCycle, Joined, h, haccept]
  · simp [hok', Checkpoint.machine, nonceCycle, Joined, h]

/-- The next FCntUp of the same session. -/
def nextFCntUp (v : ℕ ×ₗ ℕ) : ℕ ×ₗ ℕ := toLex ((ofLex v).1, (ofLex v).2 + 1)

theorem lt_nextFCntUp (v : ℕ ×ₗ ℕ) : v < nextFCntUp v := Prod.Lex.lt_iff.2 (Or.inr ⟨rfl, Nat.lt_succ_self _⟩)

/-- A session as a counter: sessions in the order of the DevNonces that opened them, then the FCntUp. -/
def Session.counter (s : Session) : ℕ ×ₗ ℕ := toLex (s.devNonce, s.fCntUp)

/-- A wake, for the frame counter: a join sets it, an uplink on air emits it, and only a status that is not negative saves it. -/
def fCntCycle (lib : RadioLib) (rtc : LoraRtc) (w : LoraWake) : Checkpoint.Cycle (ℕ ×ₗ ℕ) where
  jump := if Joined rtc w then some (Session.counter ⟨rtc.nonce lib, lib.fCntUp⟩) else none
  emit := if UplinkOnAir rtc w then some (decide (0 ≤ w.send.state)) else none

/-- The counter of the uplink on air, if there is one. -/
def Air.counter (a : Air) : Option (ℕ ×ₗ ℕ) := a.uplink.map (fun u => toLex (u.devNonce, u.fCntUp))

theorem fCntCycle_jump_or (lib : RadioLib) (rtc : LoraRtc) (w : LoraWake) :
    (fCntCycle lib rtc w).jump.or (rtc.session.map Session.counter) = (w.session lib rtc).map Session.counter := by
  unfold fCntCycle LoraWake.session
  by_cases h : Joined rtc w
  · simp [h]
  · simp [h]

/-- A wake whose uplink goes on air has a session. -/
theorem session_of_uplinkOnAir (lib : RadioLib) {rtc : LoraRtc} (hok : RtcOk rtc) {w : LoraWake} (h : UplinkOnAir rtc w) :
    ∃ s, w.session lib rtc = some s := by
  unfold LoraWake.session
  split_ifs with hjoined
  · exact ⟨_, rfl⟩
  · obtain ⟨hbegin, hsession, -⟩ := h
    have hhave : rtc.sHaveSession = true := by
      rcases hsession with ⟨hhave, -⟩ | haccept
      · exact hhave
      · by_contra hne
        exact hjoined ⟨⟨hbegin, fun hr => hne hr.1⟩, haccept⟩
    obtain ⟨-, s, hs, -⟩ := hok hhave
    exact ⟨s, (if_pos hhave).trans hs⟩

/-- The frame counter of the adapter is a checkpointed counter. -/
theorem lora_refines_fCnt (lib : RadioLib) :
    (loraMachine lib).Refines (Checkpoint.machine nextFCntUp) (fCntCycle lib)
      (fun out => out.2.counter)
      (fun rtc stored => RtcOk rtc ∧ stored = rtc.session.map Session.counter) := by
  intro rtc stored w hstored
  obtain ⟨hok, rfl⟩ := hstored
  obtain ⟨hok', -, hsession, -, -, huplink⟩ := loraMachine_step lib hok w
  simp only [Air.counter, huplink, hsession]
  have hor := fCntCycle_jump_or lib rtc w
  by_cases h : UplinkOnAir rtc w
  · obtain ⟨s, hs⟩ := session_of_uplinkOnAir lib hok h
    rw [hs] at hor ⊢
    have hemit : (fCntCycle lib rtc w).emit = some (decide (0 ≤ w.send.state)) := if_pos h
    by_cases hstate : 0 ≤ w.send.state
    · simp [hok', Checkpoint.machine, hor, hemit, h, hstate, nextFCntUp, Session.counter]
    · simp [hok', Checkpoint.machine, hor, hemit, h, hstate, Session.counter]
  · have hemit : (fCntCycle lib rtc w).emit = none := if_neg h
    simp [hok', Checkpoint.machine, hor, hemit, h]

/-- An answered Join Request, for the DevNonce counter: it opens a session and saves it. -/
def openCycle (rtc : LoraRtc) (w : LoraWake) : Checkpoint.Cycle Nat where
  jump := none
  emit := if Joined rtc w then some true else none

/-- The DevNonce of the session a wake opens. -/
def Air.opened (a : Air) : Option Nat := if a.joinAccept = true then a.joinRequest else none

theorem lora_refines_open (lib : RadioLib) :
    (loraMachine lib).Refines (Checkpoint.machine (· + 1)) openCycle (fun out => out.2.opened)
      (fun rtc stored => RtcOk rtc ∧ stored = some (rtc.nonce lib)) := by
  intro rtc stored w hstored
  obtain ⟨hok, rfl⟩ := hstored
  obtain ⟨hok', hnonce, -, hreq, haccept, -⟩ := loraMachine_step lib hok w
  simp only [Air.opened, hreq, haccept, hnonce]
  by_cases h : Joined rtc w
  · simp [hok', Checkpoint.machine, openCycle, h, h.1]
  · simp [hok', Checkpoint.machine, openCycle, h]

/-! ## What a run emits -/

/-- The DevNonces of the Join Requests of a run. -/
def devNonces (lib : RadioLib) (ws : List LoraWake) : List Nat := (airs lib ws).filterMap Air.joinRequest

/-- The DevNonces of the sessions opened in a run. -/
def openedSessions (lib : RadioLib) (ws : List LoraWake) : List Nat := (airs lib ws).filterMap Air.opened

/-- The uplinks on air in a run: session and FCntUp. -/
def frameCounters (lib : RadioLib) (ws : List LoraWake) : List (Nat × Nat) :=
  (airs lib ws).filterMap (fun a => a.uplink.map (fun u => (u.devNonce, u.fCntUp)))

/-- Wake `k` of a run sends a Join Request. -/
def JoinRequestAt (lib : RadioLib) (ws : List LoraWake) (k : Nat) : Prop :=
  ∃ w, ws[k]? = some w ∧ JoinRequested (rtcAt lib ws k) w

/-- Wake `k` of a run sends a Join Request that no Join Accept answers. -/
def UnansweredJoinAt (lib : RadioLib) (ws : List LoraWake) (k : Nat) : Prop :=
  ∃ w, ws[k]? = some w ∧ JoinRequested (rtcAt lib ws k) w ∧ w.accept = false

/-- Wake `k` of a run joins. -/
def JoinedAt (lib : RadioLib) (ws : List LoraWake) (k : Nat) : Prop := ∃ w, ws[k]? = some w ∧ Joined (rtcAt lib ws k) w

/-- The uplink of wake `k` of a run goes on air. -/
def UplinkAt (lib : RadioLib) (ws : List LoraWake) (k : Nat) : Prop :=
  ∃ w, ws[k]? = some w ∧ UplinkOnAir (rtcAt lib ws k) w

/-- The uplink of wake `k` of a run goes on air, and `sendReceive` returns a negative status. -/
def LostUplinkAt (lib : RadioLib) (ws : List LoraWake) (k : Nat) : Prop :=
  ∃ w, ws[k]? = some w ∧ UplinkOnAir (rtcAt lib ws k) w ∧ w.send.state < 0

/-- A run of the adapter that refines a checkpointed counter emits what the counter emits. -/
theorem emitted_eq {α : Type*} {lib : RadioLib} {next : α → α} {f : LoraRtc → LoraWake → Checkpoint.Cycle α}
    {g : Air → Option α} {R : LoraRtc → Option α → Prop}
    (h : (loraMachine lib).Refines (Checkpoint.machine next) f (fun out => g out.2) R) {stored : Option α}
    (hstart : R LoraRtc.powerUp stored) (ws : List LoraWake) :
    Checkpoint.emitted next stored ((loraMachine lib).inputs f LoraRtc.powerUp ws) = (airs lib ws).filterMap g := by
  rw [Checkpoint.emitted, ← h.outputs_eq hstart, airs, List.filterMap_map, List.reduceOption, List.filterMap_map]
  rfl

/-- The two counters when the power comes up. -/
theorem powerUp_nonce (lib : RadioLib) : RtcOk LoraRtc.powerUp ∧ some lib.devNonce = some (LoraRtc.powerUp.nonce lib) :=
  ⟨powerUp_rtcOk, rfl⟩

theorem powerUp_session : RtcOk LoraRtc.powerUp ∧ none = LoraRtc.powerUp.session.map Session.counter := ⟨powerUp_rtcOk, rfl⟩

/-! ## A DevNonce is sent twice -/

/-- The DevNonce counter is never set, and always there. -/
theorem nonce_legal (lib : RadioLib) (ws : List LoraWake) :
    (Checkpoint.machine (· + 1)).Along Checkpoint.Legal (some lib.devNonce)
      ((loraMachine lib).inputs nonceCycle LoraRtc.powerUp ws) := by
  refine (lora_refines_nonce lib).along ?_ (powerUp_nonce lib) ws
  intro rtc stored w hstored
  obtain ⟨-, rfl⟩ := hstored
  exact ⟨nofun, fun _ => rfl⟩

theorem nonceCycle_emit_iff (rtc : LoraRtc) (w : LoraWake) : (nonceCycle rtc w).emit.isSome = true ↔ JoinRequested rtc w := by
  by_cases h : JoinRequested rtc w <;> simp [nonceCycle, h]

theorem nonceCycle_unsaved_iff (rtc : LoraRtc) (w : LoraWake) :
    (nonceCycle rtc w).emit = some false ↔ JoinRequested rtc w ∧ w.accept = false := by
  by_cases h : JoinRequested rtc w <;> simp [nonceCycle, h]

theorem nonce_clean_iff (lib : RadioLib) (ws : List LoraWake) :
    Checkpoint.Clean ((loraMachine lib).inputs nonceCycle LoraRtc.powerUp ws) ↔
      ∀ i j, i < j → UnansweredJoinAt lib ws i → ¬JoinRequestAt lib ws j := by
  unfold Checkpoint.Clean UnansweredJoinAt JoinRequestAt
  simp only [Machine.exists_inputs_iff, nonceCycle_unsaved_iff, nonceCycle_emit_iff]
  refine forall_congr' fun i => forall_congr' fun j => forall_congr' fun _ => forall_congr' fun _ => ?_
  refine ⟨fun h hreq => ?_, fun h hreq => absurd hreq h⟩
  obtain ⟨k, c, -, -, hc, hjump⟩ := h hreq
  rw [Machine.inputs_getElem?] at hc
  obtain ⟨w, -, rfl⟩ := Option.map_eq_some_iff.1 hc
  cases hjump

/-- A DevNonce is sent twice after a lost answer. In every run of wakes separated by deep sleep, the DevNonces of the Join
Requests strictly increase if and only if no wake whose Join Request is not answered is followed by another that sends one. -/
theorem dev_nonces_increase_iff (lib : RadioLib) (ws : List LoraWake) :
    (devNonces lib ws).Pairwise (· < ·) ↔ ∀ i j, i < j → UnansweredJoinAt lib ws i → ¬JoinRequestAt lib ws j := by
  rw [← nonce_clean_iff, devNonces, ← emitted_eq (lora_refines_nonce lib) (powerUp_nonce lib)]
  exact Checkpoint.increasing_iff Nat.lt_succ_self (nonce_legal lib ws)

/-- An uplink that is sent, and brings nothing back. -/
def SendReceive.ok : SendReceive := ⟨true, 0, [], 0, fun _ => rfl⟩

/-- An uplink that goes on air before `sendReceive` reports an error. -/
def SendReceive.lost : SendReceive := ⟨true, -1, [], 0, fun _ => rfl⟩

/-- A wake with a working radio. -/
def LoraWake.sending (accept : Bool) (send : SendReceive) : LoraWake := ⟨⟨2, []⟩, true, true, accept, send⟩

/-- Two wakes in a row whose Join Request gets no answer send the same DevNonce. -/
theorem dev_nonces_increase_false : ¬∀ (lib : RadioLib) (ws : List LoraWake), (devNonces lib ws).Pairwise (· < ·) := by
  intro h
  have hincrease := h ⟨0, 0⟩ [.sending false .ok, .sending false .ok]
  revert hincrease
  decide

/-! ## A frame counter is sent twice -/

/-- A session opened later has a greater DevNonce: it names the session. -/
theorem openedSessions_increase (lib : RadioLib) (ws : List LoraWake) : (openedSessions lib ws).Pairwise (· < ·) := by
  rw [openedSessions, ← emitted_eq (lora_refines_open lib) (powerUp_nonce lib)]
  refine Checkpoint.increasing_of_clean Nat.lt_succ_self ((lora_refines_open lib).along ?_ (powerUp_nonce lib) ws) ?_
  · intro rtc stored w hstored
    obtain ⟨-, rfl⟩ := hstored
    exact ⟨nofun, fun _ => rfl⟩
  · intro i j _ hi _
    rw [Machine.exists_inputs_iff] at hi
    obtain ⟨w, -, hw⟩ := hi
    simp only [openCycle] at hw
    split_ifs at hw
    cases hw

/-- The frame counter is only set above what it was, by a session of a greater DevNonce, and every uplink has a session. -/
theorem fCnt_legal (lib : RadioLib) (ws : List LoraWake) :
    (Checkpoint.machine nextFCntUp).Along Checkpoint.Legal none
      ((loraMachine lib).inputs (fCntCycle lib) LoraRtc.powerUp ws) := by
  refine (lora_refines_fCnt lib).along ?_ powerUp_session ws
  intro rtc stored w hstored
  obtain ⟨hok, rfl⟩ := hstored
  refine ⟨?_, fun hemit => ?_⟩
  · intro u hu v hv
    have hjoined : Joined rtc w := by
      by_contra hne
      simp [fCntCycle, hne] at hu
    obtain rfl : Session.counter ⟨rtc.nonce lib, lib.fCntUp⟩ = u := by simpa [fCntCycle, hjoined] using hu
    obtain ⟨s, hs, rfl⟩ := Option.map_eq_some_iff.1 hv
    have hhave : rtc.sHaveSession = true := by
      by_contra hne
      simp [LoraRtc.session, hne] at hs
    obtain ⟨hnonces, t, ht, hlt⟩ := hok hhave
    obtain rfl : t = s := by simpa [LoraRtc.session, hhave, ht] using hs
    have hnonce : rtc.nonce lib = rtc.sNonces := if_pos hnonces
    exact Prod.Lex.lt_iff.2 (Or.inl (by rw [hnonce]; exact hlt))
  · have hair : UplinkOnAir rtc w := by
      by_contra hne
      simp [fCntCycle, hne] at hemit
    obtain ⟨s, hs⟩ := session_of_uplinkOnAir lib hok hair
    rw [fCntCycle_jump_or, hs]
    rfl

theorem fCntCycle_emit_iff (lib : RadioLib) (rtc : LoraRtc) (w : LoraWake) :
    (fCntCycle lib rtc w).emit.isSome = true ↔ UplinkOnAir rtc w := by
  by_cases h : UplinkOnAir rtc w <;> simp [fCntCycle, h]

theorem fCntCycle_unsaved_iff (lib : RadioLib) (rtc : LoraRtc) (w : LoraWake) :
    (fCntCycle lib rtc w).emit = some false ↔ UplinkOnAir rtc w ∧ w.send.state < 0 := by
  by_cases h : UplinkOnAir rtc w <;> simp [fCntCycle, h]

theorem fCntCycle_jump_iff (lib : RadioLib) (rtc : LoraRtc) (w : LoraWake) :
    (fCntCycle lib rtc w).jump.isSome = true ↔ Joined rtc w := by
  by_cases h : Joined rtc w <;> simp [fCntCycle, h]

theorem fCnt_clean_iff (lib : RadioLib) (ws : List LoraWake) :
    Checkpoint.Clean ((loraMachine lib).inputs (fCntCycle lib) LoraRtc.powerUp ws) ↔
      ∀ i j, i < j → LostUplinkAt lib ws i → UplinkAt lib ws j → ∃ k, i < k ∧ k ≤ j ∧ JoinedAt lib ws k := by
  unfold Checkpoint.Clean LostUplinkAt UplinkAt JoinedAt
  simp only [Machine.exists_inputs_iff, fCntCycle_unsaved_iff, fCntCycle_emit_iff, exists_and_left, fCntCycle_jump_iff]
  rfl

/-- A frame counter is sent twice after a lost status. In every run of wakes separated by deep sleep, no two uplinks on air of
one session carry the same FCntUp if and only if, between an uplink on air whose status is negative and the next uplink on air,
the node joins anew. A session is named by the DevNonce of its Join Request, which no two sessions share. -/
theorem frame_counters_nodup_iff (lib : RadioLib) (ws : List LoraWake) :
    (openedSessions lib ws).Nodup ∧
    ((frameCounters lib ws).Nodup ↔
      ∀ i j, i < j → LostUplinkAt lib ws i → UplinkAt lib ws j → ∃ k, i < k ∧ k ≤ j ∧ JoinedAt lib ws k) := by
  refine ⟨(openedSessions_increase lib ws).imp ne_of_lt, ?_⟩
  rw [← fCnt_clean_iff, ← Checkpoint.nodup_iff lt_nextFCntUp (fCnt_legal lib ws),
    emitted_eq (lora_refines_fCnt lib) powerUp_session]
  have hcounters : (airs lib ws).filterMap Air.counter = (frameCounters lib ws).map toLex := by
    rw [frameCounters, List.map_filterMap]
    simp only [Option.map_map]
    rfl
  rw [hcounters, List.nodup_map_iff toLex.injective]

/-- After an uplink on air with a negative status, the next wake restores the session and sends the same FCntUp again. -/
theorem frame_counters_nodup_false : ¬∀ (lib : RadioLib) (ws : List LoraWake), (frameCounters lib ws).Nodup := by
  intro h
  have hnodup := h ⟨0, 0⟩ [.sending true .ok, .sending true .lost, .sending true .ok]
  revert hnodup
  decide

end AirQuality
