import AirQuality.Simulator.Join

/-!
# Join Accepts and the requests they answer

Which sessions of the simulator are derived with the nonce of the Join Request that the consumed Join Accept answers. `JoinInv` says
who waits: nobody, or the call that sent the latest Join Request.
-/

namespace AirQuality

variable {lib : LoraPacket} {newDevNonce : Nat → UInt16}

/-! ## Who waits -/

/-- At most one call waits, and it is the one that sent the latest Join Request. -/
def JoinInv (s : JoinState) : Prop :=
  s.downlinkWaiters = [] ∨
    ∃ w, s.downlinkWaiters = [w] ∧ s.requests.getLast? = some (buildJoinRequest w.cred w.devNonce)

theorem tryJoin_inv {s : JoinState} (h : s.downlinkWaiters = []) (cred : DeviceCredentials) (attempt : Nat) :
    JoinInv (s.tryJoin newDevNonce cred attempt) :=
  .inr ⟨_, by simp only [JoinState.tryJoin, h]; rfl, by simp [JoinState.tryJoin]⟩

theorem joinNext_inv {s : JoinState} (h : s.downlinkWaiters = []) : JoinInv (s.joinNext newDevNonce) := by
  unfold JoinState.joinNext
  split
  · exact .inl h
  · exact tryJoin_inv h _ _

theorem retry_inv {s : JoinState} (h : s.downlinkWaiters = []) (w : JoinWaiter) : JoinInv (s.retry newDevNonce w) := by
  unfold JoinState.retry
  split
  · exact tryJoin_inv h _ _
  · exact .inl h

theorem joinStart_inv (creds : List DeviceCredentials) : JoinInv (JoinState.start newDevNonce creds) :=
  joinNext_inv rfl

/-- What a Join Accept does to a waiting call: the session it gives, if it gives one. -/
theorem joinMachine_pullResp {s : JoinState} {accept : AcceptDownlink} {w : JoinWaiter}
    (hsent : accept.answers < s.requests.length) (hw : s.downlinkWaiters = [w]) :
    ((joinMachine lib newDevNonce).step s (.pullResp accept)).2 =
      (deriveSession lib w.cred w.devNonce accept.phy).map fun session =>
        { session, cred := w.cred, devNonce := w.devNonce, accept } := by
  simp only [joinMachine, if_neg (Nat.not_le.2 hsent), hw]
  cases deriveSession lib w.cred w.devNonce accept.phy with
  | none => rfl
  | some session => rfl

/-- A downlink that nobody waits for, or that answers nothing, changes nothing. -/
theorem joinMachine_pullResp_idle {s : JoinState} {accept : AcceptDownlink}
    (h : s.requests.length ≤ accept.answers ∨ s.downlinkWaiters = []) :
    (joinMachine lib newDevNonce).step s (.pullResp accept) = (s, none) := by
  rcases h with h | h
  · simp only [joinMachine, if_pos h]
  · simp only [joinMachine, h, ite_self]

theorem joinMachine_expire (s : JoinState) (i : Nat) : ((joinMachine lib newDevNonce).step s (.expire i)).2 = none := by
  simp only [joinMachine]
  cases s.downlinkWaiters[i]? with
  | none => rfl
  | some w => rfl

/-- Every step keeps what is known of who waits. -/
theorem joinMachine_inv (s : JoinState) (e : JoinEvent) (h : JoinInv s) :
    JoinInv ((joinMachine lib newDevNonce).step s e).1 := by
  cases e with
  | pullResp accept =>
    by_cases hidle : s.requests.length ≤ accept.answers ∨ s.downlinkWaiters = []
    · rw [joinMachine_pullResp_idle hidle]
      exact h
    · rw [not_or] at hidle
      obtain ⟨w, hw, -⟩ := h.resolve_left hidle.2
      simp only [joinMachine, if_neg hidle.1, hw]
      cases deriveSession lib w.cred w.devNonce accept.phy with
      | none => exact retry_inv rfl w
      | some session => exact joinNext_inv rfl
  | expire i =>
    rcases h with hnone | ⟨w, hw, hlast⟩
    · simp only [joinMachine, hnone, List.getElem?_nil]
      exact .inl hnone
    · cases i with
      | zero =>
        simp only [joinMachine, hw]
        exact retry_inv rfl w
      | succ i =>
        simp only [joinMachine, hw]
        exact .inr ⟨w, hw, hlast⟩

/-- In every run at most one call waits, and it is the one that sent the latest Join Request. -/
theorem joinRun_inv (lib : LoraPacket) (newDevNonce : Nat → UInt16) (creds : List DeviceCredentials) (es : List JoinEvent) :
    JoinInv ((joinMachine lib newDevNonce).run (JoinState.start newDevNonce creds) es) :=
  (joinMachine lib newDevNonce).run_inv joinMachine_inv (joinStart_inv creds) es

/-! ## Late Join Accepts -/

/-- The session was derived with the `devNonce` of the Join Request that its Join Accept answers, and for the device of that
request. -/
def JoinedSession.Paired (requests : List JoinRequest) (j : JoinedSession) : Prop :=
  ∃ r, requests[j.accept.answers]? = some r ∧ r.devNonce = j.devNonce ∧ r.devEui = j.session.devEui

/-- The Join Accept is not late: if it meets a waiting call, and `deriveSession` does not throw on it, then it answers the latest
Join Request, or one with the same device and the same `devNonce`. -/
def OnTime (lib : LoraPacket) (s : JoinState) : JoinEvent → Prop
  | .expire _ => True
  | .pullResp accept => ∀ w ∈ s.downlinkWaiters, deriveSession lib w.cred w.devNonce accept.phy ≠ none →
      ∀ r ∈ s.requests[accept.answers]?, ∀ latest ∈ s.requests.getLast?,
        r.devNonce = latest.devNonce ∧ r.devEui = latest.devEui

/-- The session of a device is for that device. -/
theorem deriveSession_devEui {cred : DeviceCredentials} {devNonce : UInt16} {phy : List UInt8} {session : DeviceSession}
    (h : deriveSession lib cred devNonce phy = some session) : session.devEui = cred.devEui := by
  obtain ⟨b, -, rfl⟩ := Option.map_eq_some_iff.1 h
  rfl

/-- A step returns only paired sessions exactly if it does not read a late Join Accept. -/
theorem paired_iff_onTime {s : JoinState} (h : JoinInv s) (e : JoinEvent) :
    (∀ j, ((joinMachine lib newDevNonce).step s e).2 = some j → j.Paired s.requests) ↔ OnTime lib s e := by
  cases e with
  | expire i => simp [joinMachine_expire, OnTime]
  | pullResp accept =>
    by_cases hsent : accept.answers < s.requests.length
    swap
    · rw [joinMachine_pullResp_idle (.inl (Nat.not_lt.1 hsent))]
      simp [OnTime, List.getElem?_eq_none (Nat.not_lt.1 hsent)]
    rcases h with hnone | ⟨w, hw, hlast⟩
    · rw [joinMachine_pullResp_idle (.inr hnone)]
      simp [OnTime, hnone]
    · have hreq : s.requests[accept.answers]? = some s.requests[accept.answers] := List.getElem?_eq_getElem hsent
      rw [joinMachine_pullResp hsent hw]
      simp only [OnTime, hw, hlast, hreq, List.mem_singleton, Option.mem_def, Option.some.injEq, forall_eq',
        forall_eq, buildJoinRequest, JoinedSession.Paired]
      cases hderive : deriveSession lib w.cred w.devNonce accept.phy with
      | none => simp
      | some session =>
        have hdev := deriveSession_devEui hderive
        simp [hreq, hdev]

/-- Every session `joinDevice` returns is derived with the `devNonce` of the Join Request that its Join Accept answers, and for that
device, exactly if no Join Accept is late: one that comes after the wait of its attempt meets the wait of a later one. -/
theorem joins_paired_iff (lib : LoraPacket) (newDevNonce : Nat → UInt16) (creds : List DeviceCredentials)
    (es : List JoinEvent) :
    (∀ (k : Nat) (j : JoinedSession),
      ((joinMachine lib newDevNonce).outputs (JoinState.start newDevNonce creds) es)[k]? = some (some j) →
        j.Paired ((joinMachine lib newDevNonce).run (JoinState.start newDevNonce creds) (es.take k)).requests) ↔
      (joinMachine lib newDevNonce).Along (OnTime lib) (JoinState.start newDevNonce creds) es := by
  rw [Machine.along_iff_getElem?]
  constructor
  · intro h k e he
    rw [← paired_iff_onTime (joinRun_inv lib newDevNonce creds (es.take k))]
    intro j hj
    refine h k j ?_
    rw [Machine.outputs_getElem?, he, Option.map_some, hj]
  · intro h k j hj
    rw [Machine.outputs_getElem?, Option.map_eq_some_iff] at hj
    obtain ⟨e, he, hout⟩ := hj
    exact (paired_iff_onTime (joinRun_inv lib newDevNonce creds (es.take k)) e).2 (h k e he) j hout

/-- A library that takes any bytes for a Join Accept, and puts the nonce into both keys. -/
def plainLora : LoraPacket where
  openJoinAccept _ phy := some { netId := [], appNonce := phy, devAddr := phy }
  generateSessionKeys10 appKey _ appNonce devNonce :=
    (Word.bytes devNonce ++ appKey ++ appNonce, Word.bytes devNonce ++ appNonce ++ appKey)
  keys_injective := by
    intro appKey _ appNonce devNonce devNonce' h
    have hbytes : Word.bytes devNonce = Word.bytes devNonce' :=
      List.append_cancel_right (List.append_cancel_right (congrArg Prod.fst h))
    rw [← Word.join_low_high devNonce, ← Word.join_low_high devNonce', (List.cons.inj hbytes).1,
      (List.cons.inj (List.cons.inj hbytes).2).1]

/-- The wait of the first attempt ends, the second draws a new nonce, and then the accept of the first attempt arrives. -/
theorem joins_paired_false :
    ¬∀ (lib : LoraPacket) (newDevNonce : Nat → UInt16) (creds : List DeviceCredentials) (es : List JoinEvent) (k : Nat)
      (j : JoinedSession),
      ((joinMachine lib newDevNonce).outputs (JoinState.start newDevNonce creds) es)[k]? = some (some j) →
        j.Paired ((joinMachine lib newDevNonce).run (JoinState.start newDevNonce creds) (es.take k)).requests := by
  intro h
  let cred : DeviceCredentials := { devEui := [1], joinEui := [2], appKey := [3] }
  have hpaired := h plainLora (fun n => UInt16.ofNat n) [cred] [.expire 0, .pullResp { phy := [4], answers := 0 }] 1 _ rfl
  obtain ⟨r, hr, hnonce, -⟩ := hpaired
  cases hr
  exact absurd hnonce (by decide)

/-- A session that is not derived with the nonce of its request has not the keys the network has for it. -/
theorem wrong_nonce_wrong_keys {cred : DeviceCredentials} {devNonce devNonce' : UInt16} {phy : List UInt8}
    {session session' : DeviceSession} (h : deriveSession lib cred devNonce phy = some session)
    (h' : deriveSession lib cred devNonce' phy = some session') (hne : devNonce ≠ devNonce') :
    (session.nwkSKey, session.appSKey) ≠ (session'.nwkSKey, session'.appSKey) := by
  obtain ⟨b, hb, rfl⟩ := Option.map_eq_some_iff.1 h
  obtain ⟨b', hb', rfl⟩ := Option.map_eq_some_iff.1 h'
  obtain rfl : b = b' := Option.some.inj (hb.symm.trans hb')
  exact fun heq => hne (lib.keys_injective cred.appKey b.netId b.appNonce devNonce devNonce' heq)

end AirQuality
