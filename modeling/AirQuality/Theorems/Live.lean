import AirQuality.Dashboard.Page

/-!
# The live channel

A reading of the server is on its way to the page when the store has it or a newer one of its sensor, or the socket has delivered
it, or a request in flight will bring it (`LiveWorld.Coming`). While the channel is live every reading of the server is
(`live_is_current`), as long as the first connect of the socket does not follow on a reading that came after the server last
answered: that connect asks for nothing, and the reading is missed (`live_is_current_false`).
-/

namespace AirQuality

/-- The reading, or a newer one of its sensor, is among the readings. -/
def Brings (readings : List Reading) (reading : Reading) : Prop :=
  ∃ r ∈ readings, r.sensorId = reading.sensorId ∧ reading.time ≤ r.time

/-- A request in flight will bring the reading: its answer has not been read yet, or has it. -/
def LatestRequest.Brings (q : LatestRequest) (reading : Reading) : Prop :=
  ∀ readings, q.snapshot = some readings → AirQuality.Brings readings reading

/-- The reading is on its way to the page, or there. -/
def LiveWorld.Coming (w : LiveWorld) (reading : Reading) : Prop :=
  w.store.Has reading ∨ Brings w.queue reading ∨ ∃ q ∈ w.requests, q.Brings reading

/-- Live, with all that was delivered handled and no request in flight, the store has the newest reading of every sensor. -/
def LiveWorld.Current (w : LiveWorld) : Prop :=
  w.store.connection = .live → w.queue = [] → w.requests = [] →
    ∀ r ∈ w.server, ∃ latest, w.store.latest r.sensorId = some latest ∧ r.time ≤ latest.time

/-- The first connect of the socket comes when the server has got nothing new since it last answered, or a request is in flight
that it has still to read the answer of. -/
def LiveEvent.ConnectsInTime (w : LiveWorld) : LiveEvent → Prop
  | .socket true => w.store.stopRealtime = true → w.store.connection = .connecting →
      w.changed = false ∨ ∃ q ∈ w.requests, q.snapshot = none
  | _ => True

/-- All the server has is on its way whenever the channel is live or nothing new has come, and only a connected socket is live. -/
structure LiveWorld.Ok (w : LiveWorld) : Prop where
  connected : w.store.connection = .live → w.connected = true
  coming : w.store.connection = .live ∨ w.changed = false → ∀ r ∈ w.server, w.Coming r

/-! ## What brings a reading -/

theorem Brings.of_mem {readings : List Reading} {r : Reading} (h : r ∈ readings) : Brings readings r :=
  ⟨r, h, rfl, le_refl _⟩

theorem Brings.mono {readings : List Reading} {r s : Reading} (h : Brings readings s) (hid : r.sensorId = s.sensorId)
    (ht : r.time ≤ s.time) : Brings readings r := by
  obtain ⟨x, hx, hxid, hxt⟩ := h
  exact ⟨x, hx, hxid.trans hid.symm, le_trans ht hxt⟩

/-- What a list brings, the store has once it has taken the list in. -/
theorem Brings.has_applyAll {readings : List Reading} {r : Reading} (h : Brings readings r) (st : AirStore) :
    (st.applyAll readings).Has r := by
  obtain ⟨x, hx, hid, ht⟩ := h
  rw [AirStore.Has, applyAll_eq]
  exact (Newest.caughtUp_foldl_of_mem _ hx).mono hid.symm ht

theorem AirStore.Has.applyAll {st : AirStore} {r : Reading} (h : st.Has r) (readings : List Reading) :
    (st.applyAll readings).Has r := by
  rw [AirStore.Has, applyAll_eq]
  exact h.foldl readings

theorem AirStore.Has.applyReading {st : AirStore} {r : Reading} (h : st.Has r) (reading : Reading) (live : Bool) :
    (st.applyReading reading live).Has r := by
  rw [AirStore.Has, applyReading_eq]
  exact h.put reading

theorem has_applyReading_self (st : AirStore) (reading : Reading) (live : Bool) :
    (st.applyReading reading live).Has reading := by
  rw [AirStore.Has, applyReading_eq]
  exact Newest.caughtUp_put_self st.latest reading

/-- The answer of a request leaves a live channel live, and makes none live. -/
theorem answered_live_iff (st : AirStore) (caller : LatestCaller) (readings : List Reading) :
    (st.answered caller readings).connection = .live ↔ st.connection = .live := by
  have happly : (st.applyAll readings).connection = st.connection := by rw [applyAll_eq]
  cases caller with
  | load => exact iff_of_eq (congrArg (· = ConnectionState.live) happly)
  | syncLatest => exact iff_of_eq (congrArg (· = ConnectionState.live) happly)
  | poll =>
    simp only [AirStore.answered, AirStore.pollDone, happly]
    split
    · rename_i h
      exact iff_of_false (by simp) h
    · rw [happly]

/-- What is on its way stays so while the store, the queue and the requests only gain. -/
theorem LiveWorld.Coming.mono {w w' : LiveWorld} {r : Reading} (h : w.Coming r) (hs : w'.store.latest = w.store.latest)
    (hq : ∀ x ∈ w.queue, x ∈ w'.queue) (hr : ∀ x ∈ w.requests, x ∈ w'.requests) : w'.Coming r := by
  rcases h with h | ⟨x, hx, hxr⟩ | ⟨q, hq', hqr⟩
  · left
    rw [AirStore.Has, hs]
    exact h
  · exact Or.inr (Or.inl ⟨x, hq x hx, hxr⟩)
  · exact Or.inr (Or.inr ⟨q, hr q hq', hqr⟩)

/-- With a reading, the older ones of its sensor are on their way. -/
theorem LiveWorld.Coming.older {w : LiveWorld} {r s : Reading} (h : w.Coming s) (hid : r.sensorId = s.sensorId)
    (ht : r.time ≤ s.time) : w.Coming r := by
  rcases h with h | h | ⟨q, hq, hqs⟩
  · exact Or.inl (h.mono hid ht)
  · exact Or.inr (Or.inl (h.mono hid ht))
  · exact Or.inr (Or.inr ⟨q, hq, fun readings hr => (hqs readings hr).mono hid ht⟩)

/-- A request that has still to be read brings everything. -/
theorem coming_of_unread {w : LiveWorld} {q : LatestRequest} (hq : q ∈ w.requests) (hn : q.snapshot = none) (r : Reading) :
    w.Coming r := by
  refine Or.inr (Or.inr ⟨q, hq, ?_⟩)
  intro readings h
  rw [hn] at h
  cases h

/-! ## What each event keeps -/

/-- A call of `getLatest` and a change of the store that leaves the connection and the latest readings lose nothing. -/
theorem LiveWorld.Ok.ask {w : LiveWorld} (h : w.Ok) (store : AirStore) (hl : store.latest = w.store.latest)
    (hc : store.connection = w.store.connection) (caller : LatestCaller) : ({ w with store }.ask caller).Ok where
  connected := fun hlive => h.connected (hc ▸ hlive)
  coming := fun hlive r hr =>
    (h.coming (hc ▸ hlive) r hr).mono hl (fun _ hx => hx) (fun _ hx => List.mem_append_left _ hx)

/-- A reading that is new to the server reaches a live page by the socket; one that is not is on its way with the one that is as
new. -/
theorem LiveWorld.Ok.newReading {w : LiveWorld} (h : w.Ok) (reading : Reading) : (w.step (.newReading reading)).Ok where
  connected := h.connected
  coming := by
    intro hor r hr
    have hold : w.store.connection = .live ∨ w.changed = false :=
      hor.imp_right (fun hc => (Bool.or_eq_false_iff.1 hc).1)
    have hqueue : ∀ x ∈ w.queue, x ∈ (w.step (.newReading reading)).queue := by
      intro x hx
      simp only [LiveWorld.step]
      split
      · exact List.mem_append_left _ hx
      · exact hx
    rcases Newest.mem_upsert_newer hr with hr | rfl
    · exact (h.coming hold r hr).mono rfl hqueue (fun _ hx => hx)
    · rcases hor with hlive | hchanged
      · refine Or.inr (Or.inl (Brings.of_mem ?_))
        simp only [LiveWorld.step, if_pos (h.connected hlive)]
        exact List.mem_append_right _ (List.mem_singleton_self r)
      · have hknows : w.knows r = true := by simpa using (Bool.or_eq_false_iff.1 hchanged).2
        obtain ⟨s, hs, hsr⟩ := List.any_eq_true.1 hknows
        obtain ⟨hid, ht⟩ := of_decide_eq_true hsr
        exact ((h.coming hold s hs).older hid.symm ht).mono rfl hqueue (fun _ hx => hx)

/-- A connect asks for the latest readings, except the first: before it all that matters is what was asked before. -/
theorem LiveWorld.Ok.connect {w : LiveWorld} (h : w.Ok) (hin : (LiveEvent.socket true).ConnectsInTime w) :
    (w.step (.socket true)).Ok := by
  simp only [LiveWorld.step, AirStore.onConnection, if_true]
  split
  · rename_i hup
    by_cases hfirst : w.store.connection = .connecting
    · rw [if_neg (by simp [hfirst])]
      refine ⟨fun _ => rfl, fun _ r hr => ?_⟩
      rcases hin hup hfirst with hchanged | ⟨q, hq, hn⟩
      · exact (h.coming (Or.inr hchanged) r hr).mono rfl (fun _ hx => hx) (fun _ hx => hx)
      · exact coming_of_unread hq hn r
    · rw [if_pos (by simp [hfirst])]
      exact ⟨fun _ => rfl, fun _ r _ => coming_of_unread (List.mem_append_right _ (List.mem_singleton_self _)) rfl r⟩
  · exact h

/-- After a disconnect the channel is not live. -/
theorem onConnection_false (st : AirStore) :
    (st.onConnection false).1.connection ≠ .live ∧ (st.onConnection false).1.latest = st.latest ∧
      (st.onConnection false).2 = false := by
  unfold AirStore.onConnection
  rw [if_neg Bool.false_ne_true]
  cases hc : st.connection <;> cases hd : st.pollDelay <;> cases ht : st.pollTimer <;> simp [hc, hd, ht]

theorem LiveWorld.Ok.disconnect {w : LiveWorld} (h : w.Ok) : (w.step (.socket false)).Ok := by
  obtain ⟨hdown, hl, hsync⟩ := onConnection_false w.store
  simp only [LiveWorld.step, hsync]
  split
  · refine ⟨fun hlive => absurd hlive hdown, fun hor r hr => ?_⟩
    exact (h.coming (Or.inr (hor.resolve_left hdown)) r hr).mono hl (fun _ hx => hx) (fun _ hx => hx)
  · exact h

/-- A delivered reading is in the store once the page has handled it. -/
theorem LiveWorld.Ok.onReading {w : LiveWorld} (h : w.Ok) : (w.step .onReading).Ok := by
  simp only [LiveWorld.step]
  split
  · rename_i reading queue hq
    have hc : (w.store.applyReading reading true).connection = w.store.connection := by rw [applyReading_eq]
    refine ⟨fun hlive => h.connected (hc ▸ hlive), fun hor r hr => ?_⟩
    rcases h.coming (hc ▸ hor) r hr with hhas | ⟨x, hx, hid, ht⟩ | hreq
    · exact Or.inl (hhas.applyReading reading true)
    · rw [hq] at hx
      rcases List.mem_cons.1 hx with rfl | hx
      · exact Or.inl ((has_applyReading_self w.store x true).mono hid.symm ht)
      · exact Or.inr (Or.inl ⟨x, hx, hid, ht⟩)
    · exact Or.inr (Or.inr hreq)
  · exact h

/-- A request the server reads the answer of brings all the server has. -/
theorem LiveWorld.Ok.snapshot {w : LiveWorld} (h : w.Ok) (k : Nat) : (w.step (.snapshot k)).Ok := by
  simp only [LiveWorld.step]
  split
  · rename_i caller hk
    refine ⟨h.connected, fun _ r hr => Or.inr (Or.inr ⟨⟨caller, some w.server⟩, ?_, ?_⟩)⟩
    · obtain ⟨hlt, -⟩ := List.getElem?_eq_some_iff.1 hk
      exact List.mem_set hlt _
    · intro readings hs
      obtain rfl : w.server = readings := Option.some.inj hs
      exact Brings.of_mem hr
  · exact h

/-- What an answer brings is in the store once it has been applied. -/
theorem LiveWorld.Ok.answer {w : LiveWorld} (h : w.Ok) (k : Nat) : (w.step (.answer k)).Ok := by
  simp only [LiveWorld.step]
  split
  · rename_i caller readings hk
    have hlive := answered_live_iff w.store caller readings
    have hhas : ∀ {r}, (w.store.applyAll readings).Has r → (w.store.answered caller readings).Has r := by
      intro r hr
      rw [AirStore.Has, answered_latest]
      exact hr
    refine ⟨fun hl => h.connected (hlive.1 hl), fun hor r hr => ?_⟩
    rcases h.coming (hor.imp_left hlive.1) r hr with hr | hr | ⟨q, hq, hqr⟩
    · exact Or.inl (hhas (hr.applyAll readings))
    · exact Or.inr (Or.inl hr)
    · obtain ⟨j, hj⟩ := List.mem_iff_getElem?.1 hq
      by_cases hjk : j = k
      · subst hjk
        obtain rfl : (⟨caller, some readings⟩ : LatestRequest) = q := Option.some.inj (hk.symm.trans hj)
        exact Or.inl (hhas ((hqr readings rfl).has_applyAll w.store))
      · exact Or.inr (Or.inr ⟨q, List.mem_eraseIdx_iff_getElem?.2 ⟨j, hjk, hj⟩, hqr⟩)
  · exact h

/-! ## Every run -/

theorem ok_init (server : List Reading) : (LiveWorld.init server).Ok where
  connected := fun h => nomatch h
  coming := by
    intro h r hr
    have hempty : server.isEmpty = true := by
      rcases h with h | h
      · cases h
      · simpa [LiveWorld.init] using h
    rw [LiveWorld.init, List.isEmpty_iff.1 hempty] at hr
    cases hr

theorem ok_step (w : LiveWorld) (e : LiveEvent) (hin : e.ConnectsInTime w) (h : w.Ok) : (w.step e).Ok := by
  cases e with
  | newReading reading => exact h.newReading reading
  | start =>
    simp only [LiveWorld.step]
    split
    · exact h
    · exact h.ask { w.store with starting := true } rfl rfl .load
  | socket connected =>
    cases connected with
    | true => exact h.connect hin
    | false => exact h.disconnect
  | onReading => exact h.onReading
  | pollDelay =>
    simp only [LiveWorld.step]
    split
    · exact h.ask w.store.pollDelayFired rfl rfl .poll
    · exact h
  | pollTimer =>
    simp only [LiveWorld.step]
    split
    · exact h.ask w.store rfl rfl .poll
    · exact h
  | onVisible =>
    simp only [LiveWorld.step]
    split
    · exact h.ask w.store rfl rfl .syncLatest
    · exact h
  | snapshot k => exact h.snapshot k
  | answer k => exact h.answer k

/-- With all on its way and nothing left to handle, the store is current. -/
theorem LiveWorld.Ok.current {w : LiveWorld} (h : w.Ok) : w.Current := by
  intro hlive hqueue hrequests r hr
  rcases h.coming (Or.inl hlive) r hr with hhas | ⟨x, hx, -⟩ | ⟨q, hq, -⟩
  · exact hhas
  · rw [hqueue] at hx
    cases hx
  · rw [hrequests] at hq
    cases hq

/-- As long as the first connect of the socket comes in time, an open live channel means current data. -/
theorem live_is_current (server : List Reading) (es : List LiveEvent)
    (hes : liveMachine.Along (fun w e => e.ConnectsInTime w) (LiveWorld.init server) es) :
    (liveMachine.run (LiveWorld.init server) es).Current :=
  (liveMachine.run_inv_of_along (C := fun w e => e.ConnectsInTime w) ok_step (ok_init server) hes).current

/-- The page loads and connects, and a reading comes. -/
theorem live_is_current_first :
    (liveMachine.run (LiveWorld.init []) [.start, .snapshot 0, .answer 0, .socket true, .newReading (readingAt "a" 1000),
      .onReading]).Current := by
  refine live_is_current [] _ ⟨trivial, trivial, trivial, ?_, trivial, trivial, trivial⟩
  intro _ _
  exact Or.inl rfl

/-- A reading comes after the answer of the initial load was read and before the socket connects: the channel is live and the
store does not have it. -/
theorem live_is_current_false :
    ¬ ∀ (server : List Reading) (es : List LiveEvent), (liveMachine.run (LiveWorld.init server) es).Current := by
  intro h
  obtain ⟨latest, hlatest, -⟩ := h [] [.start, .snapshot 0, .newReading (readingAt "a" 1000), .answer 0, .socket true]
    rfl rfl rfl (readingAt "a" 1000) (by decide)
  cases hlatest

end AirQuality
