import AirQuality.Dashboard.Page

/-!
# The live channel and the polling that stands in for it

The state of the connection and the two timers, over any run of socket events, timers and polls that answer or fail however late.
The last event of the socket settles which of the store's states it can be in (`ConnectionStands`).
-/

namespace AirQuality

/-- The socket event of an event, if it is one. -/
def ConnectionEvent.socketEvent : ConnectionEvent → Option SocketEvent
  | .socket e => some e
  | _ => none

/-- The event completes a poll. -/
def ConnectionEvent.completesPoll : ConnectionEvent → Bool
  | .polled _ | .pollFailed => true
  | _ => false

/-- The last socket event of a run. -/
def lastSocket (es : List ConnectionEvent) : Option SocketEvent := (es.filterMap ConnectionEvent.socketEvent).getLast?

/-- How the page stands after a last socket event, or before the first. -/
def ConnectionStands (w : ConnectionPage) : Option SocketEvent → Prop
  | none => w.store.connection = .connecting ∧ w.store.pollDelay = false ∧ w.store.pollTimer = false ∧ w.polls = 0
  | some .connect => w.store.connection = .live ∧ w.store.pollDelay = false ∧ w.store.pollTimer = false
  | some _ =>
    (w.store.connection = .reconnecting ∨ w.store.connection = .polling) ∧ w.store.pollTimer = !w.store.pollDelay

/-! ## Steps -/

theorem lastSocket_snoc (es : List ConnectionEvent) (e : ConnectionEvent) :
    lastSocket (es ++ [e]) = e.socketEvent.or (lastSocket es) := by
  cases e <;> simp [lastSocket, ConnectionEvent.socketEvent]

/-- The answer of a poll leaves the timers, and sets the connection unless it is live. -/
theorem answered_poll_eq (st : AirStore) (readings : List Reading) :
    (st.answered .poll readings).connection = (if st.connection = .live then .live else .polling) ∧
      (st.answered .poll readings).pollDelay = st.pollDelay ∧ (st.answered .poll readings).pollTimer = st.pollTimer := by
  rw [AirStore.answered, applyAll_eq, AirStore.pollDone]
  by_cases h : st.connection = .live <;> simp [h]

theorem pollFailed_eq (st : AirStore) :
    st.pollFailed.connection = (if st.connection = .live then .live else .reconnecting) ∧
      st.pollFailed.pollDelay = st.pollDelay ∧ st.pollFailed.pollTimer = st.pollTimer := by
  rw [AirStore.pollFailed]
  by_cases h : st.connection = .live <;> simp [h]

/-- A connect makes the channel live and disarms both timers, however the page stood. -/
theorem stands_connect (w : ConnectionPage) : ConnectionStands (w.step (.socket .connect)) (some .connect) :=
  ⟨rfl, rfl, rfl⟩

/-- After a failure of the socket the channel is not live, and one timer is armed: the one that was, or else the delay. -/
theorem stands_down {w : ConnectionPage} {last : Option SocketEvent} (h : ConnectionStands w last) {e : SocketEvent}
    (he : e.connected = false) : ConnectionStands (w.step (.socket e)) (some e) := by
  obtain ⟨⟨_, _, connection, _, _, _, pollTimer, pollDelay⟩, _⟩ := w
  have hdown : ∀ w' : ConnectionPage, (w'.store.connection = .reconnecting ∨ w'.store.connection = .polling) ∧
      w'.store.pollTimer = !w'.store.pollDelay → ConnectionStands w' (some e) := by
    cases e with
    | connect => cases he
    | disconnect => exact fun _ h => h
    | connectError => exact fun _ h => h
  refine hdown _ ?_
  simp only [ConnectionPage.step, AirStore.onConnection, he]
  rcases last with _ | _ | _ | _ <;> simp only [ConnectionStands] at h <;> grind

/-- A poll that completes leaves the timers, leaves a live channel live, and makes none live. -/
theorem stands_completed {w : ConnectionPage} {last : Option SocketEvent} (h : ConnectionStands w last)
    (hpolls : w.polls ≠ 0) {st : AirStore} {c : ConnectionState} (hc : c = .reconnecting ∨ c = .polling)
    (hst : st.connection = (if w.store.connection = .live then .live else c) ∧ st.pollDelay = w.store.pollDelay ∧
      st.pollTimer = w.store.pollTimer) : ConnectionStands ⟨st, w.polls - 1⟩ last := by
  obtain ⟨hconnection, hdelay, htimer⟩ := hst
  have hdown : w.store.connection = .reconnecting ∨ w.store.connection = .polling → st.connection = c := by
    intro hw
    rw [hconnection, if_neg]
    rcases hw with hw | hw <;> rw [hw] <;> decide
  cases last with
  | none => exact absurd h.2.2.2 hpolls
  | some e =>
    cases e with
    | connect => exact ⟨by rw [hconnection, if_pos h.1], hdelay.trans h.2.1, htimer.trans h.2.2⟩
    | disconnect => exact ⟨by rwa [hdown h.1], by rw [htimer, hdelay, h.2]⟩
    | connectError => exact ⟨by rwa [hdown h.1], by rw [htimer, hdelay, h.2]⟩

/-- A timer or a poll leaves the page as the last socket event has it. -/
theorem stands_step {w : ConnectionPage} {last : Option SocketEvent} (h : ConnectionStands w last) {e : ConnectionEvent}
    (he : e.socketEvent = none) : ConnectionStands (w.step e) last := by
  cases e with
  | socket e => cases he
  | pollDelay =>
    rw [ConnectionPage.step]
    split_ifs with hdelay
    · -- a delay is armed only while the channel is down, and the timer is not
      rcases last with _ | _ | _ | _
      · exact absurd (h.2.1.symm.trans hdelay) Bool.false_ne_true
      · exact absurd (h.2.1.symm.trans hdelay) Bool.false_ne_true
      · exact ⟨h.1, rfl⟩
      · exact ⟨h.1, rfl⟩
    · exact h
  | pollTimer =>
    rw [ConnectionPage.step]
    split_ifs with htimer
    · rcases last with _ | _ | _ | _
      · exact absurd (h.2.2.1.symm.trans htimer) Bool.false_ne_true
      · exact h
      · exact h
      · exact h
    · exact h
  | polled readings =>
    rw [ConnectionPage.step]
    split_ifs with hpolls
    · exact h
    · exact stands_completed h hpolls (Or.inr rfl) (answered_poll_eq w.store readings)
  | pollFailed =>
    rw [ConnectionPage.step]
    split_ifs with hpolls
    · exact h
    · exact stands_completed h hpolls (Or.inl rfl) (pollFailed_eq w.store)

/-! ## Runs -/

/-- Every run leaves the page as its last socket event has it. -/
theorem run_stands (readings : List Reading) (es : List ConnectionEvent) :
    ConnectionStands (connectionMachine.run (ConnectionPage.start readings) es) (lastSocket es) := by
  induction es using List.reverseRecOn with
  | nil =>
    rw [Machine.run_nil, ConnectionPage.start, AirStore.loaded, applyAll_eq]
    exact ⟨rfl, rfl, rfl, rfl⟩
  | append_singleton es e ih =>
    rw [Machine.run_snoc, lastSocket_snoc]
    cases e with
    | socket e =>
      cases e with
      | connect => exact stands_connect _
      | disconnect => exact stands_down ih rfl
      | connectError => exact stands_down ih rfl
    | pollDelay => exact stands_step ih rfl
    | pollTimer => exact stands_step ih rfl
    | polled readings => exact stands_step ih rfl
    | pollFailed => exact stands_step ih rfl

/-- The connection and the polling. In every run before `stop`, once an event of the socket has come:
1. the connection is live exactly if the last event of the socket was a connect;
2. if it was not, exactly one of the delay and the timer of the polling is armed;
3. if it was, neither is, and a poll that completes leaves the connection as it is. -/
theorem connection_polling (readings : List Reading) (es : List ConnectionEvent) (last : SocketEvent)
    (hlast : lastSocket es = some last) :
    ((connectionMachine.run (ConnectionPage.start readings) es).store.connection = .live ↔ last = .connect) ∧
    (last ≠ .connect →
      Xor ((connectionMachine.run (ConnectionPage.start readings) es).store.pollDelay = true)
        ((connectionMachine.run (ConnectionPage.start readings) es).store.pollTimer = true)) ∧
    (last = .connect →
      ((connectionMachine.run (ConnectionPage.start readings) es).store.pollDelay = false ∧
        (connectionMachine.run (ConnectionPage.start readings) es).store.pollTimer = false) ∧
      ∀ e : ConnectionEvent, e.completesPoll = true →
        (connectionMachine.run (ConnectionPage.start readings) (es ++ [e])).store.connection =
          (connectionMachine.run (ConnectionPage.start readings) es).store.connection) := by
  have h := run_stands readings es
  rw [hlast] at h
  have hdown : last ≠ .connect → ((connectionMachine.run (ConnectionPage.start readings) es).store.connection = .reconnecting ∨
      (connectionMachine.run (ConnectionPage.start readings) es).store.connection = .polling) ∧
      (connectionMachine.run (ConnectionPage.start readings) es).store.pollTimer =
        !(connectionMachine.run (ConnectionPage.start readings) es).store.pollDelay := by
    intro hne
    cases last with
    | connect => exact absurd rfl hne
    | disconnect => exact h
    | connectError => exact h
  refine ⟨⟨fun hlive => ?_, ?_⟩, fun hne => ?_, ?_⟩
  · by_contra hne
    rcases (hdown hne).1 with hc | hc <;> cases hc.symm.trans hlive
  · rintro rfl
    exact h.1
  · rw [(hdown hne).2]
    cases (connectionMachine.run (ConnectionPage.start readings) es).store.pollDelay <;> decide
  · rintro rfl
    refine ⟨h.2, fun e he => ?_⟩
    have hnone : e.socketEvent = none := by
      cases e <;> first | rfl | cases he
    have hnext := stands_step h hnone
    rw [Machine.run_snoc]
    exact hnext.1.trans h.1.symm

/-- The socket fails, the page polls, the socket connects, and the poll answers only then. -/
theorem connection_polling_late :
    (connectionMachine.run (ConnectionPage.start [])
      [.socket .connectError, .pollDelay, .socket .connect, .polled []]).store.connection = .live :=
  (connection_polling [] [.socket .connectError, .pollDelay, .socket .connect, .polled []] .connect (by decide)).1.2 rfl

end AirQuality
