import AirQuality.Dashboard.Lifecycle

/-!
# What the store holds, and what it lets go

Every interval, timeout and subscription that is alive in the browser is one the store has in a variable, in every state of every
run: `owned_run`. From it come the bounds on what is alive, what `stop` releases, and when the page stays quiet after it.
-/

namespace AirQuality

/-! ## Ownership -/

/-- The intervals the store has, with what it set them for. -/
def PageStore.intervals (st : PageStore) : List (ℕ × IntervalKind) :=
  st.pollTimer.toList.map (fun id => (id, .poll)) ++ st.timers.zip [.clock, .refresh]

def PageStore.timeouts (st : PageStore) : List (ℕ × TimeoutKind) :=
  st.pollDelay.toList.map (fun id => (id, .startPolling)) ++ st.refreshQueued.toList.map (fun id => (id, .refreshSensors))

def PageStore.sockets (st : PageStore) : List (ℕ × Unit) := st.stopRealtime.toList.map (fun id => (id, ()))

/-- What is alive in the browser is what the store has. -/
structure StorePage.Owned (w : StorePage) : Prop where
  intervals : Handles.Held w.browser.intervals w.store.intervals
  timeouts : Handles.Held w.browser.timeouts w.store.timeouts
  sockets : Handles.Held w.browser.sockets w.store.sockets
  timers : w.store.timers = [] ∨ w.store.timers.length = 2
  listening : w.browser.listening = !w.store.timers.isEmpty
  polling : w.store.pollDelay = none ∨ w.store.pollTimer = none

namespace StorePage

variable {w : StorePage}

theorem owned_init : StorePage.init.Owned :=
  ⟨Handles.held_empty, Handles.held_empty, Handles.held_empty, Or.inl rfl, rfl, Or.inl rfl⟩

/-- A change of anything but the handles keeps ownership. -/
theorem Owned.congr {w' : StorePage} (h : w.Owned) (hbrowser : w'.browser = w.browser)
    (hrealtime : w'.store.stopRealtime = w.store.stopRealtime) (htimer : w'.store.pollTimer = w.store.pollTimer)
    (hdelay : w'.store.pollDelay = w.store.pollDelay) (hqueued : w'.store.refreshQueued = w.store.refreshQueued)
    (htimers : w'.store.timers = w.store.timers) : w'.Owned := by
  constructor
  · unfold PageStore.intervals
    rw [hbrowser, htimer, htimers]
    exact h.intervals
  · unfold PageStore.timeouts
    rw [hbrowser, hdelay, hqueued]
    exact h.timeouts
  · unfold PageStore.sockets
    rw [hbrowser, hrealtime]
    exact h.sockets
  · rw [htimers]
    exact h.timers
  · rw [hbrowser, htimers]
    exact h.listening
  · rw [hdelay, htimer]
    exact h.polling

theorem owned_ask (h : w.Owned) (c : StoreCall) : (w.ask c).Owned := h.congr rfl rfl rfl rfl rfl rfl

theorem owned_setConnection (h : w.Owned) (c : ConnectionState) : (w.setConnection c).Owned := h.congr rfl rfl rfl rfl rfl rfl

theorem owned_refreshSensors (h : w.Owned) : w.refreshSensors.Owned := by
  unfold refreshSensors
  split_ifs
  · exact owned_ask h _
  · exact h

theorem owned_syncLatest (h : w.Owned) : w.syncLatest.Owned := by
  unfold syncLatest
  split_ifs
  · exact owned_ask h _
  · exact h

theorem owned_poll (h : w.Owned) : w.poll.Owned := by
  unfold poll
  split_ifs
  · exact owned_ask h _
  · exact h.congr rfl rfl rfl rfl rfl rfl
  · exact h

/-- A device that is not known has a refresh queued, one at most. -/
theorem owned_askAbout (h : w.Owned) (sensorId : String) : (w.askAbout sensorId).Owned := by
  unfold askAbout
  dsimp only
  cases hqueued : w.store.refreshQueued with
  | some id => exact h.congr rfl rfl rfl rfl hqueued.symm rfl
  | none =>
    refine ⟨h.intervals, ?_, h.sockets, h.timers, h.listening, h.polling⟩
    have hheld := h.timeouts
    unfold PageStore.timeouts at hheld ⊢
    rw [hqueued, Option.toList_none, List.map_nil, List.append_nil] at hheld
    exact (hheld.acquire _).perm (List.perm_append_singleton _ _).symm

theorem owned_applyReading (h : w.Owned) (reading : Reading) (live : Bool) : (w.applyReading reading live).Owned := by
  unfold applyReading
  split_ifs
  · exact h
  · dsimp only
    split_ifs
    · refine owned_askAbout ?_ _
      exact h.congr rfl rfl rfl rfl rfl rfl
    · exact h.congr rfl rfl rfl rfl rfl rfl

theorem owned_applyAll (h : w.Owned) (readings : List Reading) : (w.applyAll readings).Owned := by
  unfold applyAll
  induction readings generalizing w with
  | nil => exact h
  | cons reading readings ih => exact ih (owned_applyReading h reading false)

/-! ## The connection -/

theorem owned_clearPollDelay (h : w.Owned) : w.clearPollDelay.Owned := by
  unfold clearPollDelay
  cases hdelay : w.store.pollDelay with
  | none => exact h
  | some id =>
    refine ⟨h.intervals, ?_, h.sockets, h.timers, h.listening, Or.inl rfl⟩
    have hheld := h.timeouts
    unfold PageStore.timeouts at hheld ⊢
    rw [hdelay] at hheld
    exact hheld.release

theorem owned_clearPollTimer (h : w.Owned) : w.clearPollTimer.Owned := by
  unfold clearPollTimer
  cases htimer : w.store.pollTimer with
  | none => exact h
  | some id =>
    refine ⟨?_, h.timeouts, h.sockets, h.timers, h.listening, Or.inr rfl⟩
    have hheld := h.intervals
    unfold PageStore.intervals at hheld ⊢
    rw [htimer] at hheld
    exact hheld.release

theorem owned_stopPolling (h : w.Owned) : w.stopPolling.Owned := owned_clearPollTimer (owned_clearPollDelay h)

theorem clearPollDelay_pollDelay (w : StorePage) : w.clearPollDelay.store.pollDelay = none := by
  unfold clearPollDelay
  cases hdelay : w.store.pollDelay with
  | none => exact hdelay
  | some id => rfl

theorem clearPollTimer_pollTimer (w : StorePage) : w.clearPollTimer.store.pollTimer = none := by
  unfold clearPollTimer
  cases htimer : w.store.pollTimer with
  | none => exact htimer
  | some id => rfl

theorem clearPollTimer_pollDelay (w : StorePage) : w.clearPollTimer.store.pollDelay = w.store.pollDelay := by
  unfold clearPollTimer
  cases w.store.pollTimer <;> rfl

/-- Polling is stopped: neither of the two is set. -/
theorem stopPolling_none (w : StorePage) : w.stopPolling.store.pollDelay = none ∧ w.stopPolling.store.pollTimer = none :=
  ⟨(clearPollTimer_pollDelay _).trans (clearPollDelay_pollDelay w), clearPollTimer_pollTimer _⟩

theorem owned_setPollDelay (h : w.Owned) (hdelay : w.store.pollDelay = none) (htimer : w.store.pollTimer = none) :
    w.setPollDelay.Owned := by
  refine ⟨h.intervals, ?_, h.sockets, h.timers, h.listening, Or.inr htimer⟩
  have hheld := h.timeouts
  unfold PageStore.timeouts at hheld
  rw [hdelay] at hheld
  exact hheld.acquire _

theorem owned_onConnection (h : w.Owned) (connected : Bool) : (w.onConnection connected).Owned := by
  unfold onConnection
  cases connected with
  | true =>
    dsimp only
    rw [if_pos rfl]
    have hlive := owned_setConnection (owned_stopPolling h) .live
    split_ifs
    · exact owned_syncLatest hlive
    · exact hlive
  | false =>
    dsimp only
    rw [if_neg Bool.false_ne_true]
    have hdown : (if w.store.connection = .live ∨ w.store.connection = .connecting then w.setConnection .reconnecting
        else w).Owned := by
      split_ifs
      · exact owned_setConnection h _
      · exact h
    generalize (if w.store.connection = .live ∨ w.store.connection = .connecting then w.setConnection .reconnecting else w) = w'
      at hdown ⊢
    split_ifs with hpolling
    · exact hdown
    · simp only [not_or, Bool.not_eq_true, Option.isSome_eq_false_iff, Option.isNone_iff_eq_none] at hpolling
      exact owned_setPollDelay hdown hpolling.1 hpolling.2

/-- A request and what it says of the connection leave the timers alone. -/
theorem poll_pollTimer (w : StorePage) : w.poll.store.pollTimer = w.store.pollTimer := by
  unfold poll
  split_ifs <;> rfl

theorem poll_pollDelay (w : StorePage) : w.poll.store.pollDelay = w.store.pollDelay := by
  unfold poll
  split_ifs <;> rfl

theorem owned_setPollTimer (h : w.Owned) (hdelay : w.store.pollDelay = none) (htimer : w.store.pollTimer = none) :
    w.setPollTimer.Owned := by
  refine ⟨?_, h.timeouts, h.sockets, h.timers, h.listening, Or.inl hdelay⟩
  have hheld := h.intervals
  unfold PageStore.intervals at hheld
  rw [htimer] at hheld
  exact hheld.acquire _

theorem mem_timeouts_iff {st : PageStore} {id : ℕ} {kind : TimeoutKind} :
    (id, kind) ∈ st.timeouts ↔
      kind = .startPolling ∧ st.pollDelay = some id ∨ kind = .refreshSensors ∧ st.refreshQueued = some id := by
  unfold PageStore.timeouts
  rw [List.mem_append, List.mem_map, List.mem_map]
  simp only [Option.mem_toList, Prod.mk.injEq]
  cases kind <;> simp

/-- A timeout that fires is one the store has, and it is the store's no longer. -/
theorem owned_timeoutFired (h : w.Owned) {id : ℕ} {kind : TimeoutKind} (hid : w.browser.timeouts.purpose id = some kind) :
    ({ w with browser := { w.browser with timeouts := w.browser.timeouts.release id } }.timeoutFired kind).Owned := by
  have hmem := mem_timeouts_iff.1 ((Handles.purpose_eq_some_iff h.timeouts).1 hid)
  have hheld := h.timeouts
  unfold PageStore.timeouts at hheld
  rcases hmem with ⟨rfl, hdelay⟩ | ⟨rfl, hqueued⟩
  · have htimer : w.store.pollTimer = none := by
      rcases h.polling with hnone | hnone
      · rw [hdelay] at hnone
        cases hnone
      · exact hnone
    rw [hdelay] at hheld
    refine owned_setPollTimer (owned_poll ⟨h.intervals, hheld.release, h.sockets, h.timers, h.listening, Or.inl rfl⟩) ?_ ?_
    · exact poll_pollDelay _
    · exact (poll_pollTimer _).trans htimer
  · rw [hqueued] at hheld
    have hreleased := (hheld.perm (List.perm_append_singleton _ _)).release
    refine owned_refreshSensors ⟨h.intervals, ?_, h.sockets, h.timers, h.listening, h.polling⟩
    unfold PageStore.timeouts
    rw [Option.toList_none, List.map_nil, List.append_nil]
    exact hreleased

theorem owned_intervalFired (h : w.Owned) (kind : IntervalKind) : (w.intervalFired kind).Owned := by
  cases kind with
  | clock => exact h
  | refresh =>
    refine owned_refreshSensors ?_
    exact h.congr rfl rfl rfl rfl rfl rfl
  | poll => exact owned_poll h

/-! ## The lifecycle -/

theorem owned_load (h : w.Owned) : w.load.Owned := h.congr rfl rfl rfl rfl rfl rfl

theorem owned_start (h : w.Owned) : w.start.Owned := by
  unfold start
  split_ifs
  · exact h
  · exact (owned_load h).congr rfl rfl rfl rfl rfl rfl

theorem owned_retry (h : w.Owned) : w.retry.Owned := (owned_load h).congr rfl rfl rfl rfl rfl rfl

/-- A second load finds the subscription and keeps it. -/
theorem owned_subscribe (h : w.Owned) : w.subscribe.Owned := by
  unfold subscribe
  cases hrealtime : w.store.stopRealtime with
  | some id => exact h
  | none =>
    refine ⟨h.intervals, h.timeouts, ?_, h.timers, h.listening, h.polling⟩
    have hheld := h.sockets
    unfold PageStore.sockets at hheld
    rw [hrealtime] at hheld
    exact hheld.acquire ()

theorem owned_setTimers (h : w.Owned) : w.setTimers.Owned := by
  unfold setTimers
  cases htimers : w.store.timers with
  | cons id ids => exact h
  | nil =>
    refine ⟨?_, h.timeouts, h.sockets, Or.inr rfl, rfl, h.polling⟩
    have hheld := h.intervals
    unfold PageStore.intervals at hheld ⊢
    rw [htimers, List.zip_nil_left, List.append_nil] at hheld
    have hboth := (hheld.acquire .clock).acquire .refresh
    refine hboth.perm ?_
    -- the two timers stand behind the poll, the clock first
    exact (List.Perm.swap _ _ _).trans (@List.perm_append_comm _ [_, _] _)

theorem owned_loaded (h : w.Owned) (sensors : List String) (readings : List Reading) : (w.loaded sensors readings).Owned := by
  have hsensors : ({ w with store := { w.store with sensors } } : StorePage).Owned := h.congr rfl rfl rfl rfl rfl rfl
  have happlied := owned_applyAll hsensors readings
  unfold loaded
  refine owned_setTimers (owned_subscribe ?_)
  exact happlied.congr rfl rfl rfl rfl rfl rfl

theorem owned_unsubscribe (h : w.Owned) : w.unsubscribe.Owned := by
  unfold unsubscribe
  cases hrealtime : w.store.stopRealtime with
  | none => exact h
  | some id =>
    refine ⟨h.intervals, h.timeouts, ?_, h.timers, h.listening, h.polling⟩
    have hheld := h.sockets
    unfold PageStore.sockets at hheld
    rw [hrealtime] at hheld
    exact hheld.release

/-- What `stop` does to the timers and the listener. -/
theorem owned_clearTimers (h : w.Owned) : ({ w.clearTimers with
    browser := { w.clearTimers.browser with listening := false }
    store := { w.clearTimers.store with starting := false } } : StorePage).Owned := by
  refine ⟨?_, h.timeouts, h.sockets, Or.inl rfl, rfl, h.polling⟩
  have hheld := h.intervals
  unfold PageStore.intervals at hheld
  unfold PageStore.intervals
  change Handles.Held (w.store.timers.foldl Handles.release w.browser.intervals)
    (w.store.pollTimer.toList.map (fun id => (id, .poll)) ++ [])
  rw [List.append_nil]
  rcases h.timers with htimers | htimers
  · rw [htimers, List.zip_nil_left, List.append_nil] at hheld
    rw [htimers]
    exact hheld
  · obtain ⟨clock, refresh, htwo⟩ := List.length_eq_two.1 htimers
    rw [htwo] at hheld ⊢
    exact (hheld.perm List.perm_append_comm).release.release

theorem owned_stop (h : w.Owned) : w.stop.Owned := owned_clearTimers (owned_stopPolling (owned_unsubscribe h))

/-! ## Every run -/

theorem owned_latestAnswered (h : w.Owned) (c : StoreCall) (readings : List Reading) : (w.latestAnswered c readings).Owned := by
  unfold latestAnswered
  dsimp only
  split_ifs
  · exact owned_setConnection (owned_applyAll h readings) _
  · exact owned_applyAll h readings

theorem owned_callFailed (h : w.Owned) (c : StoreCall) : (w.callFailed c).Owned := by
  unfold callFailed
  split_ifs
  · exact owned_setConnection h _
  · exact h

theorem owned_calls (h : w.Owned) (calls : List StoreCall) : ({ w with calls } : StorePage).Owned := h.congr rfl rfl rfl rfl rfl rfl

theorem owned_step (h : w.Owned) (e : StoreEvent) : (w.step e).Owned := by
  cases e with
  | start => exact owned_start h
  | retry => exact owned_retry h
  | stop => exact owned_stop h
  | loadCreated k =>
    dsimp only [step]
    split_ifs
    · exact h.congr rfl rfl rfl rfl rfl rfl
    · exact h
  | loadAnswered k sensors readings =>
    dsimp only [step]
    split_ifs
    · refine owned_loaded ?_ sensors readings
      exact h.congr rfl rfl rfl rfl rfl rfl
    · exact h
  | loadFailed k message =>
    dsimp only [step]
    split_ifs
    · exact h.congr rfl rfl rfl rfl rfl rfl
    · exact h
  | onReading id reading =>
    dsimp only [step]
    split_ifs
    · exact owned_applyReading h reading true
    · exact h
  | onConnection id connected =>
    dsimp only [step]
    split_ifs
    · exact owned_onConnection h connected
    · exact h
  | interval id =>
    dsimp only [step]
    split
    · exact owned_intervalFired h _
    · exact h
  | timeout id =>
    dsimp only [step]
    split
    · next kind hkind => exact owned_timeoutFired h hkind
    · exact h
  | visible =>
    dsimp only [step]
    unfold onVisible
    split_ifs
    · exact owned_syncLatest h
    · exact h
    · exact h
  | sensorsAnswered k sensors =>
    dsimp only [step]
    split_ifs
    · exact h.congr rfl rfl rfl rfl rfl rfl
    · exact h
  | latestAnswered k readings =>
    dsimp only [step]
    split
    · exact owned_latestAnswered (owned_calls h _) _ readings
    · exact owned_latestAnswered (owned_calls h _) _ readings
    · exact h
  | callFailed k =>
    dsimp only [step]
    split
    · exact owned_callFailed (owned_calls h _) _
    · exact h

end StorePage

/-- The page after the events of a run. -/
def pageAfter (es : List StoreEvent) : StorePage := storeMachine.run .init es

theorem pageAfter_append (es fs : List StoreEvent) : pageAfter (es ++ fs) = storeMachine.run (pageAfter es) fs :=
  storeMachine.run_append .init es fs

theorem owned_run_of {w : StorePage} (h : w.Owned) (es : List StoreEvent) : (storeMachine.run w es).Owned := by
  have hstep : ∀ w e, StorePage.Owned w → (storeMachine.step w e).1.Owned := fun _ e h => StorePage.owned_step h e
  exact storeMachine.run_inv hstep h es

theorem owned_run (es : List StoreEvent) : (pageAfter es).Owned := owned_run_of StorePage.owned_init es

/-! ## A page that is quiet -/

/-- Nothing of the store is alive in the browser, but for a refresh that may still be queued. -/
structure StorePage.Quiet (w : StorePage) : Prop where
  intervals : w.browser.intervals.alive = []
  timeouts : ∀ p ∈ w.browser.timeouts.alive, p.2 = .refreshSensors
  sockets : w.browser.sockets.alive = []
  listening : w.browser.listening = false

/-- The store has none of the handles that `stop` lets go. -/
structure PageStore.Stopped (st : PageStore) : Prop where
  stopRealtime : st.stopRealtime = none
  pollTimer : st.pollTimer = none
  pollDelay : st.pollDelay = none
  timers : st.timers = []

namespace StorePage

variable {w : StorePage}

theorem quiet_of_stopped (h : w.Owned) (hs : w.store.Stopped) : w.Quiet := by
  have hintervals := h.intervals.alive
  have htimeouts := h.timeouts.alive
  have hsockets := h.sockets.alive
  unfold PageStore.intervals at hintervals
  unfold PageStore.timeouts at htimeouts
  unfold PageStore.sockets at hsockets
  rw [hs.pollTimer, hs.timers] at hintervals
  rw [hs.pollDelay] at htimeouts
  rw [hs.stopRealtime] at hsockets
  refine ⟨hintervals.eq_nil, ?_, hsockets.eq_nil, ?_⟩
  · intro p hp
    obtain ⟨id, -, rfl⟩ := List.mem_map.1 (htimeouts.mem_iff.1 hp)
    rfl
  · rw [h.listening, hs.timers]
    rfl

/-- A page that is quiet has no subscription. -/
theorem stopRealtime_of_quiet (h : w.Owned) (hq : w.Quiet) : w.store.stopRealtime = none := by
  have hsockets := h.sockets.alive
  rw [hq.sockets] at hsockets
  unfold PageStore.sockets at hsockets
  cases hrealtime : w.store.stopRealtime with
  | none => rfl
  | some id =>
    rw [hrealtime] at hsockets
    exact absurd hsockets.nil_eq (List.cons_ne_nil _ _).symm

theorem unsubscribe_stopRealtime (w : StorePage) : w.unsubscribe.store.stopRealtime = none := by
  unfold unsubscribe
  cases hrealtime : w.store.stopRealtime with
  | none => exact hrealtime
  | some id => rfl

/-! ### What the steps leave alone -/

/-- Readings that are not live change the latest readings and the histories, as in the live picture, and nothing else. -/
theorem applyReading_polled (w : StorePage) (reading : Reading) :
    w.applyReading reading false =
      { w with
        store :=
          { w.store with
            latest := (w.store.air.applyReading reading false).latest
            rawHistory := (w.store.air.applyReading reading false).rawHistory } } := by
  unfold applyReading
  split_ifs with hhas
  · rw [applyReading_of_has hhas]
    rfl
  · simp

theorem applyAll_eq (w : StorePage) (readings : List Reading) :
    w.applyAll readings =
      { w with
        store :=
          { w.store with
            latest := (w.store.air.applyAll readings).latest
            rawHistory := (w.store.air.applyAll readings).rawHistory } } := by
  unfold applyAll AirStore.applyAll
  induction readings generalizing w with
  | nil => rfl
  | cons reading readings ih =>
    have hair : (w.applyReading reading false).store.air = w.store.air.applyReading reading false := by
      rw [applyReading_polled, applyReading_eq]
      rfl
    rw [List.foldl_cons, ih, hair, applyReading_polled]
    rfl

/-! ### The live picture -/

theorem air_stopPolling (w : StorePage) : w.stopPolling.store.air = w.store.air.stopPolling := by
  unfold stopPolling clearPollTimer clearPollDelay
  cases hdelay : w.store.pollDelay <;> cases htimer : w.store.pollTimer <;>
    simp [PageStore.air, AirStore.stopPolling, hdelay, htimer]

theorem air_applyReading (w : StorePage) (reading : Reading) (live : Bool) :
    (w.applyReading reading live).store.air = w.store.air.applyReading reading live := by
  unfold applyReading
  split_ifs with hhas
  · rw [applyReading_of_has hhas]
  · dsimp only
    have hpicture : (w.store.air.applyReading reading live) = { w.store.air with
        latest := (w.store.air.applyReading reading live).latest
        rawHistory := (w.store.air.applyReading reading live).rawHistory } := by
      rw [applyReading_eq]
    rw [hpicture]
    split_ifs
    · unfold askAbout
      dsimp only
      cases w.store.refreshQueued <;> rfl
    · rfl

theorem air_onConnection (w : StorePage) (connected : Bool) :
    (w.onConnection connected).store.air = (w.store.air.onConnection connected).1 := by
  unfold onConnection AirStore.onConnection
  cases connected with
  | true =>
    dsimp only
    rw [if_pos rfl, if_pos rfl, ← air_stopPolling]
    unfold syncLatest
    split_ifs <;> rfl
  | false =>
    dsimp only
    rw [if_neg Bool.false_ne_true, if_neg Bool.false_ne_true]
    by_cases hconnection : w.store.connection = .live ∨ w.store.connection = .connecting
    · rw [if_pos hconnection, if_pos (show w.store.air.connection = _ ∨ w.store.air.connection = _ from hconnection)]
      cases hdelay : w.store.pollDelay <;> cases htimer : w.store.pollTimer <;>
        simp [setConnection, setPollDelay, PageStore.air, hdelay, htimer]
    · rw [if_neg hconnection, if_neg (show ¬(w.store.air.connection = _ ∨ w.store.air.connection = _) from hconnection)]
      cases hdelay : w.store.pollDelay <;> cases htimer : w.store.pollTimer <;>
        simp [setPollDelay, PageStore.air, hdelay, htimer]

theorem air_startPolling (hservice : w.store.service = true) : w.startPolling.store.air = w.store.air.pollDelayFired := by
  unfold startPolling poll
  dsimp only
  rw [if_pos hservice]
  rfl

theorem air_applyAll (w : StorePage) (readings : List Reading) :
    (w.applyAll readings).store.air = w.store.air.applyAll readings := by
  unfold applyAll AirStore.applyAll
  induction readings generalizing w with
  | nil => rfl
  | cons reading readings ih => rw [List.foldl_cons, List.foldl_cons, ih, air_applyReading]

theorem air_subscribe (w : StorePage) : w.subscribe.store.air = { w.store.air with stopRealtime := true } := by
  unfold subscribe
  cases hrealtime : w.store.stopRealtime with
  | none => rfl
  | some id => simp [PageStore.air, hrealtime]

theorem air_setTimers (w : StorePage) : w.setTimers.store.air = w.store.air := by
  unfold setTimers
  cases w.store.timers <;> rfl

/-- A load that completes does to the live picture what it did without the handles. -/
theorem air_loaded (w : StorePage) (sensors : List String) (readings : List Reading) :
    (w.loaded sensors readings).store.air = w.store.air.loaded readings := by
  have happlied := air_applyAll { w with store := { w.store with sensors } } readings
  unfold loaded AirStore.loaded
  dsimp only
  rw [air_setTimers, air_subscribe]
  change { (applyAll { w with store := { w.store with sensors } } readings).store.air with ready := true, stopRealtime := true } = _
  rw [happlied]
  rfl

/-- With its handles or without them, the store keeps the same live picture. -/
theorem live_picture (w : StorePage) :
    (∀ reading live, (w.applyReading reading live).store.air = w.store.air.applyReading reading live) ∧
    (∀ connected, (w.onConnection connected).store.air = (w.store.air.onConnection connected).1) ∧
    (w.store.service = true → w.startPolling.store.air = w.store.air.pollDelayFired) ∧
    ∀ sensors readings, (w.loaded sensors readings).store.air = w.store.air.loaded readings :=
  ⟨air_applyReading w, air_onConnection w, air_startPolling, air_loaded w⟩

/-! ### Loads -/

/-- The subscription and the loads on their way are the same. -/
structure SameLoads (w w' : StorePage) : Prop where
  stopRealtime : w'.store.stopRealtime = w.store.stopRealtime
  loads : w'.loads = w.loads

/-- So are the devices that were asked about, and the refresh that is queued. -/
structure Frame (w w' : StorePage) : Prop extends SameLoads w w' where
  unknownDevices : w'.store.unknownDevices = w.store.unknownDevices
  refreshQueued : w'.store.refreshQueued = w.store.refreshQueued

theorem Frame.trans {w w' w'' : StorePage} (h : Frame w w') (h' : Frame w' w'') : Frame w w'' where
  stopRealtime := h'.stopRealtime.trans h.stopRealtime
  loads := h'.loads.trans h.loads
  unknownDevices := h'.unknownDevices.trans h.unknownDevices
  refreshQueued := h'.refreshQueued.trans h.refreshQueued

theorem refreshSensors_store (w : StorePage) : w.refreshSensors.store = w.store := by
  unfold refreshSensors
  split_ifs <;> rfl

theorem frame_refreshSensors (w : StorePage) : Frame w w.refreshSensors := by
  unfold refreshSensors
  split_ifs <;> exact ⟨⟨rfl, rfl⟩, rfl, rfl⟩

theorem frame_syncLatest (w : StorePage) : Frame w w.syncLatest := by
  unfold syncLatest
  split_ifs <;> exact ⟨⟨rfl, rfl⟩, rfl, rfl⟩

theorem frame_poll (w : StorePage) : Frame w w.poll := by
  unfold poll
  split_ifs <;> exact ⟨⟨rfl, rfl⟩, rfl, rfl⟩

theorem frame_stopPolling (w : StorePage) : Frame w w.stopPolling := by
  unfold stopPolling clearPollTimer clearPollDelay
  cases w.store.pollDelay <;> cases w.store.pollTimer <;> exact ⟨⟨rfl, rfl⟩, rfl, rfl⟩

theorem frame_onConnection (w : StorePage) (connected : Bool) : Frame w (w.onConnection connected) := by
  unfold onConnection
  cases connected with
  | true =>
    dsimp only
    rw [if_pos rfl]
    have hlive : Frame w (w.stopPolling.setConnection .live) :=
      (frame_stopPolling w).trans ⟨⟨rfl, rfl⟩, rfl, rfl⟩
    split_ifs
    · exact hlive.trans (frame_syncLatest _)
    · exact hlive
  | false =>
    dsimp only
    rw [if_neg Bool.false_ne_true]
    split_ifs <;> exact ⟨⟨rfl, rfl⟩, rfl, rfl⟩

theorem frame_latestAnswered (w : StorePage) (c : StoreCall) (readings : List Reading) :
    Frame w (w.latestAnswered c readings) := by
  unfold latestAnswered
  rw [applyAll_eq]
  dsimp only
  split_ifs <;> exact ⟨⟨rfl, rfl⟩, rfl, rfl⟩

theorem frame_callFailed (w : StorePage) (c : StoreCall) : Frame w (w.callFailed c) := by
  unfold callFailed
  split_ifs <;> exact ⟨⟨rfl, rfl⟩, rfl, rfl⟩

/-- Which requests are on their way makes no difference to it. -/
theorem frame_of_calls {w w' : StorePage} {calls : List StoreCall} (h : Frame ({ w with calls } : StorePage) w') : Frame w w' :=
  ⟨⟨h.stopRealtime, h.loads⟩, h.unknownDevices, h.refreshQueued⟩

theorem sameLoads_askAbout (w : StorePage) (sensorId : String) : SameLoads w (w.askAbout sensorId) := by
  unfold askAbout
  dsimp only
  cases w.store.refreshQueued <;> exact ⟨rfl, rfl⟩

theorem sameLoads_applyReading (w : StorePage) (reading : Reading) (live : Bool) :
    SameLoads w (w.applyReading reading live) := by
  unfold applyReading
  split_ifs
  · exact ⟨rfl, rfl⟩
  · dsimp only
    split_ifs
    · have hask := sameLoads_askAbout { w with
        store :=
          { w.store with
            latest := (w.store.air.applyReading reading live).latest
            rawHistory := (w.store.air.applyReading reading live).rawHistory } } reading.sensorId
      exact ⟨hask.stopRealtime, hask.loads⟩
    · exact ⟨rfl, rfl⟩

theorem sameLoads_intervalFired (w : StorePage) (kind : IntervalKind) : SameLoads w (w.intervalFired kind) := by
  cases kind with
  | clock => exact ⟨rfl, rfl⟩
  | refresh =>
    have hframe := frame_refreshSensors { w with store := { w.store with unknownDevices := [] } }
    exact ⟨hframe.stopRealtime, hframe.loads⟩
  | poll => exact (frame_poll w).toSameLoads

theorem sameLoads_timeoutFired (w : StorePage) (kind : TimeoutKind) : SameLoads w (w.timeoutFired kind) := by
  cases kind with
  | startPolling =>
    have hframe := frame_poll { w with store := { w.store with pollDelay := none } }
    exact ⟨hframe.stopRealtime, hframe.loads⟩
  | refreshSensors =>
    have hframe := frame_refreshSensors { w with store := { w.store with refreshQueued := none } }
    exact ⟨hframe.stopRealtime, hframe.loads⟩

theorem stopped_latestAnswered (hs : w.store.Stopped) (c : StoreCall) (readings : List Reading) :
    (w.latestAnswered c readings).store.Stopped := by
  unfold latestAnswered
  rw [applyAll_eq]
  dsimp only
  split_ifs <;> exact ⟨hs.stopRealtime, hs.pollTimer, hs.pollDelay, hs.timers⟩

theorem stopped_callFailed (hs : w.store.Stopped) (c : StoreCall) : (w.callFailed c).store.Stopped := by
  unfold callFailed
  split_ifs <;> exact ⟨hs.stopRealtime, hs.pollTimer, hs.pollDelay, hs.timers⟩

/-- `stop` lets go of everything but a queued refresh. -/
theorem stopped_stop (w : StorePage) : w.stop.store.Stopped := by
  have hpolling := stopPolling_none w.unsubscribe
  exact ⟨(frame_stopPolling _).stopRealtime.trans (unsubscribe_stopRealtime w), hpolling.2, hpolling.1, rfl⟩

/-- In this step a load gets its answers. -/
def Completes (w : StorePage) (e : StoreEvent) : Prop :=
  ∃ k sensors readings, e = .loadAnswered k sensors readings ∧ w.loads[k]? = some .fetching

/-- A load that gets its answers subscribes. -/
theorem stopRealtime_of_completes {e : StoreEvent} (h : w.Completes e) : (w.step e).store.stopRealtime ≠ none := by
  obtain ⟨k, sensors, readings, rfl, hk⟩ := h
  dsimp only [step]
  rw [if_pos hk]
  unfold loaded
  generalize (applyAll _ readings) = w'
  dsimp only
  have hsubscribe : ∀ v : StorePage, v.subscribe.store.stopRealtime ≠ none := by
    intro v
    unfold subscribe
    cases hrealtime : v.store.stopRealtime with
    | none => exact Option.some_ne_none _
    | some id =>
      rw [hrealtime]
      exact Option.some_ne_none _
  have hset : ∀ v : StorePage, v.setTimers.store.stopRealtime = v.store.stopRealtime := by
    intro v
    unfold setTimers
    cases v.store.timers <;> rfl
  rw [hset]
  exact hsubscribe _

/-- What is not about a load or the lifecycle leaves the subscription and the loads as they are. -/
theorem sameLoads_step (w : StorePage) (e : StoreEvent) :
    (e = .start ∨ e = .retry ∨ e = .stop ∨ (∃ k, e = .loadCreated k) ∨ (∃ k sensors readings, e = .loadAnswered k sensors readings) ∨
      ∃ k message, e = .loadFailed k message) ∨ SameLoads w (w.step e) := by
  cases e with
  | start => exact Or.inl (by simp)
  | retry => exact Or.inl (by simp)
  | stop => exact Or.inl (by simp)
  | loadCreated k => exact Or.inl (by simp)
  | loadAnswered k sensors readings => exact Or.inl (by simp)
  | loadFailed k message => exact Or.inl (by simp)
  | onReading id reading =>
    refine Or.inr ?_
    dsimp only [step]
    split_ifs
    · exact sameLoads_applyReading w reading true
    · exact ⟨rfl, rfl⟩
  | onConnection id connected =>
    refine Or.inr ?_
    dsimp only [step]
    split_ifs
    · exact (frame_onConnection w connected).toSameLoads
    · exact ⟨rfl, rfl⟩
  | interval id =>
    refine Or.inr ?_
    dsimp only [step]
    split
    · exact sameLoads_intervalFired w _
    · exact ⟨rfl, rfl⟩
  | timeout id =>
    refine Or.inr ?_
    dsimp only [step]
    split
    · next kind _ =>
      have hsame := sameLoads_timeoutFired { w with browser := { w.browser with timeouts := w.browser.timeouts.release id } } kind
      exact ⟨hsame.stopRealtime, hsame.loads⟩
    · exact ⟨rfl, rfl⟩
  | visible =>
    refine Or.inr ?_
    dsimp only [step]
    unfold onVisible
    split_ifs
    · exact (frame_syncLatest w).toSameLoads
    · exact ⟨rfl, rfl⟩
    · exact ⟨rfl, rfl⟩
  | sensorsAnswered k sensors =>
    refine Or.inr ?_
    dsimp only [step]
    split_ifs <;> exact ⟨rfl, rfl⟩
  | latestAnswered k readings =>
    refine Or.inr ?_
    dsimp only [step]
    split
    · exact (frame_of_calls (frame_latestAnswered _ _ readings)).toSameLoads
    · exact (frame_of_calls (frame_latestAnswered _ _ readings)).toSameLoads
    · exact ⟨rfl, rfl⟩
  | callFailed k =>
    refine Or.inr ?_
    dsimp only [step]
    split
    · exact (frame_of_calls (frame_callFailed _ _)).toSameLoads
    · exact ⟨rfl, rfl⟩

/-- Only `stop` and a load that completes touch the subscription. -/
theorem step_stopRealtime {e : StoreEvent} (hstop : e ≠ .stop) (hc : ¬w.Completes e) :
    (w.step e).store.stopRealtime = w.store.stopRealtime := by
  rcases sameLoads_step w e with
    (rfl | rfl | rfl | ⟨k, rfl⟩ | ⟨k, sensors, readings, rfl⟩ | ⟨k, message, rfl⟩) | hsame
  · dsimp only [step]
    unfold start
    split_ifs <;> rfl
  · rfl
  · exact absurd rfl hstop
  · dsimp only [step]
    split_ifs <;> rfl
  · dsimp only [step]
    split_ifs with hk
    · exact absurd ⟨k, sensors, readings, rfl, hk⟩ hc
    · rfl
  · dsimp only [step]
    split_ifs <;> rfl
  · exact hsame.stopRealtime

/-- Without `start` and `retry` no load comes up. -/
theorem step_loads {e : StoreEvent} (hstart : e ≠ .start) (hretry : e ≠ .retry) (hw : w.loads = []) : (w.step e).loads = [] := by
  rcases sameLoads_step w e with
    (rfl | rfl | rfl | ⟨k, rfl⟩ | ⟨k, sensors, readings, rfl⟩ | ⟨k, message, rfl⟩) | hsame
  · exact absurd rfl hstart
  · exact absurd rfl hretry
  · have hsame := frame_stopPolling w.unsubscribe
    have hunsubscribe : w.unsubscribe.loads = w.loads := by
      unfold unsubscribe
      cases w.store.stopRealtime <;> rfl
    exact hsame.loads.trans (hunsubscribe.trans hw)
  · simp [step, hw]
  · simp [step, hw]
  · simp [step, hw]
  · exact hsame.loads.trans hw

/-- Of a page that has stopped nothing fires but a queued refresh, so it stays stopped until a load completes. -/
theorem stopped_step (h : w.Owned) (hs : w.store.Stopped) {e : StoreEvent} (hc : ¬w.Completes e) : (w.step e).store.Stopped := by
  have hq := quiet_of_stopped h hs
  have hsocket : ∀ id, w.browser.sockets.purpose id = none := by
    intro id
    unfold Handles.purpose
    rw [hq.sockets]
    rfl
  cases e with
  | start =>
    dsimp only [step]
    unfold start
    split_ifs
    · exact hs
    · exact ⟨hs.stopRealtime, hs.pollTimer, hs.pollDelay, hs.timers⟩
  | retry => exact ⟨hs.stopRealtime, hs.pollTimer, hs.pollDelay, hs.timers⟩
  | stop => exact stopped_stop w
  | loadCreated k =>
    dsimp only [step]
    split_ifs
    · exact ⟨hs.stopRealtime, hs.pollTimer, hs.pollDelay, hs.timers⟩
    · exact hs
  | loadAnswered k sensors readings =>
    dsimp only [step]
    split_ifs with hk
    · exact absurd ⟨k, sensors, readings, rfl, hk⟩ hc
    · exact hs
  | loadFailed k message =>
    dsimp only [step]
    split_ifs
    · exact ⟨hs.stopRealtime, hs.pollTimer, hs.pollDelay, hs.timers⟩
    · exact hs
  | onReading id reading =>
    dsimp only [step]
    rw [hsocket id]
    exact hs
  | onConnection id connected =>
    dsimp only [step]
    rw [hsocket id]
    exact hs
  | interval id =>
    have hinterval : w.browser.intervals.purpose id = none := by
      unfold Handles.purpose
      rw [hq.intervals]
      rfl
    dsimp only [step]
    rw [hinterval]
    exact hs
  | timeout id =>
    dsimp only [step]
    split
    · next kind hkind =>
      rcases mem_timeouts_iff.1 ((Handles.purpose_eq_some_iff h.timeouts).1 hkind) with ⟨-, hdelay⟩ | ⟨rfl, -⟩
      · rw [hs.pollDelay] at hdelay
        cases hdelay
      · unfold timeoutFired
        rw [refreshSensors_store]
        exact ⟨hs.stopRealtime, hs.pollTimer, hs.pollDelay, hs.timers⟩
    · exact hs
  | visible =>
    dsimp only [step]
    rw [hq.listening]
    exact hs
  | sensorsAnswered k sensors =>
    dsimp only [step]
    split_ifs
    · exact ⟨hs.stopRealtime, hs.pollTimer, hs.pollDelay, hs.timers⟩
    · exact hs
  | latestAnswered k readings =>
    dsimp only [step]
    have hcalls : ({ w with calls := w.calls.eraseIdx k } : StorePage).store.Stopped := hs
    split
    · exact stopped_latestAnswered hcalls _ readings
    · exact stopped_latestAnswered hcalls _ readings
    · exact hs
  | callFailed k =>
    dsimp only [step]
    have hcalls : ({ w with calls := w.calls.eraseIdx k } : StorePage).store.Stopped := hs
    split
    · exact stopped_callFailed hcalls _
    · exact hs

/-- A subscription stays until `stop`. -/
theorem run_stopRealtime {fs : List StoreEvent} (hfs : .stop ∉ fs) (hw : w.store.stopRealtime ≠ none) :
    (storeMachine.run w fs).store.stopRealtime ≠ none := by
  induction fs generalizing w with
  | nil => exact hw
  | cons e fs ih =>
    have hstop : e ≠ .stop := fun he => hfs (he ▸ List.mem_cons_self)
    refine ih (fun hmem => hfs (List.mem_cons_of_mem e hmem)) ?_
    change (w.step e).store.stopRealtime ≠ none
    by_cases hc : w.Completes e
    · exact stopRealtime_of_completes hc
    · rw [step_stopRealtime hstop hc]
      exact hw

/-- A stopped page is quiet as long as no load completes. -/
theorem quiet_run_iff {fs : List StoreEvent} (hfs : .stop ∉ fs) (h : w.Owned) (hs : w.store.Stopped) :
    (storeMachine.run w fs).Quiet ↔ storeMachine.Along (fun v e => ¬v.Completes e) w fs := by
  induction fs generalizing w with
  | nil => exact iff_of_true (quiet_of_stopped h hs) trivial
  | cons e fs ih =>
    have hrest : .stop ∉ fs := fun hmem => hfs (List.mem_cons_of_mem e hmem)
    rw [Machine.along_cons]
    by_cases hc : w.Completes e
    · refine iff_of_false ?_ (fun hall => hall.1 hc)
      intro hq
      have hrealtime := stopRealtime_of_quiet (owned_run_of h (e :: fs)) hq
      exact run_stopRealtime hrest (stopRealtime_of_completes hc) hrealtime
    · exact (ih hrest (owned_step h e) (stopped_step h hs hc)).trans (and_iff_right hc).symm

/-- Without a load on its way, `start` and `retry`, none completes. -/
theorem along_of_no_loads {fs : List StoreEvent} (hstart : .start ∉ fs) (hretry : .retry ∉ fs) (hw : w.loads = []) :
    storeMachine.Along (fun v e => ¬v.Completes e) w fs := by
  induction fs generalizing w with
  | nil => trivial
  | cons e fs ih =>
    refine ⟨?_, ih (fun h => hstart (List.mem_cons_of_mem e h)) (fun h => hretry (List.mem_cons_of_mem e h)) ?_⟩
    · rintro ⟨k, sensors, readings, -, hk⟩
      rw [hw] at hk
      cases hk
    · exact step_loads (fun h => hstart (h ▸ List.mem_cons_self)) (fun h => hretry (h ▸ List.mem_cons_self)) hw

/-! ## What is alive -/

/-- What the intervals alive were set for. -/
def intervalKinds (w : StorePage) : List IntervalKind := w.browser.intervals.alive.map Prod.snd

def timeoutKinds (w : StorePage) : List TimeoutKind := w.browser.timeouts.alive.map Prod.snd

/-- The intervals by their purpose: the poll if it is set, and both of the timers or neither. -/
theorem intervalKinds_perm (h : w.Owned) :
    w.intervalKinds.Perm ((if w.store.pollTimer.isSome then [IntervalKind.poll] else []) ++
      if w.browser.listening = true then [.clock, .refresh] else []) := by
  unfold intervalKinds
  refine (h.intervals.alive.map Prod.snd).trans ?_
  unfold PageStore.intervals
  rw [h.listening]
  rcases h.timers with htimers | htimers
  · rw [htimers]
    cases w.store.pollTimer <;> exact List.Perm.refl _
  · obtain ⟨clock, refresh, htwo⟩ := List.length_eq_two.1 htimers
    rw [htwo]
    cases w.store.pollTimer <;> exact List.Perm.refl _

theorem timeoutKinds_perm (h : w.Owned) :
    w.timeoutKinds.Perm ((if w.store.pollDelay.isSome then [TimeoutKind.startPolling] else []) ++
      if w.store.refreshQueued.isSome then [.refreshSensors] else []) := by
  unfold timeoutKinds
  refine (h.timeouts.alive.map Prod.snd).trans ?_
  unfold PageStore.timeouts
  cases w.store.pollDelay <;> cases w.store.refreshQueued <;> exact List.Perm.refl _

/-- What is alive of a page: nothing twice, no poll beside the wait for one, and the timers and the listener together. -/
structure Bounded (w : StorePage) : Prop where
  intervals : w.intervalKinds.Nodup
  timeouts : w.timeoutKinds.Nodup
  sockets : w.browser.sockets.alive.length ≤ 1
  polling : ¬(.startPolling ∈ w.timeoutKinds ∧ .poll ∈ w.intervalKinds)
  clock : .clock ∈ w.intervalKinds ↔ w.browser.listening = true
  refresh : .refresh ∈ w.intervalKinds ↔ w.browser.listening = true

theorem bounded_of_owned (h : w.Owned) : w.Bounded := by
  have hintervals := intervalKinds_perm h
  have htimeouts := timeoutKinds_perm h
  refine ⟨?_, ?_, ?_, ?_, ?_, ?_⟩
  · rw [hintervals.nodup_iff]
    split_ifs <;> decide
  · rw [htimeouts.nodup_iff]
    split_ifs <;> decide
  · rw [h.sockets.alive.length_eq]
    unfold PageStore.sockets
    cases w.store.stopRealtime <;> simp
  · rintro ⟨hdelay, hpoll⟩
    rw [htimeouts.mem_iff] at hdelay
    rw [hintervals.mem_iff] at hpoll
    rcases h.polling with hnone | hnone
    · simp [hnone] at hdelay
    · simp [hnone] at hpoll
  · rw [hintervals.mem_iff]
    split_ifs with hpoll hlistening <;> simp [*]
  · rw [hintervals.mem_iff]
    split_ifs with hpoll hlistening <;> simp [*]

end StorePage

/-- The store and the browser, over every order of calls of `start`, `retry` and `stop`, loads, live readings, changes of the
connection, timers and answers:
1. at most one subscription is alive, one interval and one timeout of each kind, no poll while one is waited for, and the two timers
   exactly while the listener is registered;
2. what is alive is what the store has in its variables;
3. after a `stop`, until the next, the page is quiet exactly as long as no load completes;
4. so it is for good after a `stop` with no load on its way, unless `start` or `retry` is called. -/
theorem page_handles (es : List StoreEvent) :
    (pageAfter es).Bounded ∧ (pageAfter es).Owned ∧
    (∀ fs, .stop ∉ fs → ((pageAfter (es ++ .stop :: fs)).Quiet ↔
      storeMachine.Along (fun w e => ¬w.Completes e) (pageAfter (es ++ [.stop])) fs)) ∧
    ((pageAfter es).loads = [] → ∀ fs, .start ∉ fs → .retry ∉ fs → (pageAfter (es ++ .stop :: fs)).Quiet) := by
  have howned := owned_run es
  have hstopped := StorePage.stopped_stop (pageAfter es)
  have hstop : pageAfter (es ++ [.stop]) = (pageAfter es).stop := pageAfter_append es [.stop]
  have hsplit : ∀ fs, pageAfter (es ++ .stop :: fs) = storeMachine.run (pageAfter es).stop fs := fun fs => pageAfter_append es (.stop :: fs)
  refine ⟨StorePage.bounded_of_owned howned, howned, ?_, ?_⟩
  · intro fs hfs
    rw [hsplit, hstop]
    exact StorePage.quiet_run_iff hfs (StorePage.owned_stop howned) hstopped
  · intro hloads fs hstart hretry
    rw [hsplit]
    have hnone : (pageAfter es).stop.loads = [] := @StorePage.step_loads (pageAfter es) .stop (by simp) (by simp) hloads
    have halong := StorePage.along_of_no_loads hstart hretry hnone
    -- a `stop` among the later events stops what is stopped
    have hstep : ∀ w e, StorePage.Owned w ∧ w.store.Stopped → ¬w.Completes e →
        (storeMachine.step w e).1.Owned ∧ (storeMachine.step w e).1.store.Stopped :=
      fun w e h hc => ⟨StorePage.owned_step h.1 e, StorePage.stopped_step h.1 h.2 hc⟩
    have hinv := storeMachine.run_inv_of_along (fun w e hc h => hstep w e h hc) ⟨StorePage.owned_stop howned, hstopped⟩ halong
    exact StorePage.quiet_of_stopped hinv.1 hinv.2

end AirQuality
