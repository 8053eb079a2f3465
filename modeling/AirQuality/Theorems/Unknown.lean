import AirQuality.Lib.History
import AirQuality.Theorems.Lifecycle

/-!
# Devices that are not in the list

A device that reports live and is not in the list of the sensors has the list read again: once, however often it reports, until the
periodic refresh. `unknown_asked_once` says which devices those are in a stretch without a periodic refresh, and counts the refreshes
of the stretch against them.
-/

namespace AirQuality

namespace StorePage

variable {w : StorePage}

/-! ## One step -/

theorem subscribe_unknown (w : StorePage) :
    w.subscribe.store.unknownDevices = w.store.unknownDevices ∧ w.subscribe.store.refreshQueued = w.store.refreshQueued := by
  unfold subscribe
  cases w.store.stopRealtime <;> exact ⟨rfl, rfl⟩

theorem setTimers_unknown (w : StorePage) :
    w.setTimers.store.unknownDevices = w.store.unknownDevices ∧ w.setTimers.store.refreshQueued = w.store.refreshQueued := by
  unfold setTimers
  cases w.store.timers <;> exact ⟨rfl, rfl⟩

theorem loaded_unknown (w : StorePage) (sensors : List String) (readings : List Reading) :
    (w.loaded sensors readings).store.unknownDevices = w.store.unknownDevices ∧
      (w.loaded sensors readings).store.refreshQueued = w.store.refreshQueued := by
  unfold loaded
  dsimp only
  rw [applyAll_eq]
  have htimers := setTimers_unknown
  have hsubscribe := subscribe_unknown
  exact ⟨(htimers _).1.trans (hsubscribe _).1, (htimers _).2.trans (hsubscribe _).2⟩

theorem unsubscribe_unknown (w : StorePage) :
    w.unsubscribe.store.unknownDevices = w.store.unknownDevices ∧ w.unsubscribe.store.refreshQueued = w.store.refreshQueued := by
  unfold unsubscribe
  cases w.store.stopRealtime <;> exact ⟨rfl, rfl⟩

theorem stop_unknown (w : StorePage) :
    w.stop.store.unknownDevices = w.store.unknownDevices ∧ w.stop.store.refreshQueued = w.store.refreshQueued := by
  have hpolling := frame_stopPolling w.unsubscribe
  have hunsubscribe := unsubscribe_unknown w
  exact ⟨hpolling.unknownDevices.trans hunsubscribe.1, hpolling.refreshQueued.trans hunsubscribe.2⟩

/-- A device is asked about: it joins those that were, and a refresh is queued. -/
theorem askAbout_unknown (w : StorePage) (sensorId : String) :
    (w.askAbout sensorId).store.unknownDevices = w.store.unknownDevices ++ [sensorId] ∧
      (w.askAbout sensorId).store.refreshQueued.isSome = true := by
  unfold askAbout
  dsimp only
  cases hqueued : w.store.refreshQueued with
  | none => exact ⟨rfl, rfl⟩
  | some id => exact ⟨rfl, rfl⟩

/-- Nothing changes of what was asked and of what is queued. -/
def Calm (w w' : StorePage) : Prop :=
  w'.store.unknownDevices = w.store.unknownDevices ∧ w'.store.refreshQueued = w.store.refreshQueued

/-- A live reading of a device comes, newer than its latest one, while the device is not in the list. -/
def Reports (w : StorePage) (e : StoreEvent) (d : String) : Prop :=
  ∃ id reading, e = .onReading id reading ∧ reading.sensorId = d ∧ (w.browser.sockets.purpose id).isSome = true ∧
    ¬w.store.air.Has reading ∧ d ∉ w.store.sensors

theorem Reports.fired {w : StorePage} {e : StoreEvent} {d : String} (h : w.Reports e d) : w.fired e = none := by
  obtain ⟨id, reading, rfl, -⟩ := h
  rfl

/-- One reading reports one device. -/
theorem Reports.unique {w : StorePage} {e : StoreEvent} {d d' : String} (h : w.Reports e d) (h' : w.Reports e d') : d = d' := by
  obtain ⟨id, reading, rfl, rfl, -⟩ := h
  obtain ⟨id', reading', heq, rfl, -⟩ := h'
  obtain ⟨-, rfl⟩ := StoreEvent.onReading.inj heq
  rfl

/-- A device that reports, and was not asked about, is asked about. -/
theorem Reports.step {w : StorePage} {e : StoreEvent} {d : String} (h : w.Reports e d) (hd : d ∉ w.store.unknownDevices) :
    (w.step e).store.unknownDevices = w.store.unknownDevices ++ [d] ∧ (w.step e).store.refreshQueued.isSome = true := by
  obtain ⟨id, reading, rfl, rfl, halive, hnew, hlisted⟩ := h
  dsimp only [StorePage.step]
  rw [if_pos halive, applyReading, if_neg hnew]
  dsimp only
  rw [if_pos ⟨rfl, hlisted, hd⟩]
  exact askAbout_unknown _ reading.sensorId

/-- A device turns up: it reports, and joins those asked about. -/
def TurnsUp (w : StorePage) (e : StoreEvent) (w' : StorePage) : Prop :=
  ∃ d, w.Reports e d ∧ d ∉ w.store.unknownDevices ∧
    w'.store.unknownDevices = w.store.unknownDevices ++ [d] ∧ w'.store.refreshQueued.isSome = true

theorem onReading_live (w : StorePage) (id : ℕ) (reading : Reading) :
    Calm w (w.step (.onReading id reading)) ∨ TurnsUp w (.onReading id reading) (w.step (.onReading id reading)) := by
  by_cases hup : w.Reports (.onReading id reading) reading.sensorId ∧ reading.sensorId ∉ w.store.unknownDevices
  · exact Or.inr ⟨reading.sensorId, hup.1, hup.2, hup.1.step hup.2⟩
  · left
    dsimp only [step]
    split_ifs with halive
    · unfold applyReading
      split_ifs with hhas
      · exact ⟨rfl, rfl⟩
      · dsimp only
        rw [if_neg (fun hnew => hup ⟨⟨id, reading, rfl, rfl, halive, hhas, hnew.2.1⟩, hnew.2.2⟩)]
        exact ⟨rfl, rfl⟩
    · exact ⟨rfl, rfl⟩

/-- While nothing changes of what was asked, a device that reports had been asked about. -/
theorem Calm.mem_of_reports {w : StorePage} {e : StoreEvent} (h : Calm w (w.step e)) {d : String} (hreports : w.Reports e d) :
    d ∈ w.store.unknownDevices := by
  by_contra hd
  have hunknown := (hreports.step hd).1
  rw [h.1] at hunknown
  exact List.cons_ne_nil d [] (List.self_eq_append_right.1 hunknown)

theorem Frame.calm {w w' : StorePage} (h : Frame w w') : Calm w w' := ⟨h.unknownDevices, h.refreshQueued⟩

/-- What a step can do: nothing to what was asked; a device turns up; the queued refresh fires; or the periodic one does, and all may
be asked about again. -/
theorem unknown_cases (h : w.Owned) (e : StoreEvent) :
    (w.fired e ≠ some (.inr .refreshSensors) ∧ (Calm w (w.step e) ∨ TurnsUp w e (w.step e))) ∨
    (w.fired e = some (.inr .refreshSensors) ∧ w.store.refreshQueued.isSome = true ∧
      (w.step e).store.unknownDevices = w.store.unknownDevices ∧ (w.step e).store.refreshQueued = none) ∨
    (w.fired e = some (.inl .refresh) ∧ (w.step e).store.unknownDevices = []) := by
  have hnone : (none : Option (IntervalKind ⊕ TimeoutKind)) ≠ some (.inr .refreshSensors) := (Option.some_ne_none _).symm
  cases e with
  | start =>
    refine Or.inl ⟨hnone, Or.inl ?_⟩
    dsimp only [step]
    unfold start
    split_ifs <;> exact ⟨rfl, rfl⟩
  | retry => exact Or.inl ⟨hnone, Or.inl ⟨rfl, rfl⟩⟩
  | stop => exact Or.inl ⟨hnone, Or.inl (stop_unknown w)⟩
  | loadCreated k =>
    refine Or.inl ⟨hnone, Or.inl ?_⟩
    dsimp only [step]
    split_ifs <;> exact ⟨rfl, rfl⟩
  | loadAnswered k sensors readings =>
    refine Or.inl ⟨hnone, Or.inl ?_⟩
    dsimp only [step]
    split_ifs
    · exact loaded_unknown { w with loads := w.loads.eraseIdx k } sensors readings
    · exact ⟨rfl, rfl⟩
  | loadFailed k message =>
    refine Or.inl ⟨hnone, Or.inl ?_⟩
    dsimp only [step]
    split_ifs <;> exact ⟨rfl, rfl⟩
  | onReading id reading =>
    exact Or.inl ⟨hnone, onReading_live w id reading⟩
  | onConnection id connected =>
    refine Or.inl ⟨hnone, Or.inl ?_⟩
    dsimp only [step]
    split_ifs
    · exact (frame_onConnection w connected).calm
    · exact ⟨rfl, rfl⟩
  | interval id =>
    dsimp only [step, fired]
    cases hkind : w.browser.intervals.purpose id with
    | none => exact Or.inl ⟨hnone, Or.inl ⟨rfl, rfl⟩⟩
    | some kind =>
      cases kind with
      | clock => exact Or.inl ⟨by simp, Or.inl ⟨rfl, rfl⟩⟩
      | refresh => exact Or.inr (Or.inr ⟨rfl, (frame_refreshSensors _).unknownDevices⟩)
      | poll => exact Or.inl ⟨by simp, Or.inl (frame_poll w).calm⟩
  | timeout id =>
    dsimp only [step, fired]
    cases hkind : w.browser.timeouts.purpose id with
    | none => exact Or.inl ⟨hnone, Or.inl ⟨rfl, rfl⟩⟩
    | some kind =>
      rcases mem_timeouts_iff.1 ((Handles.purpose_eq_some_iff h.timeouts).1 hkind) with ⟨rfl, -⟩ | ⟨rfl, hqueued⟩
      · have hpoll := frame_poll { w with
          browser := { w.browser with timeouts := w.browser.timeouts.release id }
          store := { w.store with pollDelay := none } }
        exact Or.inl ⟨by simp, Or.inl ⟨hpoll.unknownDevices, hpoll.refreshQueued⟩⟩
      · refine Or.inr (Or.inl ⟨rfl, by rw [hqueued]; rfl, ?_, ?_⟩)
        · exact (frame_refreshSensors _).unknownDevices
        · exact (frame_refreshSensors _).refreshQueued
  | visible =>
    refine Or.inl ⟨hnone, Or.inl ?_⟩
    dsimp only [step]
    unfold onVisible
    split_ifs
    · exact (frame_syncLatest w).calm
    · exact ⟨rfl, rfl⟩
    · exact ⟨rfl, rfl⟩
  | sensorsAnswered k sensors =>
    refine Or.inl ⟨hnone, Or.inl ?_⟩
    dsimp only [step]
    split_ifs <;> exact ⟨rfl, rfl⟩
  | latestAnswered k readings =>
    refine Or.inl ⟨hnone, Or.inl ?_⟩
    dsimp only [step]
    split
    · exact (frame_of_calls (frame_latestAnswered _ _ readings)).calm
    · exact (frame_of_calls (frame_latestAnswered _ _ readings)).calm
    · exact ⟨rfl, rfl⟩
  | callFailed k =>
    refine Or.inl ⟨hnone, Or.inl ?_⟩
    dsimp only [step]
    split
    · exact (frame_of_calls (frame_callFailed _ _)).calm
    · exact ⟨rfl, rfl⟩

/-! ## A stretch of a run -/

/-- How many refreshes are queued. -/
def queued (w : StorePage) : ℕ := if w.store.refreshQueued.isSome = true then 1 else 0

/-- How many queued refreshes have fired in a run of events. -/
def refreshes (w : StorePage) (fs : List StoreEvent) : ℕ :=
  (storeMachine.outputs w fs).countP (fun o => decide (o = some (.inr .refreshSensors)))

/-- In a run of events a live reading of the device comes that is newer than its latest one, while the device is not in the list. -/
def Reported (w : StorePage) (fs : List StoreEvent) (d : String) : Prop :=
  History.Once (fun before e => (storeMachine.run w before).Reports e d) fs

theorem reported_cons {w : StorePage} {e : StoreEvent} {fs : List StoreEvent} {d : String} :
    w.Reported (e :: fs) d ↔ w.Reports e d ∨ (w.step e).Reported fs d := History.once_cons

/-- The new devices of a stretch: those that reported in it and had not been asked about. They joined these, each once, and each
refresh was for one of them at least. -/
structure Stretch (w : StorePage) (fs : List StoreEvent) (new : List String) : Prop where
  mem : ∀ d, d ∈ new ↔ d ∉ w.store.unknownDevices ∧ w.Reported fs d
  unknown : (storeMachine.run w fs).store.unknownDevices = w.store.unknownDevices ++ new
  distinct : w.store.unknownDevices.Nodup → (w.store.unknownDevices ++ new).Nodup
  refreshes : w.refreshes fs + (storeMachine.run w fs).queued ≤ new.length + w.queued
  kept : w.queued ≤ w.refreshes fs + (storeMachine.run w fs).queued
  asked : new ≠ [] → 0 < w.refreshes fs + (storeMachine.run w fs).queued

theorem refreshes_cons (w : StorePage) (e : StoreEvent) (fs : List StoreEvent) :
    w.refreshes (e :: fs) =
      (w.step e).refreshes fs + if w.fired e = some (.inr .refreshSensors) then 1 else 0 := by
  unfold refreshes
  rw [Machine.outputs_cons, List.countP_cons]
  simp only [decide_eq_true_eq]
  rfl

/-- Between two periodic refreshes every refresh is for a device that turned up. -/
theorem exists_stretch {fs : List StoreEvent} (h : w.Owned) (hfs : some (.inl .refresh) ∉ storeMachine.outputs w fs) :
    ∃ new, w.Stretch fs new := by
  induction fs generalizing w with
  | nil =>
    refine ⟨[], ?_, (List.append_nil _).symm, ?_, ?_, ?_, fun hne => absurd rfl hne⟩
    · intro d
      constructor
      · intro hd
        cases hd
      · rintro ⟨-, before, e, after, hsplit, -⟩
        cases before <;> cases hsplit
    · intro hnodup
      rwa [List.append_nil]
    · simp [refreshes]
    · simp [refreshes]
  | cons e fs ih =>
    rw [Machine.outputs_cons, List.mem_cons, not_or] at hfs
    obtain ⟨hfired, hrest⟩ := hfs
    obtain ⟨new, hnew⟩ := ih (owned_step h e) hrest
    have hrun : storeMachine.run w (e :: fs) = storeMachine.run (w.step e) fs := rfl
    rcases unknown_cases h e with ⟨hquiet, hcalm | hup⟩ | ⟨hrefresh, hsome, hunknown, hqueued⟩ | ⟨hperiodic, -⟩
    · have hq : (w.step e).queued = w.queued := by
        unfold queued
        rw [hcalm.2]
      have hcount : w.refreshes (e :: fs) = (w.step e).refreshes fs := by
        rw [refreshes_cons, if_neg hquiet, Nat.add_zero]
      refine ⟨new, ?_, ?_, ?_, ?_, ?_, ?_⟩
      · intro d
        rw [hnew.mem d, hcalm.1, reported_cons]
        refine and_congr_right fun hd => ?_
        exact (or_iff_right fun hreports => hd (hcalm.mem_of_reports hreports)).symm
      · rw [hrun, hnew.unknown, hcalm.1]
      · rw [← hcalm.1]
        exact hnew.distinct
      · rw [hcount, hrun, ← hq]
        exact hnew.refreshes
      · rw [hcount, hrun, ← hq]
        exact hnew.kept
      · rw [hcount, hrun]
        exact hnew.asked
    · obtain ⟨r, hreports, hnot, hunknown, hqueued⟩ := hup
      have hq : (w.step e).queued = 1 := if_pos hqueued
      have hcount : w.refreshes (e :: fs) = (w.step e).refreshes fs := by
        rw [refreshes_cons, if_neg hquiet, Nat.add_zero]
      have hrefreshes := hnew.refreshes
      have hkept := hnew.kept
      refine ⟨r :: new, ?_, ?_, ?_, ?_, ?_, ?_⟩
      · intro d
        rw [List.mem_cons, hnew.mem d, hunknown, reported_cons, List.mem_append, List.mem_singleton]
        by_cases hd : d = r
        · subst hd
          exact iff_of_true (Or.inl rfl) ⟨hnot, Or.inl hreports⟩
        · have hother : ¬w.Reports e d := fun h => hd (h.unique hreports)
          simp [hd, hother]
      · rw [hrun, hnew.unknown, hunknown, List.append_assoc, List.singleton_append]
      · intro hnodup
        have hdistinct := hnew.distinct (by
          rw [hunknown, ← List.concat_eq_append]
          exact List.Nodup.concat hnot hnodup)
        rwa [hunknown, List.append_assoc, List.singleton_append] at hdistinct
      · rw [hcount, hrun, List.length_cons]
        omega
      · rw [hcount, hrun]
        have hle : w.queued ≤ 1 := by
          unfold queued
          split_ifs <;> omega
        omega
      · intro _
        rw [hcount, hrun]
        omega
    · have hq : (w.step e).queued = 0 := by
        unfold queued
        rw [hqueued]
        rfl
      have hq' : w.queued = 1 := if_pos hsome
      have hcount : w.refreshes (e :: fs) = (w.step e).refreshes fs + 1 := by
        rw [refreshes_cons, if_pos hrefresh]
      have hrefreshes := hnew.refreshes
      refine ⟨new, ?_, ?_, ?_, ?_, ?_, ?_⟩
      · intro d
        have hother : ¬w.Reports e d := by
          intro hreports
          rw [hreports.fired] at hrefresh
          cases hrefresh
        rw [hnew.mem d, hunknown, reported_cons, or_iff_right hother]
      · rw [hrun, hnew.unknown, hunknown]
      · rw [← hunknown]
        exact hnew.distinct
      · rw [hcount, hrun]
        omega
      · rw [hcount, hrun]
        omega
      · intro _
        rw [hcount]
        omega
    · exact absurd hperiodic.symm hfired

/-- Of the devices asked about none is there twice, in any run. -/
theorem nodup_unknown (h : w.Owned) (hw : w.store.unknownDevices.Nodup) (e : StoreEvent) :
    (w.step e).store.unknownDevices.Nodup := by
  rcases unknown_cases h e with ⟨-, hcalm | hup⟩ | ⟨-, -, hunknown, -⟩ | ⟨-, hunknown⟩
  · rw [hcalm.1]
    exact hw
  · obtain ⟨d, -, hnot, hunknown, -⟩ := hup
    rw [hunknown, ← List.concat_eq_append]
    exact List.Nodup.concat hnot hw
  · rw [hunknown]
    exact hw
  · rw [hunknown]
    exact List.nodup_nil

end StorePage

/-- Over every order of events: in a stretch without a periodic refresh, the devices asked about are those that were, and behind them
exactly the others of which a live reading came, newer than the latest one, while they were not in the list, each once; every refresh
that fires was queued before or is for one of those; and where there is one, a refresh has fired or is queued. -/
theorem unknown_asked_once (es fs : List StoreEvent) (hfs : some (.inl .refresh) ∉ storeMachine.outputs (pageAfter es) fs) :
    (pageAfter (es ++ fs)).store.unknownDevices.Nodup ∧ ∃ new, (pageAfter es).Stretch fs new := by
  have hstep : ∀ w e, StorePage.Owned w ∧ w.store.unknownDevices.Nodup →
      (storeMachine.step w e).1.Owned ∧ (storeMachine.step w e).1.store.unknownDevices.Nodup :=
    fun w e h => ⟨StorePage.owned_step h.1 e, StorePage.nodup_unknown h.1 h.2 e⟩
  have hinv := storeMachine.run_inv hstep ⟨StorePage.owned_init, List.nodup_nil⟩ (es ++ fs)
  exact ⟨hinv.2, StorePage.exists_stretch (owned_run es) hfs⟩

/-- A page that has loaded a list without sensors. -/
def emptyListRun : List StoreEvent := [.start, .loadCreated 0, .loadAnswered 0 [] []]

/-- A device reports again and again; its refresh fires once. -/
def reportsRun : List StoreEvent :=
  [.onReading 0 (readingAt "a" 1), .onReading 0 (readingAt "a" 2), .timeout 0, .sensorsAnswered 0 [], .onReading 0 (readingAt "a" 3)]

theorem unknown_asked_once_reports :
    (pageAfter emptyListRun).refreshes reportsRun = 1 ∧
      (pageAfter (emptyListRun ++ reportsRun)).store.unknownDevices.Nodup ∧ (pageAfter emptyListRun).Stretch reportsRun ["a"] := by
  have hall : (storeMachine.outputs (pageAfter emptyListRun) reportsRun).all
      (fun o => decide (o ≠ some (.inl .refresh))) = true := by decide +kernel
  obtain ⟨hnodup, new, hnew⟩ := unknown_asked_once emptyListRun reportsRun
    (fun hmem => of_decide_eq_true (List.all_eq_true.1 hall _ hmem) rfl)
  have hbefore : (pageAfter emptyListRun).store.unknownDevices = [] := by decide +kernel
  have hafter : (storeMachine.run (pageAfter emptyListRun) reportsRun).store.unknownDevices = ["a"] := by decide +kernel
  have hunknown := hnew.unknown
  rw [hbefore, hafter, List.nil_append] at hunknown
  exact ⟨by decide +kernel, hnodup, hunknown ▸ hnew⟩

end AirQuality
