import AirQuality.Dashboard.Requests

/-!
# Readings that arrive while a history is loaded

A live reading goes on the history of its sensor only if one is open, and an answer replaces the history and keeps of it what is
newer than its own last reading. `in_flight_kept_iff` says exactly which requests lose none of the live readings that arrived
meanwhile; loads with one range of a history that is open when readings arrive are among them (`steady_step`).
-/

namespace AirQuality

/-- The event completes no request, or one after which the history shows every live reading of its window that the store took in
while it was in flight. -/
def ReadingsWorld.KeepsArrived (w : ReadingsWorld) : ReadingsEvent → Prop
  | .answered k => ∀ q ∈ w.requests[k]?, q.snapshot ≠ none →
      ∀ r ∈ q.accepted, w.now - q.hours * hour ≤ r.time → (w.step (.answered k)).store.Shows q.sensorId r
  | _ => True

instance (w : ReadingsWorld) (e : ReadingsEvent) : Decidable (w.KeepsArrived e) :=
  match e with
  | .answered k => inferInstanceAs (Decidable (∀ q ∈ w.requests[k]?, q.snapshot ≠ none →
      ∀ r ∈ q.accepted, w.now - q.hours * hour ≤ r.time → (w.step (.answered k)).store.Shows q.sensorId r))
  | .tick _ | .stored _ | .live _ | .polled _ | .loadReadings _ _ | .snapshot _ | .failed _ => inferInstanceAs (Decidable True)

/-- The event completes no request, or one whose answer has each of those readings, or its last is older and an open history has
it. -/
def ReadingsWorld.ArrivedInOpen (w : ReadingsWorld) : ReadingsEvent → Prop
  | .answered k => ∀ q ∈ w.requests[k]?, ∀ readings ∈ q.snapshot,
      ∀ r ∈ q.accepted, w.now - q.hours * hour ≤ r.time → r ∉ readings → lastTime readings < r.time ∧ w.store.Shows q.sensorId r
  | _ => True

theorem step_answered {w : ReadingsWorld} {k : Nat} {q : ReadingsRequest} {readings : List Reading}
    (hq : w.requests[k]? = some q) (hs : q.snapshot = some readings) :
    w.step (.answered k) =
      { w with store := w.store.loadReadings q.sensorId q.hours readings, requests := w.requests.eraseIdx k } := by
  obtain ⟨sensorId, hours, snapshot, accepted⟩ := q
  obtain rfl : snapshot = some readings := hs
  simp only [ReadingsWorld.step, hq]

/-- A completed request keeps what arrived exactly if its answer has it or an open history has it later than the answer. -/
theorem keepsArrived_iff (w : ReadingsWorld) (e : ReadingsEvent) : w.KeepsArrived e ↔ w.ArrivedInOpen e := by
  cases e with
  | answered k =>
    refine forall_congr' fun q => forall_congr' fun hq => ?_
    cases hs : q.snapshot with
    | none => simp
    | some readings =>
      simp only [Option.mem_def, Option.some.injEq, forall_eq', ne_eq, reduceCtorEq, not_false_eq_true, forall_const,
        step_answered hq hs, shows_loadReadings_iff, or_iff_not_imp_left]
  | _ => exact Iff.rfl

/-! ## Reloads -/

/-- All requests are for one range; a live reading that is taken in is not ahead of the clock, and if a request of its sensor is in
flight, a history of it is open; and an answer without a reading that arrived while a request of the sensor was in flight has no
reading as new. -/
def ReadingsWorld.Reloads (hours : Nat) (w : ReadingsWorld) : ReadingsEvent → Prop
  | .loadReadings _ h => h = hours
  | .live reading => ¬ w.store.Has reading → reading.time ≤ w.now ∧
      ∀ q ∈ w.requests, q.sensorId = reading.sensorId → w.store.rawHistory reading.sensorId ≠ none
  | .answered k => ∀ q ∈ w.requests[k]?, ∀ readings ∈ q.snapshot, ∀ q' ∈ w.requests, q'.sensorId = q.sensorId →
      ∀ r ∈ q'.accepted, w.now - hours * hour ≤ r.time → r ∉ readings → lastTime readings < r.time
  | _ => True

instance (hours : Nat) (w : ReadingsWorld) (e : ReadingsEvent) : Decidable (w.Reloads hours e) :=
  match e with
  | .loadReadings _ h => inferInstanceAs (Decidable (h = hours))
  | .live reading => inferInstanceAs (Decidable (¬ w.store.Has reading → reading.time ≤ w.now ∧
      ∀ q ∈ w.requests, q.sensorId = reading.sensorId → w.store.rawHistory reading.sensorId ≠ none))
  | .answered k => inferInstanceAs (Decidable (∀ q ∈ w.requests[k]?, ∀ readings ∈ q.snapshot, ∀ q' ∈ w.requests,
      q'.sensorId = q.sensorId → ∀ r ∈ q'.accepted, w.now - hours * hour ≤ r.time → r ∉ readings → lastTime readings < r.time))
  | .tick _ | .stored _ | .polled _ | .snapshot _ | .failed _ => inferInstanceAs (Decidable True)

/-- All requests and histories are of one range, and what arrived while a request is in flight is in the history of its sensor, as
far as it is within the range. -/
structure ReadingsWorld.Steady (hours : Nat) (w : ReadingsWorld) : Prop where
  histories : ∀ sensorId history, w.store.rawHistory sensorId = some history → history.hours = hours
  requests : ∀ q ∈ w.requests, q.hours = hours
  shown : ∀ q ∈ w.requests, ∀ r ∈ q.accepted, w.now - hours * hour ≤ r.time → w.store.Shows q.sensorId r

theorem steady_init (hours : Nat) (now : Int) (stored : List Reading) : (ReadingsWorld.init now stored).Steady hours where
  histories := fun _ _ h => absurd h.symm (Option.some_ne_none _)
  requests := by simp [ReadingsWorld.init]
  shown := by simp [ReadingsWorld.init]

/-- A reading goes on a history, and drops only what its range leaves behind. -/
theorem mem_push {history : RawHistory} {reading r : Reading} (hr : r ∈ history.readings ∨ r = reading)
    (hrange : reading.time - history.hours * hour ≤ r.time) : r ∈ (history.push reading).readings := by
  refine mem_dropWhile_of_neg (p := fun r : Reading => decide (r.time < reading.time - history.hours * hour))
    (decide_eq_false (not_lt.2 hrange)) ?_
  rcases hr with hr | rfl
  · exact List.mem_append_left _ hr
  · exact List.mem_append_right _ List.mem_cons_self

/-- What a history shows within its range stays when a live reading comes. -/
theorem shows_live {st : AirStore} {sensorId : String} {r : Reading} (h : st.Shows sensorId r) {reading : Reading}
    (hrange : ∀ history, st.rawHistory sensorId = some history → reading.time - history.hours * hour ≤ r.time) :
    (st.applyReading reading true).Shows sensorId r := by
  obtain ⟨history, hopen, hr⟩ := h
  rw [AirStore.Shows, applyReading_rawHistory, hopen]
  split_ifs
  · exact ⟨_, rfl, mem_push (Or.inl hr) (hrange history hopen)⟩
  · exact ⟨history, rfl, hr⟩

/-- A live reading that is taken in is shown if a history of its sensor is open. -/
theorem shows_arrived {st : AirStore} {reading : Reading} (hnew : ¬ st.Has reading)
    (hopen : st.rawHistory reading.sensorId ≠ none) : (st.applyReading reading true).Shows reading.sensorId reading := by
  obtain ⟨history, hhistory⟩ := Option.ne_none_iff_exists'.1 hopen
  rw [AirStore.Shows, applyReading_rawHistory, if_pos ⟨rfl, hnew, rfl⟩, hhistory]
  refine ⟨_, rfl, mem_push (Or.inr rfl) ?_⟩
  unfold hour
  omega

/-- A live reading leaves the range of every history. -/
theorem hours_live {hours : Nat} {st : AirStore}
    (h : ∀ sensorId history, st.rawHistory sensorId = some history → history.hours = hours) (reading : Reading) (live : Bool) :
    ∀ sensorId history, (st.applyReading reading live).rawHistory sensorId = some history → history.hours = hours := by
  intro sensorId history hh
  rw [applyReading_rawHistory] at hh
  split_ifs at hh
  · obtain ⟨old, hopen, rfl⟩ := Option.map_eq_some_iff.1 hh
    exact h sensorId old hopen
  · exact h sensorId history hh

theorem steady_live {hours : Nat} {w : ReadingsWorld} (h : w.Steady hours) {reading : Reading}
    (he : w.Reloads hours (.live reading)) : (w.step (.live reading)).Steady hours := by
  by_cases hhas : w.store.Has reading
  · have heq : w.step (.live reading) = w := by
      rw [ReadingsWorld.step, applyReading_of_has hhas, if_pos hhas]
    rwa [heq]
  · obtain ⟨hnow, hopen⟩ := he hhas
    have heq : w.step (.live reading) =
        { w with store := w.store.applyReading reading true, requests := w.requests.map (fun q => q.accept reading) } := by
      rw [ReadingsWorld.step, if_neg hhas]
    rw [heq]
    refine ⟨hours_live h.histories reading true, ?_, ?_⟩
    · intro q' hq'
      obtain ⟨q, hq, rfl⟩ := List.mem_map.1 hq'
      rw [ReadingsRequest.accept]
      split_ifs <;> exact h.requests q hq
    · intro q' hq' r hr hrange
      obtain ⟨q, hq, rfl⟩ := List.mem_map.1 hq'
      have hold : ∀ r ∈ q.accepted, w.now - hours * hour ≤ r.time →
          (w.store.applyReading reading true).Shows q.sensorId r := by
        intro r hr hrange
        refine shows_live (h.shown q hq r hr hrange) (fun history hhistory => ?_)
        rw [h.histories q.sensorId history hhistory]
        exact (Int.sub_le_sub_right hnow _).trans hrange
      rw [ReadingsRequest.accept] at hr ⊢
      split_ifs at hr ⊢ with hsensor
      · rcases List.mem_append.1 hr with hr | hr
        · exact hold r hr hrange
        · obtain rfl := List.mem_singleton.1 hr
          exact hsensor ▸ shows_arrived hhas (hopen q hq hsensor.symm)
      · exact hold r hr hrange

/-- An answer that is no older than what it lacks keeps what other requests of the sensor wait for. -/
theorem steady_answered {hours : Nat} {w : ReadingsWorld} (h : w.Steady hours) {k : Nat} {q : ReadingsRequest}
    {readings : List Reading} (hq : w.requests[k]? = some q) (hs : q.snapshot = some readings)
    (he : w.Reloads hours (.answered k)) : (w.step (.answered k)).Steady hours := by
  rw [step_answered hq hs]
  refine ⟨?_, fun q' hq' => h.requests q' (List.mem_of_mem_eraseIdx hq'), ?_⟩
  · intro sensorId history hopen
    by_cases hsensor : sensorId = q.sensorId
    · subst hsensor
      exact (loadReadings_hours hopen).trans (h.requests q (List.mem_of_getElem? hq))
    · rw [loadReadings_other _ _ _ _ hsensor] at hopen
      exact h.histories sensorId history hopen
  · intro q' hq' r hr hrange
    have hq' := List.mem_of_mem_eraseIdx hq'
    have hshown := h.shown q' hq' r hr hrange
    by_cases hsensor : q'.sensorId = q.sensorId
    · rw [hsensor, shows_loadReadings_iff]
      by_cases hmem : r ∈ readings
      · exact Or.inl hmem
      · exact Or.inr ⟨he q hq readings hs q' hq' hsensor r hr hrange hmem, hsensor ▸ hshown⟩
    · rw [AirStore.Shows, loadReadings_other _ _ _ _ hsensor]
      exact hshown

theorem steady_step {hours : Nat} {w : ReadingsWorld} (h : w.Steady hours) (e : ReadingsEvent) (he : w.Reloads hours e) :
    (w.step e).Steady hours := by
  cases e with
  | tick ms =>
    refine ⟨h.histories, h.requests, fun q hq r hr hrange => h.shown q hq r hr ?_⟩
    simp only [ReadingsWorld.step] at hrange
    omega
  | stored reading => exact ⟨h.histories, h.requests, h.shown⟩
  | live reading => exact steady_live h he
  | polled reading =>
    have hraw : ∀ sensorId, (w.store.applyReading reading false).rawHistory sensorId = w.store.rawHistory sensorId := by
      intro sensorId
      rw [applyReading_rawHistory, if_neg (fun hc => Bool.false_ne_true hc.1)]
    refine ⟨hours_live h.histories reading false, h.requests, fun q hq r hr hrange => ?_⟩
    rw [ReadingsWorld.step, AirStore.Shows, hraw]
    exact h.shown q hq r hr hrange
  | loadReadings sensorId hours' =>
    refine ⟨h.histories, fun q hq => ?_, fun q hq r hr hrange => ?_⟩
    · rcases List.mem_append.1 hq with hq | hq
      · exact h.requests q hq
      · rw [List.mem_singleton.1 hq]
        exact he
    · rcases List.mem_append.1 hq with hq | hq
      · exact h.shown q hq r hr hrange
      · -- nothing has arrived yet
        rw [List.mem_singleton.1 hq] at hr
        cases hr
  | snapshot k =>
    rw [ReadingsWorld.step]
    split
    · rename_i sensorId hours' accepted hq
      have hmem := List.mem_of_getElem? hq
      refine ⟨h.histories, fun q' hq' => ?_, fun q' hq' r hr hrange => ?_⟩
      · rcases List.mem_or_eq_of_mem_set hq' with hq' | rfl
        · exact h.requests q' hq'
        · have hold := h.requests _ hmem
          exact hold
      · rcases List.mem_or_eq_of_mem_set hq' with hq' | rfl
        · exact h.shown q' hq' r hr hrange
        · have hold := h.shown _ hmem r hr hrange
          exact hold
    · exact h
  | answered k =>
    cases hq : w.requests[k]? with
    | none => rwa [ReadingsWorld.step, hq]
    | some q =>
      cases hs : q.snapshot with
      | none =>
        obtain ⟨sensorId, hours', snapshot, accepted⟩ := q
        obtain rfl : snapshot = none := hs
        rwa [ReadingsWorld.step, hq]
      | some readings => exact steady_answered h hq hs he
  | failed k =>
    exact ⟨h.histories, fun q hq => h.requests q (List.mem_of_mem_eraseIdx hq),
      fun q hq => h.shown q (List.mem_of_mem_eraseIdx hq)⟩

/-- On such a page a request that completes keeps what arrived. -/
theorem keepsArrived_of_steady {hours : Nat} {w : ReadingsWorld} (h : w.Steady hours) (e : ReadingsEvent)
    (he : w.Reloads hours e) : w.KeepsArrived e := by
  rw [keepsArrived_iff]
  cases e with
  | answered k =>
    intro q hq readings hs r hr hrange hmem
    have hq' := List.mem_of_getElem? hq
    rw [h.requests q hq'] at hrange
    exact ⟨he q hq readings hs q hq' rfl r hr hrange hmem, h.shown q hq' r hr hrange⟩
  | _ => trivial

/-! ## Runs -/

/-- No live reading is lost to a history request, in every run from a page that has just been set up:
1. each request that completes is followed by a history that shows every live reading of the sensor which was taken in while it
was in flight and is within its window, exactly if each such reading that the answer lacks is newer than the last of the answer
and in a history of the sensor that is open when the answer comes;
2. that is so in every run in which all requests are for one range, no live reading is ahead of the clock, one is taken in during a
request only when a history of its sensor is open, and no answer without a reading that arrived has one as new. -/
theorem in_flight_kept_iff (now : Int) (stored : List Reading) (es : List ReadingsEvent) :
    (readingsMachine.Along ReadingsWorld.KeepsArrived (ReadingsWorld.init now stored) es ↔
      readingsMachine.Along ReadingsWorld.ArrivedInOpen (ReadingsWorld.init now stored) es) ∧
    ∀ hours, readingsMachine.Along (ReadingsWorld.Reloads hours) (ReadingsWorld.init now stored) es →
      readingsMachine.Along ReadingsWorld.KeepsArrived (ReadingsWorld.init now stored) es := by
  refine ⟨readingsMachine.along_congr keepsArrived_iff _ es, fun hours h => ?_⟩
  have hstep : ∀ w e, ReadingsWorld.Steady hours w → ReadingsWorld.Reloads hours w e →
      ReadingsWorld.Steady hours (readingsMachine.step w e).1 ∧ ReadingsWorld.KeepsArrived w e :=
    fun w e hw he => ⟨steady_step hw e he, keepsArrived_of_steady hw e he⟩
  exact readingsMachine.along_of_inv hstep (steady_init hours now stored) h

/-- A history is open, and a reading comes while it is loaded again. -/
def reloadRun : List ReadingsEvent :=
  [.loadReadings "a" 24, .snapshot 0, .answered 0, .loadReadings "a" 24, .snapshot 0, .live (readingAt "a" 5000), .answered 0]

theorem in_flight_kept_iff_reload :
    readingsMachine.Along ReadingsWorld.KeepsArrived (ReadingsWorld.init 10000 [readingAt "a" 1000]) reloadRun :=
  (in_flight_kept_iff 10000 [readingAt "a" 1000] reloadRun).2 24 (by decide +kernel)

/-- The first request of a sensor is in flight when a reading comes, and no history is open to take it. -/
theorem in_flight_kept_false :
    ¬ ∀ (now : Int) (stored : List Reading) (es : List ReadingsEvent),
      readingsMachine.Along ReadingsWorld.KeepsArrived (ReadingsWorld.init now stored) es := by
  intro h
  exact absurd (h 10000 [readingAt "a" 1000] [.loadReadings "a" 24, .snapshot 0, .live (readingAt "a" 5000), .answered 0])
    (by decide +kernel)

end AirQuality
