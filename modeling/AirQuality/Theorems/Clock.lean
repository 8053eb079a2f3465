import AirQuality.Dashboard.Clock

/-!
# The page tells the server's time

Whatever the device's clock shows, in every run the page is wrong about the server's time by half of the last round trip at most,
and by what the two clocks have drifted apart since. So a sensor that has reported lately is shown online, and one that has not is
shown offline.
-/

namespace AirQuality.Dashboard

namespace ClockPage

/-! ## The calls and the round trips -/

/-- The answers of the calls come after their questions, and the offset is the one of the last answer. -/
structure Sound (p : ClockPage) : Prop where
  sent : ∀ c ∈ p.syncs, c.sentAt ≤ p.server
  stamp : ∀ c ∈ p.syncs, ∀ s, c.stamp = some s → c.sentAt ≤ s ∧ s ≤ p.server
  trips : ∀ r ∈ p.trips, r.InOrder
  offset : p.clockOffset = (p.trips.head?.map RoundTrip.offset).getD 0

theorem Sound.start (server device : ℤ) : (start server device).Sound where
  sent := by simp [ClockPage.start]
  stamp := by simp [ClockPage.start]
  trips := by simp [ClockPage.start]
  offset := rfl

/-- With some of the calls and later on, all of it still holds. -/
theorem Sound.mono {p q : ClockPage} (h : p.Sound) (hsyncs : ∀ c ∈ q.syncs, c ∈ p.syncs) (hserver : p.server ≤ q.server)
    (htrips : q.trips = p.trips) (hoffset : q.clockOffset = p.clockOffset) : q.Sound where
  sent := by
    intro c hc
    exact (h.sent c (hsyncs c hc)).trans hserver
  stamp := by
    intro c hc s hs
    obtain ⟨hsent, hstamp⟩ := h.stamp c (hsyncs c hc) s hs
    exact ⟨hsent, hstamp.trans hserver⟩
  trips := by
    rw [htrips]
    exact h.trips
  offset := by
    rw [htrips, hoffset]
    exact h.offset

/-- The round trip of an answer is in order, and gives the offset. -/
theorem Sound.synced {p : ClockPage} (h : p.Sound) {c : ClockSync} (hc : c ∈ p.syncs) {stamp : ℤ} (hstamp : c.stamp = some stamp) :
    (p.synced c.sent c.sentAt stamp).Sound where
  sent := h.sent
  stamp := h.stamp
  trips := by
    intro r hr
    rcases List.mem_cons.1 hr with rfl | hr
    · obtain ⟨hsent, hanswered⟩ := h.stamp c hc stamp hstamp
      exact ⟨Int.cast_le.2 hsent, Int.cast_le.2 hanswered⟩
    · exact h.trips r hr
  offset := rfl

theorem Sound.applyLive {p : ClockPage} (h : p.Sound) (reading : Reading) : (p.applyLive reading).Sound := by
  unfold ClockPage.applyLive
  split
  · exact h
  · exact h.mono (fun _ => id) le_rfl rfl rfl

theorem Sound.step {p : ClockPage} (h : p.Sound) (e : ClockEvent) : (p.step e).Sound := by
  cases e with
  | pass server device => exact h.mono (fun _ => id) (Int.le_add_of_nonneg_right (Int.natCast_nonneg server)) rfl rfl
  | syncClock =>
    refine ⟨?_, ?_, h.trips, h.offset⟩
    · intro c hc
      rcases List.mem_append.1 hc with hc | hc
      · exact h.sent c hc
      · obtain rfl := List.mem_singleton.1 hc
        exact le_rfl
    · intro c hc s hs
      rcases List.mem_append.1 hc with hc | hc
      · exact h.stamp c hc s hs
      · obtain rfl := List.mem_singleton.1 hc
        exact absurd hs (Option.some_ne_none s).symm
  | stamp k =>
    simp only [ClockPage.step]
    split
    · rename_i sent sentAt hk
      have hsent : sentAt ≤ p.server := h.sent _ (List.mem_of_getElem? hk)
      refine ⟨?_, ?_, h.trips, h.offset⟩
      · intro c hc
        rcases List.mem_or_eq_of_mem_set hc with hc | rfl
        · exact h.sent c hc
        · exact hsent
      · intro c hc s hs
        rcases List.mem_or_eq_of_mem_set hc with hc | rfl
        · exact h.stamp c hc s hs
        · obtain rfl := Option.some.inj hs
          exact ⟨hsent, le_rfl⟩
    · exact h
  | answer k =>
    simp only [ClockPage.step]
    split
    · rename_i sent sentAt stamp hk
      have hsynced := h.synced (List.mem_of_getElem? hk) rfl
      exact hsynced.mono (fun _ => List.mem_of_mem_eraseIdx) le_rfl rfl rfl
    · exact h
  | fail k => exact h.mono (fun _ => List.mem_of_mem_eraseIdx) le_rfl rfl rfl
  | clock => exact h.mono (fun _ => id) le_rfl rfl rfl
  | sensors sensors => exact h.mono (fun _ => id) le_rfl rfl rfl
  | latest readings => exact h.mono (fun _ => id) le_rfl rfl rfl
  | live reading => exact h.applyLive reading

/-- The page's idea of the time, once a call has answered. -/
theorem Sound.abs_serverNow_sub_le {p : ClockPage} (h : p.Sound) {trip : RoundTrip ℚ} (htrip : p.trips.head? = some trip) :
    |p.serverNow - p.server| ≤ trip.length / 2 + |p.skew - trip.skew| := by
  have hoffset : p.clockOffset = trip.offset := by
    rw [h.offset, htrip]
    rfl
  have horder := h.trips trip (List.mem_of_mem_head? htrip)
  have hreading := RoundTrip.abs_reading_sub_le horder p.device p.server
  unfold serverNow skew
  rw [hoffset]
  exact hreading

/-! ## A clock that keeps its distance -/

/-- The device's clock is ahead by `δ`, give or take `ε`, and was so whenever a call was made or answered. -/
structure Steady (δ ε : ℚ) (p : ClockPage) : Prop where
  skew : |p.skew - δ| ≤ ε
  sent : ∀ c ∈ p.syncs, |(c.sent : ℚ) - c.sentAt - δ| ≤ ε
  trips : ∀ r ∈ p.trips, r.Steady δ ε

variable {δ ε : ℚ}

theorem Steady.start {server device : ℤ} (h : |(start server device).skew - δ| ≤ ε) : (start server device).Steady δ ε where
  skew := h
  sent := by simp [ClockPage.start]
  trips := by simp [ClockPage.start]

theorem Steady.mono {p q : ClockPage} (h : p.Steady δ ε) (hq : |q.skew - δ| ≤ ε) (hsyncs : ∀ c ∈ q.syncs, c ∈ p.syncs)
    (htrips : q.trips = p.trips) : q.Steady δ ε where
  skew := hq
  sent := fun c hc => h.sent c (hsyncs c hc)
  trips := by
    rw [htrips]
    exact h.trips

theorem Steady.synced {p : ClockPage} (h : p.Steady δ ε) {c : ClockSync} (hc : c ∈ p.syncs) (stamp : ℤ) :
    (p.synced c.sent c.sentAt stamp).Steady δ ε where
  skew := h.skew
  sent := h.sent
  trips := by
    intro r hr
    rcases List.mem_cons.1 hr with rfl | hr
    · exact ⟨h.sent c hc, h.skew⟩
    · exact h.trips r hr

theorem Steady.applyLive {p : ClockPage} (h : p.Steady δ ε) (reading : Reading) : (p.applyLive reading).Steady δ ε := by
  unfold ClockPage.applyLive
  split
  · exact h
  · exact h.mono h.skew (fun _ => id) rfl

theorem Steady.step {p : ClockPage} (h : p.Steady δ ε) {e : ClockEvent} (hnext : |(p.step e).skew - δ| ≤ ε) :
    (p.step e).Steady δ ε := by
  cases e with
  | pass server device => exact h.mono hnext (fun _ => id) rfl
  | syncClock =>
    refine ⟨hnext, ?_, h.trips⟩
    intro c hc
    rcases List.mem_append.1 hc with hc | hc
    · exact h.sent c hc
    · obtain rfl := List.mem_singleton.1 hc
      exact h.skew
  | stamp k =>
    simp only [ClockPage.step]
    split
    · rename_i sent sentAt hk
      have hsent : |(sent : ℚ) - sentAt - δ| ≤ ε := h.sent ⟨sent, sentAt, none⟩ (List.mem_of_getElem? hk)
      refine ⟨h.skew, ?_, h.trips⟩
      intro c hc
      rcases List.mem_or_eq_of_mem_set hc with hc | rfl
      · exact h.sent c hc
      · exact hsent
    · exact h
  | answer k =>
    simp only [ClockPage.step]
    split
    · rename_i sent sentAt stamp hk
      have hsynced := h.synced (List.mem_of_getElem? hk) stamp
      exact hsynced.mono hsynced.skew (fun _ => List.mem_of_mem_eraseIdx) rfl
    · exact h
  | fail k => exact h.mono hnext (fun _ => List.mem_of_mem_eraseIdx) rfl
  | clock => exact h.mono hnext (fun _ => id) rfl
  | sensors sensors => exact h.mono hnext (fun _ => id) rfl
  | latest readings => exact h.mono hnext (fun _ => id) rfl
  | live reading => exact h.applyLive reading

/-- The time is told to within half of the longest round trip and the drift. -/
theorem Steady.abs_serverNow_sub_le {p : ClockPage} (h : p.Steady δ ε) (hsound : p.Sound) (htrips : p.trips ≠ []) {b : ℚ}
    (hb : ∀ r ∈ p.trips, r.length ≤ b) : |p.serverNow - p.server| ≤ b / 2 + 2 * ε := by
  obtain ⟨trip, rest, htrip⟩ := List.exists_cons_of_ne_nil htrips
  have hmem : trip ∈ p.trips := by simp [htrip]
  have hhead : p.trips.head? = some trip := by simp [htrip]
  have hclose := hsound.abs_serverNow_sub_le hhead
  have hdrift : |p.skew - trip.skew| ≤ 2 * ε := (h.trips trip hmem).abs_drift_le h.skew
  have hlength := hb trip hmem
  linarith

/-! ## The time that is shown -/

/-- Once it has been set on a known offset, `now` is the server's time then or later, give or take what the page is wrong by. -/
def Shown (ε : ℚ) (p : ClockPage) : Prop :=
  ∀ t, p.shownAt = some t → p.trips ≠ [] ∧ t ≤ p.server ∧
    ∀ b, (∀ r ∈ p.trips, r.length ≤ b) → t - (b / 2 + 2 * ε) ≤ p.now ∧ p.now ≤ p.server + (b / 2 + 2 * ε)

theorem Shown.mono {p q : ClockPage} (h : p.Shown ε) (hserver : p.server ≤ q.server) (hshown : q.shownAt = p.shownAt)
    (hnow : q.now = p.now) (htrips : ∃ new, q.trips = new ++ p.trips) : q.Shown ε := by
  intro t ht
  obtain ⟨hne, hle, hbounds⟩ := h t (hshown ▸ ht)
  obtain ⟨new, hnew⟩ := htrips
  refine ⟨?_, hle.trans hserver, ?_⟩
  · rw [hnew]
    exact List.append_ne_nil_of_right_ne_nil new hne
  · intro b hb
    obtain ⟨hlow, hhigh⟩ := hbounds b (fun r hr => hb r (by rw [hnew]; exact List.mem_append_right new hr))
    have hcast : (p.server : ℚ) ≤ q.server := Int.cast_le.2 hserver
    rw [hnow]
    constructor <;> linarith

theorem Shown.setNow {p : ClockPage} (hsteady : p.Steady δ ε) (hsound : p.Sound) : p.setNow.Shown ε := by
  intro t ht
  unfold ClockPage.setNow at ht
  cases htrips : p.trips with
  | nil => simp [htrips] at ht
  | cons trip rest =>
    have hne : p.trips ≠ [] := by simp [htrips]
    obtain rfl : p.server = t := by simpa [htrips] using ht
    refine ⟨hne, le_rfl, ?_⟩
    intro b hb
    obtain ⟨hlow, hhigh⟩ := abs_le.1 (hsteady.abs_serverNow_sub_le hsound hne hb)
    constructor
    · change (p.server : ℚ) - (b / 2 + 2 * ε) ≤ p.serverNow
      linarith
    · change p.serverNow ≤ p.server + (b / 2 + 2 * ε)
      linarith

theorem Shown.applyLive {p : ClockPage} (h : p.Shown ε) (hsteady : p.Steady δ ε) (hsound : p.Sound) (reading : Reading) :
    (p.applyLive reading).Shown ε := by
  unfold ClockPage.applyLive
  split
  · exact h
  · intro t ht
    obtain ⟨t', ht', rfl⟩ := Option.map_eq_some_iff.1 ht
    obtain ⟨hne, -, hbounds⟩ := h t' ht'
    refine ⟨hne, le_rfl, ?_⟩
    intro b hb
    -- the time shown before is not too late, the time now is not too early
    obtain ⟨-, hbefore⟩ := hbounds b hb
    obtain ⟨hlow, hhigh⟩ := abs_le.1 (hsteady.abs_serverNow_sub_le hsound hne hb)
    constructor
    · have hnow : (p.server : ℚ) - (b / 2 + 2 * ε) ≤ p.serverNow := by linarith
      exact hnow.trans (le_max_right p.now p.serverNow)
    · have hnow : p.serverNow ≤ p.server + (b / 2 + 2 * ε) := by linarith
      exact max_le hbefore hnow

theorem Shown.step {p : ClockPage} (h : p.Shown ε) (hsteady : p.Steady δ ε) (hsound : p.Sound) (e : ClockEvent) :
    (p.step e).Shown ε := by
  cases e with
  | pass server device =>
    exact h.mono (Int.le_add_of_nonneg_right (Int.natCast_nonneg server)) rfl rfl ⟨[], rfl⟩
  | syncClock => exact h.mono le_rfl rfl rfl ⟨[], rfl⟩
  | stamp k =>
    simp only [ClockPage.step]
    split
    · exact h.mono le_rfl rfl rfl ⟨[], rfl⟩
    · exact h
  | answer k =>
    simp only [ClockPage.step]
    split
    · exact h.mono le_rfl rfl rfl ⟨[_], rfl⟩
    · exact h
  | fail k => exact h.mono le_rfl rfl rfl ⟨[], rfl⟩
  | clock => exact Shown.setNow hsteady hsound
  | sensors sensors => exact h.mono le_rfl rfl rfl ⟨[], rfl⟩
  | latest readings =>
    exact Shown.setNow (hsteady.mono hsteady.skew (fun _ => id) rfl) (hsound.mono (fun _ => id) le_rfl rfl rfl)
  | live reading => exact h.applyLive hsteady hsound reading

/-! ## Runs -/

theorem sound_run (server device : ℤ) (es : List ClockEvent) : (clockMachine.run (start server device) es).Sound :=
  clockMachine.run_inv (fun _ e h => h.step e) (Sound.start server device) es

/-- In a run in which the device's clock keeps its distance, the calls saw it so, and the time that is shown is right. -/
theorem shown_run {server device : ℤ} {es : List ClockEvent}
    (h : ∀ k, |(clockMachine.run (start server device) (es.take k)).skew - δ| ≤ ε) :
    (clockMachine.run (start server device) es).Shown ε := by
  have halong : clockMachine.Along (fun p e => |(p.step e).skew - δ| ≤ ε) (start server device) es := by
    rw [Machine.along_iff_getElem?]
    intro k e he
    have hk := h (k + 1)
    rw [List.take_add_one, he, Option.toList_some, Machine.run_snoc] at hk
    exact hk
  have hstep : ∀ (p : ClockPage) (e : ClockEvent), |(p.step e).skew - δ| ≤ ε → p.Sound ∧ p.Steady δ ε ∧ p.Shown ε →
      (p.step e).Sound ∧ (p.step e).Steady δ ε ∧ (p.step e).Shown ε := by
    rintro p e hnext ⟨hsound, hsteady, hshown⟩
    exact ⟨hsound.step e, hsteady.step hnext, hshown.step hsteady hsound e⟩
  have hstart : (start server device).Shown ε := fun t ht => absurd ht (Option.some_ne_none t).symm
  exact (clockMachine.run_inv_of_along hstep ⟨Sound.start server device, Steady.start (h 0), hstart⟩ halong).2.2

end ClockPage

/-! ## What the rows say -/

/-- The status of a reading that is surely fresh, or surely not, on a clock that is off by no more than `m`. -/
theorem sensorStatus_of_margin {sensor : Sensor} (hactive : sensor.isActive = true) (r : Reading) {now low high m : ℚ}
    (hlow : low - m ≤ now) (hhigh : now ≤ high + m) :
    (high - r.time < onlineWindowMs - m → sensorStatus sensor (some r) now = .online) ∧
      (onlineWindowMs + m ≤ low - r.time → sensorStatus sensor (some r) now = .offline) := by
  constructor
  · intro hfresh
    have hlt : now - r.time < onlineWindowMs := by linarith
    simp [sensorStatus, hactive, hlt]
  · intro hstale
    have hge : ¬now - r.time < onlineWindowMs := by
      have hle : onlineWindowMs ≤ now - r.time := by linarith
      exact not_lt.2 hle
    simp [sensorStatus, hactive, hge]

/-- The page goes by the server's clock, in every run and whatever the device's clock shows.
1. Until a call of `syncClock` has answered, the page goes by the device's clock;
2. from then on it is wrong by half of the last round trip at most, and by what the two clocks have drifted apart since;
3. once `now` has been set after a call has answered (last at `t` by the server), if the device's clock is ahead by `δ` throughout,
give or take `ε`, and no round trip was longer than `b`, an active sensor is online if its latest reading is younger than the window by
`b / 2 + 2 * ε`, and offline if it was older by as much at `t`. None of it depends on `δ`. -/
theorem page_clock (server device : ℤ) (es : List ClockEvent) :
    let run (es : List ClockEvent) := clockMachine.run (ClockPage.start server device) es
    let p := run es
    (p.trips = [] → p.serverNow = p.device) ∧
    (∀ trip, p.trips.head? = some trip → |p.serverNow - p.server| ≤ trip.length / 2 + |p.skew - trip.skew|) ∧
    ∀ δ ε b t, (∀ k, |(run (es.take k)).skew - δ| ≤ ε) → (∀ trip ∈ p.trips, trip.length ≤ b) → p.shownAt = some t →
      ∀ row ∈ p.rows, row.sensor.isActive = true → ∀ r, row.reading = some r →
        (p.server - r.time < onlineWindowMs - (b / 2 + 2 * ε) → row.status = .online) ∧
        (onlineWindowMs + (b / 2 + 2 * ε) ≤ t - r.time → row.status = .offline) := by
  intro run p
  have hsound : p.Sound := ClockPage.sound_run server device es
  refine ⟨?_, ?_, ?_⟩
  · intro htrips
    unfold ClockPage.serverNow
    rw [hsound.offset, htrips]
    exact add_zero _
  · intro trip htrip
    exact hsound.abs_serverNow_sub_le htrip
  · intro δ ε b t hskew hb ht row hrow hactive r hr
    obtain ⟨-, -, hbounds⟩ := ClockPage.shown_run hskew t ht
    obtain ⟨hlow, hhigh⟩ := hbounds b hb
    obtain ⟨sensor, -, rfl⟩ := List.mem_map.1 hrow
    have hreading : p.store.latest sensor.id = some r := hr
    have hstatus := sensorStatus_of_margin hactive r hlow hhigh
    rwa [← hreading] at hstatus

/-- An active sensor. -/
def activeSensor (id : String) : Sensor where
  id := id
  name := id
  nameAr := none
  neighborhood := none
  neighborhoodAr := none
  neighborhoodId := "unassigned"
  latitude := 34
  longitude := 36
  isActive := true
  installDate := none

/-- A device an hour ahead, a round trip of 100 ms, and then the latest readings of two sensors, one of them older than the window. -/
def hourAhead : List ClockEvent :=
  [.sensors [activeSensor "a", activeSensor "b"], .syncClock, .pass 40 40, .stamp 0, .pass 60 60, .answer 0,
    .latest [readingAt "a" 0, readingAt "b" (-1000000)]]

theorem page_clock_hour_ahead :
    (clockMachine.run (ClockPage.start 0 3600000) hourAhead).rows.map SensorRow.status = [.online, .offline] := by
  obtain ⟨-, -, hstatus⟩ := page_clock 0 3600000 hourAhead
  have hskew : ∀ k, |(clockMachine.run (ClockPage.start 0 3600000) (hourAhead.take k)).skew - 3600000| ≤ (0 : ℚ) := by
    have hfew : ∀ k ∈ List.range 8, (clockMachine.run (ClockPage.start 0 3600000) (hourAhead.take k)).skew = 3600000 := by
      decide +kernel
    intro k
    rw [abs_nonpos_iff, sub_eq_zero]
    rcases Nat.lt_or_ge k 8 with hk | hk
    · exact hfew k (List.mem_range.2 hk)
    · rw [List.take_of_length_le (Nat.le_of_succ_le hk)]
      exact hfew 7 (by decide)
  have htrips : ∀ trip ∈ (clockMachine.run (ClockPage.start 0 3600000) hourAhead).trips, trip.length ≤ 100 := by
    decide +kernel
  have hrows := hstatus 3600000 0 100 100 hskew htrips (by decide +kernel)
  have hfresh := (hrows _ List.mem_cons_self rfl (readingAt "a" 0) rfl).1 (by decide +kernel)
  have hstale := (hrows _ (List.mem_cons_of_mem _ List.mem_cons_self) rfl (readingAt "b" (-1000000)) rfl).2 (by decide +kernel)
  change [_, _] = _
  rw [hfresh, hstale]

end AirQuality.Dashboard
