import AirQuality.Dashboard.HttpService
import AirQuality.Dashboard.Page

/-!
# Requests of a raw history

`loadReadings` with the server that answers it. The server stores readings as they come to it, and reads them for a request at some
moment before it answers; readings reach the page over the socket and with polls meanwhile, stored or not. Of each request the world
keeps which live readings of its sensor the page has taken in since it was made.
-/

namespace AirQuality

/-- A request of `loadReadings` that waits for its answer: once the server has read its readings, what it answers with, and the
live readings of the sensor that the store has taken in since the request was made. -/
structure ReadingsRequest where
  sensorId : String
  hours : Nat
  snapshot : Option (List Reading)
  accepted : List Reading
deriving DecidableEq

/-- The clock, what the server has stored, and the page. -/
structure ReadingsWorld where
  now : Int
  stored : List Reading
  store : AirStore
  requests : List ReadingsRequest

inductive ReadingsEvent where
  | tick (ms : Nat)
  /-- The server stores a reading. -/
  | stored (reading : Reading)
  /-- The socket gives a reading to `onReading`. -/
  | live (reading : Reading)
  /-- A poll, a resync or the initial load applies a reading. -/
  | polled (reading : Reading)
  /-- `loadReadings` makes its request. -/
  | loadReadings (sensorId : String) (hours : Nat)
  /-- The server reads the stored readings for the request at a position. -/
  | snapshot (k : Nat)
  /-- The request at a position is answered. -/
  | answered (k : Nat)
  /-- The request at a position fails. -/
  | failed (k : Nat)
deriving DecidableEq

def ReadingsWorld.init (now : Int) (stored : List Reading) : ReadingsWorld := ⟨now, stored, AirStore.init, []⟩

/-- What `getReadings` gives for what the server has stored: the readings of the sensor in the window, the newest 5000 at most, in
order of time. -/
def storedReadings (stored : List Reading) (sensorId : String) (hours : Nat) (now : Int) : List Reading :=
  (((stored.filter (fun r => decide (r.sensorId = sensorId ∧ now - windowHours (some hours) * hour ≤ r.time))).insertionSort
    (fun a b => b.time ≤ a.time)).take 5000).reverse

/-- A live reading that the store takes in. -/
def ReadingsRequest.accept (q : ReadingsRequest) (reading : Reading) : ReadingsRequest :=
  if reading.sensorId = q.sensorId then { q with accepted := q.accepted ++ [reading] } else q

def ReadingsWorld.step (w : ReadingsWorld) : ReadingsEvent → ReadingsWorld
  | .tick ms => { w with now := w.now + ms }
  | .stored reading => { w with stored := w.stored ++ [reading] }
  | .live reading =>
    { w with
      store := w.store.applyReading reading true
      requests := if w.store.Has reading then w.requests else w.requests.map (fun q => q.accept reading) }
  | .polled reading => { w with store := w.store.applyReading reading false }
  | .loadReadings sensorId hours => { w with requests := w.requests ++ [⟨sensorId, hours, none, []⟩] }
  | .snapshot k =>
    match w.requests[k]? with
    | some ⟨sensorId, hours, none, accepted⟩ =>
      { w with requests := w.requests.set k ⟨sensorId, hours, some (storedReadings w.stored sensorId hours w.now), accepted⟩ }
    | _ => w
  | .answered k =>
    match w.requests[k]? with
    | some ⟨sensorId, hours, some readings, _⟩ =>
      { w with store := w.store.loadReadings sensorId hours readings, requests := w.requests.eraseIdx k }
    | _ => w
  | .failed k => { w with requests := w.requests.eraseIdx k }

def readingsMachine : Machine ReadingsWorld ReadingsEvent Unit := ⟨fun w e => (w.step e, ())⟩

/-- A history of the sensor is open that has the reading. -/
def AirStore.Shows (st : AirStore) (sensorId : String) (reading : Reading) : Prop :=
  ∃ history ∈ st.rawHistory sensorId, reading ∈ history.readings

instance (st : AirStore) (sensorId : String) (reading : Reading) : Decidable (st.Shows sensorId reading) :=
  inferInstanceAs (Decidable (∃ history ∈ st.rawHistory sensorId, reading ∈ history.readings))

/-- The time of the last reading of an answer, as `loadReadings` takes it. -/
def lastTime (readings : List Reading) : Int := (readings.getLast?.map (·.time)).getD 0

theorem loadReadings_other (st : AirStore) (sensorId : String) (hours : Nat) (readings : List Reading) {other : String}
    (h : other ≠ sensorId) : (st.loadReadings sensorId hours readings).rawHistory other = st.rawHistory other :=
  Function.update_of_ne h _ _

theorem loadReadings_hours {st : AirStore} {sensorId : String} {hours : Nat} {readings : List Reading} {history : RawHistory}
    (h : (st.loadReadings sensorId hours readings).rawHistory sensorId = some history) : history.hours = hours := by
  simp only [AirStore.loadReadings, Function.update_self, Option.some.injEq] at h
  rw [← h]

/-- A history that is loaded shows the answer, and what the one that was open has after its last reading. -/
theorem shows_loadReadings_iff (st : AirStore) (sensorId : String) (hours : Nat) (readings : List Reading) (reading : Reading) :
    (st.loadReadings sensorId hours readings).Shows sensorId reading ↔
      reading ∈ readings ∨ lastTime readings < reading.time ∧ st.Shows sensorId reading := by
  simp only [AirStore.Shows, AirStore.loadReadings, Function.update_self, Option.mem_def, Option.some.injEq, exists_eq_left',
    List.mem_append]
  refine or_congr_right ?_
  cases st.rawHistory sensorId with
  | none => simp
  | some history => simp [lastTime, and_comm]

/-! ## What the API sends -/

open Dashboard in
/-- `getReadings`, of an API with these readings in its table: the ids are in lower case there, and times come back as they were
written. -/
theorem getReadings_sensorReadings {unicodeLower : String → String} {dateParse : String → Option ℤ} {toISOString : ℤ → String}
    {stored : List ReadingPayload}
    (hstored : ∀ p ∈ stored, p.reading.deviceId ≠ "" ∧ key unicodeLower p.reading.deviceId = p.reading.deviceId ∧
      dateParse (toISOString p.reading.timestamp) = some p.reading.timestamp) (sensorId : String) (hours : Nat) (now : ℤ) :
    getReadings unicodeLower dateParse (sensorReadings toISOString stored sensorId (some hours) now) =
      storedReadings (stored.map (ReadingPayload.shown unicodeLower)) sensorId hours now := by
  have hrows : ∀ ps : List ReadingPayload, (∀ p ∈ ps, p ∈ stored) →
      ((ps.map (ReadingPayload.row toISOString)).map rowObject).filterMap (toReading unicodeLower dateParse) =
        ps.map (ReadingPayload.shown unicodeLower) := by
    intro ps hps
    rw [List.map_map, List.filterMap_map, ← List.filterMap_eq_map]
    refine List.filterMap_congr (fun p hp => ?_)
    obtain ⟨hid, -, hdate⟩ := hstored p (hps p hp)
    exact toReading_row hid hdate
  have hfilter : stored.filter (fun p => decide (p.reading.deviceId = sensorId ∧
      now - windowHours (some hours) * 3600000 ≤ p.reading.timestamp)) =
      stored.filter ((fun r : Reading => decide (r.sensorId = sensorId ∧ now - windowHours (some hours) * hour ≤ r.time)) ∘
        ReadingPayload.shown unicodeLower) := by
    refine List.filter_congr (fun p hp => ?_)
    simp only [Function.comp_apply, ReadingPayload.shown, (hstored p hp).2.1, hour]
  rw [getReadings, sensorReadings, hrows, hfilter, storedReadings, List.filter_map, List.map_take]
  · congr 2
    exact List.map_insertionSort _ _ _ _ (fun _ _ _ _ => Iff.rfl)
  · intro p hp
    exact List.mem_of_mem_filter ((List.mem_insertionSort _).1 (List.mem_of_mem_take hp))

end AirQuality
