import AirQuality.Lib.Machine
import AirQuality.Lib.Newest
import AirQuality.Lib.Series
import Mathlib.Data.Rat.Defs

/-!
# The store of the dashboard

`useAirStore`: the latest reading of each sensor, the raw histories that are open, and the state of the live channel. Each
definition is one of the store's functions, or the part of one that runs after an answer has come.
-/

namespace AirQuality

/-- A reading as the views have it; `time` is in milliseconds of the epoch. -/
structure Reading where
  sensorId : String
  time : Int
  pm25 : ℚ
  pm10 : ℚ
  temperature : ℚ
  humidity : ℚ
  pressure : Option ℚ
  aqi : ℚ
  batteryMv : Option ℚ
  signalStrength : Option ℚ
deriving DecidableEq, Repr

/-- A reading of a sensor at a time. -/
def readingAt (sensorId : String) (time : Int) : Reading where
  sensorId := sensorId
  time := time
  pm25 := 10
  pm10 := 20
  temperature := 20
  humidity := 50
  pressure := none
  aqi := 40
  batteryMv := none
  signalStrength := none

/-- `HOUR`, in milliseconds. -/
def hour : Int := 3600000

structure RawHistory where
  hours : Nat
  readings : List Reading
deriving DecidableEq, Repr

/-- How fresh the data on screen is. -/
inductive ConnectionState where
  | connecting | live | reconnecting | polling
deriving DecidableEq, Repr

/-- The state of the store: what the live picture, the open histories and the connection are kept in. Of the handles the store
keeps, the model has whether they are set. -/
structure AirStore where
  latest : String → Option Reading
  rawHistory : String → Option RawHistory
  connection : ConnectionState
  ready : Bool
  starting : Bool
  stopRealtime : Bool
  pollTimer : Bool
  pollDelay : Bool

/-- A store that has just been set up. -/
def AirStore.init : AirStore where
  latest := fun _ => none
  rawHistory := fun _ => none
  connection := .connecting
  ready := false
  starting := false
  stopRealtime := false
  pollTimer := false
  pollDelay := false

/-! ## Applying data -/

/-- A reading at the end of a history, and what has left its range dropped from the front. -/
def RawHistory.push (history : RawHistory) (reading : Reading) : RawHistory :=
  let cutoff := reading.time - history.hours * hour
  { history with readings := (history.readings ++ [reading]).dropWhile (fun r => decide (r.time < cutoff)) }

/-- The end of `applyReading` on a live reading: it goes on the history of its sensor, if that is open. -/
def AirStore.appendLive (st : AirStore) (reading : Reading) : AirStore :=
  match st.rawHistory reading.sensorId with
  | some history =>
    { st with rawHistory := Function.update st.rawHistory reading.sensorId (some (history.push reading)) }
  | none => st

def AirStore.applyReading (st : AirStore) (reading : Reading) (live : Bool) : AirStore :=
  if (st.latest reading.sensorId).any (fun current => decide (reading.time ≤ current.time)) then st
  else
    let st := { st with latest := Function.update st.latest reading.sensorId (some reading) }
    if live then st.appendLive reading else st

/-- `for (const reading of readings) applyReading(reading, false)`. -/
def AirStore.applyAll (st : AirStore) (readings : List Reading) : AirStore :=
  readings.foldl (fun st reading => st.applyReading reading false) st

/-- `loadReadings` once its answer has come: the answer, then what arrived after it while the request was in flight. -/
def AirStore.loadReadings (st : AirStore) (sensorId : String) (hours : Nat) (readings : List Reading) : AirStore :=
  let last := (readings.getLast?.map (·.time)).getD 0
  let arrived := ((st.rawHistory sensorId).map
    (fun history => history.readings.filter (fun r => decide (last < r.time)))).getD []
  { st with rawHistory := Function.update st.rawHistory sensorId (some { hours, readings := readings ++ arrived }) }

/-! ## The connection -/

def AirStore.stopPolling (st : AirStore) : AirStore := { st with pollDelay := false, pollTimer := false }

/-- `onConnection`: the store, and whether `syncLatest` is called. -/
def AirStore.onConnection (st : AirStore) (connected : Bool) : AirStore × Bool :=
  if connected then
    let wasDown := decide (st.connection ≠ .connecting)
    ({ st.stopPolling with connection := .live }, wasDown)
  else
    let st := if st.connection = .live ∨ st.connection = .connecting then { st with connection := .reconnecting } else st
    if st.pollDelay || st.pollTimer then (st, false) else ({ st with pollDelay := true }, false)

/-- The callback of `pollDelay`: it polls (the call itself is the caller's) and polls on from then. -/
def AirStore.pollDelayFired (st : AirStore) : AirStore := { st with pollDelay := false, pollTimer := true }

/-- A poll whose readings have been applied. -/
def AirStore.pollDone (st : AirStore) : AirStore :=
  if st.connection ≠ .live then { st with connection := .polling } else st

/-- A poll that failed. -/
def AirStore.pollFailed (st : AirStore) : AirStore :=
  if st.connection ≠ .live then { st with connection := .reconnecting } else st

/-- `load` once its answers have come: the readings are applied, the store is ready and subscribes. -/
def AirStore.loaded (st : AirStore) (readings : List Reading) : AirStore :=
  { st.applyAll readings with ready := true, stopRealtime := true }

/-! ## What applying a reading does -/

/-- The store has the reading, or a newer one of its sensor. -/
abbrev AirStore.Has (st : AirStore) (reading : Reading) : Prop :=
  Newest.CaughtUp Reading.sensorId Reading.time st.latest reading

instance (st : AirStore) (reading : Reading) : Decidable (st.Has reading) :=
  decidable_of_iff _ Newest.any_le_iff

/-- A live reading goes on the open history of its sensor, and the other histories stay. -/
theorem appendLive_rawHistory (st : AirStore) (reading : Reading) (sensorId : String) :
    (st.appendLive reading).rawHistory sensorId =
      if sensorId = reading.sensorId then (st.rawHistory sensorId).map (fun history => history.push reading)
      else st.rawHistory sensorId := by
  unfold AirStore.appendLive
  by_cases hs : sensorId = reading.sensorId
  · subst hs
    cases hr : st.rawHistory reading.sensorId <;> simp [hr]
  · cases hr : st.rawHistory reading.sensorId <;> simp [hs]

/-- All but the histories stays. -/
theorem appendLive_eq (st : AirStore) (reading : Reading) :
    st.appendLive reading = { st with rawHistory := (st.appendLive reading).rawHistory } := by
  unfold AirStore.appendLive
  cases st.rawHistory reading.sensorId <;> rfl

/-- A reading the store has, or has a newer one of, changes nothing. -/
theorem applyReading_of_has {st : AirStore} {reading : Reading} (h : st.Has reading) (live : Bool) :
    st.applyReading reading live = st := if_pos (Newest.any_le_iff.2 h)

theorem applyReading_of_not_has {st : AirStore} {reading : Reading} (h : ¬ st.Has reading) (live : Bool) :
    st.applyReading reading live =
      if live then { st with latest := Function.update st.latest reading.sensorId (some reading) }.appendLive reading
      else { st with latest := Function.update st.latest reading.sensorId (some reading) } :=
  if_neg (fun hc => h (Newest.any_le_iff.1 hc))

/-- A reading changes the latest readings and the histories and nothing else. -/
theorem applyReading_eq (st : AirStore) (reading : Reading) (live : Bool) :
    st.applyReading reading live =
      { st with
        latest := Newest.put Reading.sensorId Reading.time st.latest reading
        rawHistory := (st.applyReading reading live).rawHistory } := by
  by_cases h : st.Has reading
  · rw [applyReading_of_has h, Newest.put_of_caughtUp h]
  · rw [applyReading_of_not_has h, Newest.put_of_not_caughtUp h]
    cases live with
    | false => rfl
    | true => exact appendLive_eq _ reading

/-- What a reading does to the histories: a live one the store did not have goes on the open history of its sensor. -/
theorem applyReading_rawHistory (st : AirStore) (reading : Reading) (live : Bool) (sensorId : String) :
    (st.applyReading reading live).rawHistory sensorId =
      if live = true ∧ ¬ st.Has reading ∧ sensorId = reading.sensorId then
        (st.rawHistory sensorId).map (fun history => history.push reading)
      else st.rawHistory sensorId := by
  by_cases h : st.Has reading
  · rw [applyReading_of_has h, if_neg (fun hc => hc.2.1 h)]
  · rw [applyReading_of_not_has h]
    cases live with
    | false => simp
    | true => simp [appendLive_rawHistory, h]

/-- Readings that are not live change the latest readings and nothing else. -/
theorem applyAll_eq (st : AirStore) (readings : List Reading) :
    st.applyAll readings =
      { st with latest := readings.foldl (Newest.put Reading.sensorId Reading.time) st.latest } := by
  unfold AirStore.applyAll
  induction readings generalizing st with
  | nil => rfl
  | cons reading readings ih =>
    have hraw : (st.applyReading reading false).rawHistory = st.rawHistory := by
      funext sensorId
      rw [applyReading_rawHistory, if_neg (fun hc => Bool.false_ne_true hc.1)]
    rw [List.foldl_cons, ih, applyReading_eq, hraw, List.foldl_cons]

end AirQuality
