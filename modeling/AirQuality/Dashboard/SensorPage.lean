import AirQuality.Codec.Text
import AirQuality.Dashboard.Export
import AirQuality.Dashboard.TrendChart
import AirQuality.Lib.Machine

/-!
# The page of a sensor

`apps/dashboard/src/views/SensorView.vue`: the chart of the sensor and the range chosen, with `loadHistory`, and `loadHourly` and
`getHourly` of the store. The reader may go on to another sensor or range before a request has answered, and requests answer in any
order; readings reach the store meanwhile.
-/

namespace AirQuality.Dashboard

/-- `Range` -/
inductive HistoryRange where
  | day | week | month
deriving DecidableEq

/-- `RANGE_HOURS` -/
def HistoryRange.hours : HistoryRange → Nat
  | .day => 24
  | .week => 168
  | .month => 720

/-- `RANGE_HOURS[range.value] / 24` -/
def HistoryRange.days (range : HistoryRange) : Nat := range.hours / 24

/-- `METRICS[id].value` -/
def MetricId.value : MetricId → Reading → ℚ
  | .aqi, r => r.aqi
  | .pm25, r => r.pm25
  | .pm10, r => r.pm10
  | .temperature, r => r.temperature
  | .humidity, r => r.humidity

/-- `METRICS[id].hourly` -/
def MetricId.hourly : MetricId → HourlyPoint → ℚ
  | .aqi, h => particlesToAqi h.pm25 h.pm10
  | .pm25, h => h.pm25
  | .pm10, h => h.pm10
  | .temperature, h => h.temperature
  | .humidity, h => h.humidity

/-- `hourlyKey` -/
def hourlyKey (sensorId : String) (days : Nat) : String := sensorId ++ ":" ++ toString days

/-- A call of `loadHistory`: `request`, and what it asks for. -/
structure HistoryRequest where
  number : Nat
  sensorId : String
  range : HistoryRange
deriving DecidableEq

inductive HistoryAnswer where
  | readings (readings : List Reading)
  | hourly (points : List HourlyPoint)
deriving DecidableEq

/-- A request that is over, with its answer if it has one. -/
structure HistorySettled where
  request : HistoryRequest
  answer : Option HistoryAnswer
deriving DecidableEq

structure SensorPage where
  sensorId : String
  range : HistoryRange
  store : AirStore
  /-- `hourlyHistory` of the store. -/
  hourlyHistory : String → Option (List HourlyPoint)
  historyRequest : Nat
  historyLoading : Bool
  pending : List HistoryRequest

inductive SensorPageEvent where
  /-- The route names a sensor, and a range is chosen. -/
  | goTo (id : String) (range : HistoryRange)
  | answered (number : Nat) (answer : HistoryAnswer)
  | failed (number : Nat)
  | live (reading : Reading)
  | polled (reading : Reading)
deriving DecidableEq

namespace SensorPage

/-- `loadHistory`, up to its `await`. -/
def loadHistory (s : SensorPage) : SensorPage :=
  { s with
    historyRequest := s.historyRequest + 1
    historyLoading := true
    pending := s.pending ++ [⟨s.historyRequest + 1, s.sensorId, s.range⟩] }

variable (unicodeLower : String → String)

/-- The page of a sensor opens. -/
def init (id : String) : SensorPage :=
  loadHistory ⟨toLowerCase unicodeLower id, .day, AirStore.init, fun _ => none, 0, false, []⟩

/-- The `finally` of `loadHistory`. -/
def settle (s : SensorPage) (q : HistoryRequest) : SensorPage :=
  { s with
    historyLoading := if q.number = s.historyRequest then false else s.historyLoading
    pending := s.pending.filter (fun p => decide (p.number ≠ q.number)) }

/-- What the store does with an answer, of the request that asks for such a one. -/
def answered (s : SensorPage) (q : HistoryRequest) : HistoryAnswer → Option SensorPage
  | .readings readings =>
    if q.range = .day then some { s with store := s.store.loadReadings q.sensorId q.range.hours readings } else none
  | .hourly points =>
    if q.range = .day then none
    else some { s with hourlyHistory := Function.update s.hourlyHistory (hourlyKey q.sensorId q.range.days) (some points) }

def step (s : SensorPage) : SensorPageEvent → SensorPage × Option HistorySettled
  | .goTo id range =>
    let sensorId := toLowerCase unicodeLower id
    if sensorId = s.sensorId ∧ range = s.range then (s, none) else ({ s with sensorId, range }.loadHistory, none)
  | .answered number answer =>
    match s.pending.find? (fun q => decide (q.number = number)) with
    | some q =>
      match s.answered q answer with
      | some s' => (s'.settle q, some ⟨q, some answer⟩)
      | none => (s, none)
    | none => (s, none)
  | .failed number =>
    match s.pending.find? (fun q => decide (q.number = number)) with
    | some q => (s.settle q, some ⟨q, none⟩)
    | none => (s, none)
  | .live reading => ({ s with store := s.store.applyReading reading true }, none)
  | .polled reading => ({ s with store := s.store.applyReading reading false }, none)

/-- `points` -/
def points (s : SensorPage) (metric : MetricId) : List (Int × ℚ) :=
  if s.range = .day then
    (((s.store.rawHistory s.sensorId).map RawHistory.readings).getD []).map (fun r => (r.time, metric.value r))
  else ((s.hourlyHistory (hourlyKey s.sensorId s.range.days)).getD []).map (fun p => (p.time, metric.hourly p))

end SensorPage

def sensorPageMachine (unicodeLower : String → String) : Machine SensorPage SensorPageEvent (Option HistorySettled) :=
  ⟨SensorPage.step unicodeLower⟩

end AirQuality.Dashboard
