import AirQuality.Api.Reads

/-!
# What the API sends

The JSON of readings, by the three ways they leave the server: the rows of `GET /sensors/:deviceId/readings`, the cached entries of
`GET /sensors/latest`, and the events that `RealtimeGateway` relays. Then `GET /sensors` and `GET /overview`. Inside the server times
are in milliseconds of the epoch; what `toISOString` makes of one and how `Date` parses a text are parameters.
-/

namespace AirQuality

/-! ## Readings -/

/-- `ReadingResponse`: the payload of an event, and an entry of the cache. An optional field is left out. -/
structure ReadingResponse where
  deviceId : String
  timestamp : String
  pm25 : ℚ
  pm10 : ℚ
  temperature : ℚ
  humidity : ℚ
  pressure : Option ℚ
  batteryMv : Option ℚ
  signalStrength : Option ℚ
  id : String
  sensorId : String
  aqi : ℚ
  aqiCategory : String
deriving DecidableEq

/-- A row of `readings`, as a SELECT returns it. A column without a value is null. -/
structure ReadingRow where
  time : String
  sensorId : String
  pm25 : ℚ
  pm10 : ℚ
  temperature : ℚ
  humidity : ℚ
  pressure : Option ℚ
  aqi : ℚ
  aqiCategory : Option String
  batteryMv : Option ℚ
  signalStrength : Option ℚ
deriving DecidableEq

/-- The text of a category. -/
def AqiCategory.text : AqiCategory → String
  | .good => "good"
  | .moderate => "moderate"
  | .unhealthySensitive => "unhealthy-sensitive"
  | .unhealthy => "unhealthy"
  | .veryUnhealthy => "very-unhealthy"
  | .hazardous => "hazardous"

section

variable (toISOString : ℤ → String)

/-- `event.payload` as `JSON.stringify` writes it. -/
def ReadingPayload.response (p : ReadingPayload) : ReadingResponse where
  deviceId := p.reading.deviceId
  timestamp := toISOString p.reading.timestamp
  pm25 := p.reading.pm25
  pm10 := p.reading.pm10
  temperature := p.reading.temperature
  humidity := p.reading.humidity
  pressure := some p.reading.pressure
  batteryMv := some p.reading.batteryMv
  signalStrength := p.reading.signalStrength.map (fun s => s)
  id := p.reading.deviceId ++ ":" ++ toISOString p.reading.timestamp
  sensorId := p.reading.deviceId
  aqi := p.aqi
  aqiCategory := p.aqiCategory.text

/-- The row that was inserted for a reading. -/
def ReadingPayload.row (p : ReadingPayload) : ReadingRow where
  time := toISOString p.reading.timestamp
  sensorId := p.reading.deviceId
  pm25 := p.reading.pm25
  pm10 := p.reading.pm10
  temperature := p.reading.temperature
  humidity := p.reading.humidity
  pressure := some p.reading.pressure
  aqi := p.aqi
  aqiCategory := some p.aqiCategory.text
  batteryMv := some p.reading.batteryMv
  signalStrength := p.reading.signalStrength.map (fun s => s)

/-- The window of `GET /sensors/:deviceId/readings`, of the number that `hours` reads as, if it does. -/
def windowHours (hours : Option ℤ) : ℤ := min (max (if hours.getD 0 = 0 then 24 else hours.getD 0) 1) 72

/-- `GET /sensors/:deviceId/readings`: the readings of the device in the window, the newest first. -/
def sensorReadings (readings : List ReadingPayload) (deviceId : String) (hours : Option ℤ) (now : ℤ) : List ReadingRow :=
  (((readings.filter (fun p => decide (p.reading.deviceId = deviceId ∧
    now - windowHours hours * 3600000 ≤ p.reading.timestamp))).insertionSort
      (fun a b => b.reading.timestamp ≤ a.reading.timestamp)).take 5000).map (ReadingPayload.row toISOString)

end

/-- `GET /sensors/latest`, from the entries of the cache. -/
def latestResponses (rows : List SensorRow) (cache : String → Option ReadingResponse) : List ReadingResponse :=
  (findActiveDeviceIds rows).filterMap cache

/-- `AppEvent` -/
inductive AppEvent where
  | readingCreated (payload : ReadingResponse)
  | deviceStatus (deviceId : String) (online : Bool) (lastSeenAt : String)
deriving DecidableEq

/-- The handler of `RealtimeGateway`: what it emits as `reading` for a message, `none` being one that does not parse. -/
def relay : Option AppEvent → Option ReadingResponse
  | some (.readingCreated payload) => some payload
  | some (.deviceStatus _ _ _) => none
  | none => none

/-! ## The overview -/

/-- `ONLINE_WINDOW_MS` of the overview. -/
def overviewWindowMs : ℤ := 15 * 60 * 1000

/-- `NetworkOverview`; `updatedAt` is a time. -/
structure NetworkOverview where
  sensorsTotal : Nat
  sensorsOnline : Nat
  readingsLastHour : Nat
  avgAqi : Option ℤ
  maxAqi : Option ℚ
  byCategory : List (String × Nat)
  updatedAt : ℤ
deriving DecidableEq

/-- The readings of the cache that `overview` counts as online. -/
def onlineResponses (dateParse : String → Option ℤ) (rows : List SensorRow) (cache : String → Option ReadingResponse)
    (now : ℤ) : List ReadingResponse :=
  ((overviewDeviceIds rows).filterMap cache).filter (fun r =>
    (dateParse r.timestamp).any (fun time => decide (now - time < overviewWindowMs)))

/-- `overview` -/
def overview (dateParse : String → Option ℤ) (rows : List SensorRow) (cache : String → Option ReadingResponse)
    (readings : List ReadingPayload) (now : ℤ) : NetworkOverview :=
  let online := onlineResponses dateParse rows cache now
  let aqis : List ℚ := online.map (·.aqi)
  { sensorsTotal := (overviewDeviceIds rows).length
    sensorsOnline := online.length
    readingsLastHour := (readings.filter (fun p => decide (now - 60 * 60 * 1000 ≤ p.reading.timestamp))).length
    avgAqi := if aqis = [] then none else some (round (aqis.sum / aqis.length))
    maxAqi := aqis.max?
    byCategory := (Table.collect (·.aqiCategory) online).map (fun g => (g.1, g.2.length))
    updatedAt := now }

/-- A row of a sensor of a neighbourhood. -/
def registeredSensor (deviceId : String) (neighborhood : Option String) (status : SensorStatus) : SensorRow where
  id := deviceId
  deviceId := deviceId
  name := deviceId
  description := none
  latitude := 0
  longitude := 0
  neighborhood := neighborhood
  status := status
  isActive := status == .active
  installedAt := none
  isSimulated := false
  lastSeenAt := none
  batteryMv := none
  createdAt := 0
  updatedAt := 0

end AirQuality
