import AirQuality.Api.Responses
import AirQuality.Dashboard.Stats

/-!
# The live backend as the dashboard sees it

`apps/dashboard/src/services/http-sensor-service.ts`: the mapping of sensors and readings of the API into those of the views, with
`slugify` of `lib/format.ts`. How `Date` parses a text, the Arabic names of `lib/places.ts` and the Unicode tables are parameters.
-/

namespace AirQuality.Dashboard

/-- A property of a JSON object. -/
inductive Field (α : Type) where
  | absent
  | null
  | value (a : α)
deriving DecidableEq

/-- `?? undefined` -/
def Field.toOption {α : Type} : Field α → Option α
  | .absent => none
  | .null => none
  | .value a => some a

/-- An optional value as a property that is left out. -/
def Field.ofOptional {α : Type} : Option α → Field α
  | none => .absent
  | some a => .value a

/-- An optional value as a property that may be null. -/
def Field.ofNullable {α : Type} : Option α → Field α
  | none => .null
  | some a => .value a

@[simp] theorem toOption_absent {α : Type} : (Field.absent : Field α).toOption = none := rfl

@[simp] theorem toOption_value {α : Type} (a : α) : (Field.value a).toOption = some a := rfl

/-- Left out or null, an optional property that has no value reads the same. -/
@[simp] theorem toOption_ofOptional {α : Type} (a : Option α) : (Field.ofOptional a).toOption = a := by cases a <;> rfl

@[simp] theorem toOption_ofNullable {α : Type} (a : Option α) : (Field.ofNullable a).toOption = a := by cases a <;> rfl

/-- `ApiSensor`: what the dashboard reads of a sensor of the API. -/
structure ApiSensor where
  id : String
  deviceId : String
  name : String
  latitude : ℚ
  longitude : ℚ
  neighborhood : Field String
  isActive : Bool
  installDate : Field String
deriving DecidableEq

/-- `ApiReading`: what the dashboard reads of a reading of the API. Raw rows carry `time`, cached and live readings carry
`timestamp`. -/
structure ApiReading where
  time : Field String
  timestamp : Field String
  sensorId : Field String
  deviceId : Field String
  pm25 : ℚ
  pm10 : ℚ
  temperature : ℚ
  humidity : ℚ
  pressure : Field ℚ
  aqi : ℚ
  batteryMv : Field ℚ
  signalStrength : Field ℚ
deriving DecidableEq

/-! ## The objects the API sends -/

/-- An object of `GET /sensors` (`toSensorResponse`). It has no `installDate`. -/
def sensorObject (r : AirQuality.SensorRow) : ApiSensor where
  id := r.id
  deviceId := r.deviceId
  name := r.name
  latitude := r.latitude
  longitude := r.longitude
  neighborhood := .ofOptional r.neighborhood
  isActive := r.isActive
  installDate := .absent

/-- An object of `GET /sensors/:deviceId/readings`. -/
def rowObject (r : ReadingRow) : ApiReading where
  time := .value r.time
  timestamp := .absent
  sensorId := .value r.sensorId
  deviceId := .absent
  pm25 := r.pm25
  pm10 := r.pm10
  temperature := r.temperature
  humidity := r.humidity
  pressure := .ofNullable r.pressure
  aqi := r.aqi
  batteryMv := .ofNullable r.batteryMv
  signalStrength := .ofNullable r.signalStrength

/-- An object of `GET /sensors/latest`, or of an event. -/
def responseObject (r : ReadingResponse) : ApiReading where
  time := .absent
  timestamp := .value r.timestamp
  sensorId := .value r.sensorId
  deviceId := .value r.deviceId
  pm25 := r.pm25
  pm10 := r.pm10
  temperature := r.temperature
  humidity := r.humidity
  pressure := .ofOptional r.pressure
  aqi := r.aqi
  batteryMv := .ofOptional r.batteryMv
  signalStrength := .ofOptional r.signalStrength

/-! ## Mapping -/

section

variable (unicodeLower : String → String)

/-- `key`: device identifiers are compared whatever their case. -/
def key (deviceId : String) : String := toLowerCase unicodeLower deviceId

/-- `slugify`: URL-safe key for a free-text place name. -/
def slugify (isWord : Char → Bool) (text : String) : String :=
  let slug := String.ofList (stripDashes (dashRuns isWord false (toLowerCase unicodeLower (trim text)).toList))
  if slug = "" then "unassigned" else slug

def toSensor (isWord : Char → Bool) (arabicPlaceName : String → Option String) (s : ApiSensor) : Sensor :=
  -- `?.trim() || null`
  let neighborhood := (s.neighborhood.toOption.map trim).filter (fun name => decide (name ≠ ""))
  { id := key unicodeLower s.deviceId
    name := s.name
    nameAr := none
    neighborhood
    neighborhoodAr := neighborhood.bind arabicPlaceName
    neighborhoodId := slugify unicodeLower isWord (neighborhood.getD "")
    latitude := s.latitude
    longitude := s.longitude
    isActive := s.isActive
    installDate := s.installDate.toOption }

/-- `toReading`: `none` for a reading with no usable time or sensor. -/
def toReading (dateParse : String → Option ℤ) (r : ApiReading) : Option Reading :=
  let sensorId := (r.sensorId.toOption.or r.deviceId.toOption).filter (fun id => decide (id ≠ ""))
  let time := dateParse ((r.time.toOption.or r.timestamp.toOption).getD "")
  sensorId.bind (fun sensorId => time.map (fun time =>
    { sensorId := key unicodeLower sensorId
      time
      pm25 := r.pm25
      pm10 := r.pm10
      temperature := r.temperature
      humidity := r.humidity
      pressure := r.pressure.toOption
      aqi := r.aqi
      batteryMv := r.batteryMv.toOption
      signalStrength := r.signalStrength.toOption }))

/-! ## Requests -/

/-- `getSensors`, of an API with these rows. -/
def getSensors (isWord : Char → Bool) (arabicPlaceName : String → Option String) (rows : List AirQuality.SensorRow) :
    List Sensor :=
  (rows.map sensorObject).map (toSensor unicodeLower isWord arabicPlaceName)

/-- `getLatest`, of an API with these rows and this cache. -/
def getLatest (dateParse : String → Option ℤ) (rows : List AirQuality.SensorRow)
    (cache : String → Option ReadingResponse) : List Reading :=
  ((latestResponses rows cache).map responseObject).filterMap (toReading unicodeLower dateParse)

/-- `getReadings`: the API returns the newest first, the dashboard wants them in order of time. -/
def getReadings (dateParse : String → Option ℤ) (answer : List ReadingRow) : List Reading :=
  ((answer.map rowObject).filterMap (toReading unicodeLower dateParse)).reverse

/-! ## Rows of the registry -/

/-- The rows of the store, one for each row of the registry. -/
theorem rows_getSensors (isWord : Char → Bool) (arabicPlaceName : String → Option String)
    (l : List AirQuality.SensorRow) (latest : String → Option Reading) (now : ℚ) :
    rows (getSensors unicodeLower isWord arabicPlaceName l) latest now =
      l.map (fun r =>
        let sensor := toSensor unicodeLower isWord arabicPlaceName (sensorObject r)
        ⟨sensor, latest sensor.id, sensorStatus sensor (latest sensor.id) now⟩) := by
  simp [rows, getSensors, Function.comp_def]

end

end AirQuality.Dashboard

namespace AirQuality

open Dashboard

/-! ## Readings of the API -/

/-- The reading the views have of a payload. -/
def ReadingPayload.shown (unicodeLower : String → String) (p : ReadingPayload) : Reading where
  sensorId := key unicodeLower p.reading.deviceId
  time := p.reading.timestamp
  pm25 := p.reading.pm25
  pm10 := p.reading.pm10
  temperature := p.reading.temperature
  humidity := p.reading.humidity
  pressure := some p.reading.pressure
  aqi := p.aqi
  batteryMv := some p.reading.batteryMv
  signalStrength := p.reading.signalStrength.map (fun s => (s : ℚ))

section

variable {unicodeLower : String → String} {dateParse : String → Option ℤ} {toISOString : ℤ → String} {p : ReadingPayload}

theorem toReading_row (hid : p.reading.deviceId ≠ "")
    (hdate : dateParse (toISOString p.reading.timestamp) = some p.reading.timestamp) :
    toReading unicodeLower dateParse (rowObject (p.row toISOString)) = some (p.shown unicodeLower) := by
  simp [toReading, rowObject, ReadingPayload.row, ReadingPayload.shown, Option.filter, hid, hdate]

theorem toReading_response (hid : p.reading.deviceId ≠ "")
    (hdate : dateParse (toISOString p.reading.timestamp) = some p.reading.timestamp) :
    toReading unicodeLower dateParse (responseObject (p.response toISOString)) = some (p.shown unicodeLower) := by
  simp [toReading, responseObject, ReadingPayload.response, ReadingPayload.shown, Option.filter, hid, hdate]

end

end AirQuality
