import AirQuality.Dashboard.Stats

/-!
# The export

`apps/dashboard/src/lib/export.ts` and `download` of `views/DataView.vue`: the rows made of readings and of hourly points, and the
CSV text made of rows. A row is the list of its properties in the order they were set. How the language prints numbers and dates is
a parameter.
-/

namespace AirQuality.Dashboard

/-- One hour-bucketed aggregate for a sensor. -/
structure HourlyPoint where
  sensorId : String
  /-- Epoch milliseconds of the start of the hour. -/
  time : Int
  pm25 : ℚ
  pm10 : ℚ
  temperature : ℚ
  humidity : ℚ
  maxAqi : ℚ
  samples : ℚ
deriving DecidableEq

/-- `String` of a number, and `toISOString` of a date. -/
structure JsText where
  ofNumber : ℚ → String
  toISOString : Int → String

inductive ExportValue where
  | text (s : String)
  | number (x : ℚ)
deriving DecidableEq

abbrev ExportRow := List (String × ExportValue)

/-- `String(value)` -/
def ExportValue.string (js : JsText) : ExportValue → String
  | .text s => s
  | .number x => js.ofNumber x

/-- `value ?? ''` -/
def numberOrEmpty (value : Option ℚ) : ExportValue := (value.map ExportValue.number).getD (.text "")

/-- `Object.keys` -/
def ExportRow.keys (row : ExportRow) : List String := row.map Prod.fst

/-- `row[h] ?? ''` -/
def ExportRow.get (row : ExportRow) (h : String) : ExportValue := (row.lookup h).getD (.text "")

def sensorColumns (sensor : Sensor) : ExportRow :=
  [("device_id", .text sensor.id),
    ("sensor", .text sensor.name),
    ("neighborhood", .text (sensor.neighborhood.getD "")),
    ("latitude", .number sensor.latitude),
    ("longitude", .number sensor.longitude)]

def readingRows (js : JsText) (sensor : Sensor) (readings : List Reading) : List ExportRow :=
  readings.map fun r => sensorColumns sensor ++
    [("time", .text (js.toISOString r.time)),
      ("aqi", .number r.aqi),
      ("pm25_ugm3", .number r.pm25),
      ("pm10_ugm3", .number r.pm10),
      ("temperature_c", .number r.temperature),
      ("humidity_percent", .number r.humidity),
      ("pressure_hpa", numberOrEmpty r.pressure),
      ("battery_mv", numberOrEmpty r.batteryMv),
      ("signal_dbm", numberOrEmpty r.signalStrength)]

def hourlyRows (js : JsText) (sensor : Sensor) (points : List HourlyPoint) : List ExportRow :=
  points.map fun p => sensorColumns sensor ++
    [("hour_start", .text (js.toISOString p.time)),
      ("avg_pm25_ugm3", .number p.pm25),
      ("avg_pm10_ugm3", .number p.pm10),
      ("avg_temperature_c", .number p.temperature),
      ("avg_humidity_percent", .number p.humidity),
      ("max_aqi", .number p.maxAqi),
      ("samples", .number p.samples)]

/-- What `download` fetches for a sensor: its readings of the last 24 hours, or its hourly points. -/
inductive Fetched where
  | readings (rs : List Reading)
  | hourly (ps : List HourlyPoint)

/-- The rows `download` makes for a sensor. -/
def Fetched.rows (js : JsText) (sensor : Sensor) : Fetched → List ExportRow
  | .readings rs => readingRows js sensor rs
  | .hourly ps => hourlyRows js sensor ps

/-- `perSensor.flat()` -/
def downloadRows (js : JsText) (perSensor : List (Sensor × Fetched)) : List ExportRow :=
  perSensor.flatMap fun p => p.2.rows js p.1

/-- `text.replace(/"/g, '""')` -/
def doubledQuotes (text : String) : String :=
  String.ofList (text.toList.flatMap fun c => if c = '"' then ['"', '"'] else [c])

/-- RFC 4180: quote a field that holds a comma, a quote or a line break. -/
def csvField (js : JsText) (value : ExportValue) : String :=
  let text := value.string js
  if text.toList.any (fun c => decide (c = '"' ∨ c = ',' ∨ c = '\r' ∨ c = '\n')) then "\"" ++ doubledQuotes text ++ "\"" else text

def toCsv (js : JsText) : List ExportRow → String
  | [] => ""
  | first :: rest =>
    let headers := first.keys
    let lines := (first :: rest).map fun row => ",".intercalate (headers.map fun h => csvField js (row.get h))
    "\r\n".intercalate (",".intercalate headers :: lines)

end AirQuality.Dashboard
