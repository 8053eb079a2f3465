import AirQuality.Api.Registry
import AirQuality.Ingestion.Service
import Mathlib.Data.List.Sort

/-!
# What the API reads

The continuous aggregate `readings_hourly` (`packages/db/migrations/telemetry/0001_timescale_hypertable.sql`), and the reads that
join the registry with it or with the latest readings: `findUnregistered` of `apps/api/src/sensors/sensors.service.ts`, `latestAll`
of the sensors controller and `history` of the two controllers. Times are in milliseconds of the epoch.
-/

namespace AirQuality

/-! ## The hourly view -/

/-- `time_bucket(INTERVAL '1 hour', time)` -/
def timeBucket (time : ℤ) : ℤ := time / 3600000 * 3600000

/-- A row of `readings_hourly`. -/
structure HourlyBucket where
  sensorId : String
  bucket : ℤ
  avgPm25 : ℚ
  avgPm10 : ℚ
  avgTemperature : ℚ
  avgHumidity : ℚ
  maxAqi : ℤ
  sampleCount : Nat
deriving DecidableEq

/-- `avg` -/
def avg (values : List ℚ) : ℚ := values.sum / values.length

/-- `max` -/
def maxOf (values : List ℤ) : ℤ := values.max?.getD 0

/-- The columns the view groups by. -/
def hourKey (p : ReadingPayload) : String × ℤ := (p.reading.deviceId, timeBucket p.reading.timestamp)

/-- `readings_hourly`, up to date. -/
def readingsHourly (readings : List ReadingPayload) : List HourlyBucket :=
  (Table.groupBy hourKey readings).map (fun (k, rows) =>
    { sensorId := k.1
      bucket := k.2
      avgPm25 := avg (rows.map (·.reading.pm25))
      avgPm10 := avg (rows.map (·.reading.pm10))
      avgTemperature := avg (rows.map (·.reading.temperature))
      avgHumidity := avg (rows.map (·.reading.humidity))
      maxAqi := maxOf (rows.map (·.aqi))
      sampleCount := rows.length })

/-- `INTERVAL '1 day'` -/
def dayMs : ℤ := 86400000

section

variable (unicodeLower sqlUnicodeLower : String → String)

/-- `LOWER` of SQL: on a text of ASCII its letters, on any other what the collation says. -/
def sqlLower (s : String) : String :=
  if s.toList.all (fun c => decide (c.toNat < 128)) = true then asciiLower s else sqlUnicodeLower s

/-! ## Devices that are not registered -/

/-- `UnregisteredDevice` -/
structure UnregisteredDevice where
  deviceId : String
  lastSeen : ℤ
  readingCount : Nat
deriving DecidableEq

/-- The rows of the view that the query of `findUnregistered` groups. -/
def unregisteredScope (rows : List SensorRow) (hourly : List HourlyBucket) (now : ℤ) : List HourlyBucket :=
  let registeredIds := rows.map (fun r => toLowerCase unicodeLower r.deviceId)
  hourly.filter (fun b => decide (now - 7 * dayMs ≤ b.bucket ∧ sqlLower sqlUnicodeLower b.sensorId ∉ registeredIds))

/-- `findUnregistered`: the devices of those rows, the 100 seen last. -/
def findUnregistered (rows : List SensorRow) (hourly : List HourlyBucket) (now : ℤ) : List UnregisteredDevice :=
  (((Table.groupBy HourlyBucket.sensorId (unregisteredScope unicodeLower sqlUnicodeLower rows hourly now)).map
    (fun (deviceId, bs) =>
      { deviceId
        lastSeen := maxOf (bs.map HourlyBucket.bucket)
        readingCount := (bs.map HourlyBucket.sampleCount).sum : UnregisteredDevice })).insertionSort
    (fun a b => b.lastSeen ≤ a.lastSeen)).take 100

/-! ## The latest readings -/

/-- `latestAll`: what the cache has for the DevEUIs of the active sensors. -/
def latestAll (rows : List SensorRow) (latest : String → Option ReadingPayload) : List ReadingPayload :=
  (findActiveDeviceIds rows).filterMap latest

/-! ## The history of the network -/

/-- `.replace(/[^\p{L}\p{N}]+/gu, '-')`: each run of other characters becomes one dash. `inRun` says whether the character before
was one. -/
def dashRuns (isWord : Char → Bool) : Bool → List Char → List Char
  | _, [] => []
  | inRun, c :: cs =>
    if isWord c then c :: dashRuns isWord false cs
    else if inRun then dashRuns isWord true cs
    else '-' :: dashRuns isWord true cs

/-- `.replace(/^-|-$/g, '')` -/
def stripDashes (cs : List Char) : List Char :=
  let front := match cs with
    | '-' :: rest => rest
    | _ => cs
  match front.reverse with
  | '-' :: rest => rest.reverse
  | _ => front

/-- `placeKey`; which characters are letters and numbers is a parameter. -/
def placeKey (isWord : Char → Bool) (name : String) : String :=
  String.ofList (stripDashes (dashRuns isWord false (toLowerCase unicodeLower (trim name)).toList))

/-- `windowDays`, of the number that `days` reads as, if it does. -/
def windowDays (days : Option ℤ) : ℤ := min (max (if days.getD 0 = 0 then 7 else days.getD 0) 1) 90

/-- `history` of the sensors controller: the rows of the view of one sensor, the earliest first. -/
def sensorHistory (hourly : List HourlyBucket) (deviceId : String) (now : ℤ) (days : Option ℤ) : List HourlyBucket :=
  (hourly.filter (fun b => decide (b.sensorId = deviceId ∧ now - windowDays days * dayMs ≤ b.bucket))).insertionSort
    (fun a b => a.bucket ≤ b.bucket)

/-- The DevEUIs in the scope of `history`. -/
def historyDeviceIds (isWord : Char → Bool) (rows : List SensorRow) (neighborhood : Option String) : List String :=
  match neighborhood with
  | none | some "" => overviewDeviceIds rows
  | some name =>
    deviceIds ((rows.filter (fun r => r.isActive)).filter (fun r =>
      (r.neighborhood.filter (· ≠ "")).any
        (fun place => placeKey unicodeLower isWord place == placeKey unicodeLower isWord name)))

/-- The rows of the view that the query of `history` groups. -/
def historyScope (isWord : Char → Bool) (rows : List SensorRow) (hourly : List HourlyBucket) (now : ℤ) (days : Option ℤ)
    (neighborhood : Option String) : List HourlyBucket :=
  hourly.filter (fun b => decide (now - windowDays days * dayMs ≤ b.bucket ∧
    b.sensorId ∈ historyDeviceIds unicodeLower isWord rows neighborhood))

/-- `NetworkHourlyBucket` -/
structure NetworkHourlyBucket where
  bucket : ℤ
  avgPm25 : ℚ
  avgPm10 : ℚ
  avgTemperature : ℚ
  avgHumidity : ℚ
  maxAqi : ℤ
  sensorCount : Nat
  sampleCount : Nat
deriving DecidableEq

/-- `history`: the rows in scope by their hour, the earliest first. -/
def history (isWord : Char → Bool) (rows : List SensorRow) (hourly : List HourlyBucket) (now : ℤ) (days : Option ℤ)
    (neighborhood : Option String) : List NetworkHourlyBucket :=
  ((Table.groupBy HourlyBucket.bucket (historyScope unicodeLower isWord rows hourly now days neighborhood)).map
    (fun (bucket, bs) =>
      { bucket
        avgPm25 := avg (bs.map (·.avgPm25))
        avgPm10 := avg (bs.map (·.avgPm10))
        avgTemperature := avg (bs.map (·.avgTemperature))
        avgHumidity := avg (bs.map (·.avgHumidity))
        maxAqi := maxOf (bs.map (·.maxAqi))
        sensorCount := bs.length
        sampleCount := (bs.map (·.sampleCount)).sum : NetworkHourlyBucket })).insertionSort
    (fun a b => a.bucket ≤ b.bucket)

end

end AirQuality
