import AirQuality.Codec.Base64
import AirQuality.Codec.Report
import AirQuality.Codec.Uplink
import AirQuality.Domain.Aqi

/-!
# What ingestion makes of an uplink

The part of `handleUplink` (`services/ingestion/src/ingestion/ingestion.service.ts`) that runs before its first `await`, with
the contracts it checks (`packages/contracts/src`): routing by port, decoding, the presence gate, the AQI and the reading schema.
A time is a number of milliseconds since the epoch, as `Date` has it; how `Date` parses a text is a parameter.
-/

namespace AirQuality

/-- An entry of `rxInfo`, as far as ingestion reads it. -/
structure RxInfo where
  rssi : Option ℚ
deriving DecidableEq

/-- A ChirpStack uplink that `ChirpStackUplinkSchema` accepts, as far as ingestion reads it. -/
structure ChirpStackUplink where
  devEui : String
  fPort : Option ℤ
  /-- base64-encoded frmPayload -/
  data : String
  time : Option String
  rxInfo : Option (List RxInfo)
deriving DecidableEq

/-- `SensorReading`: a single decoded sensor measurement. -/
structure SensorReading where
  deviceId : String
  timestamp : ℤ
  pm25 : ℚ
  pm10 : ℚ
  temperature : ℚ
  humidity : ℚ
  pressure : ℚ
  batteryMv : ℚ
  signalStrength : Option ℤ
deriving DecidableEq

/-- The times whose ISO text `z.iso.datetime()` accepts: the years 0 to 9999. -/
def isoDatetimeOk (timestamp : ℤ) : Bool := decide (-62167219200000 ≤ timestamp ∧ timestamp ≤ 253402300799999)

/-- `z.number().int()`: a safe integer. -/
def safeIntOk (q : ℚ) : Bool := q.den == 1 && decide (|q| ≤ 9007199254740991)

/-- `SensorReadingSchema.parse` -/
def sensorReadingOk (r : SensorReading) : Bool :=
  r.deviceId ≠ "" && isoDatetimeOk r.timestamp &&
  decide (0 ≤ r.pm25 ∧ r.pm25 ≤ 65535 / 10) &&
  decide (0 ≤ r.pm10 ∧ r.pm10 ≤ 65535 / 10) &&
  decide (-40 ≤ r.temperature ∧ r.temperature ≤ 85) &&
  decide (0 ≤ r.humidity ∧ r.humidity ≤ 100) &&
  decide (300 ≤ r.pressure ∧ r.pressure ≤ 1100) &&
  safeIntOk r.batteryMv &&
  r.signalStrength.all (fun s => safeIntOk s)

/-- `event.payload`: a reading with its id, `deviceId:timestamp`, and its AQI. A row of `readings` has the same fields. -/
structure ReadingPayload where
  reading : SensorReading
  aqi : ℤ
  aqiCategory : AqiCategory
deriving DecidableEq

/-- The key of a reading: `sensorId` and `time`, the primary key of `readings` and the id of the event. -/
def ReadingPayload.id (p : ReadingPayload) : String × ℤ := (p.reading.deviceId, p.reading.timestamp)

/-- The settings cached for a device. -/
structure DeviceConfig where
  deviceId : String
  intervalS : ℤ
  pmOffset : ℚ
  temperatureOffset : ℚ
  lastCommand : UInt8
  lastResult : ConfigResult
  reportedAt : ℤ
deriving DecidableEq

/-- The `reason` of `readings_dropped`. -/
inductive DropReason where
  | noSensors
  | incompleteSensors
  | error
deriving DecidableEq

/-- Where the part of `handleUplink` before the first `await` ends. -/
inductive Handled where
  /-- It inserts this reading. -/
  | reading (p : ReadingPayload)
  /-- It caches this config. -/
  | config (c : DeviceConfig)
  /-- Not a telemetry uplink. -/
  | ignored
  | dropped (reason : DropReason)
deriving DecidableEq

section

variable (dateParse : String → Option ℤ) (now : ℤ)

/-- The time of an uplink: that of ChirpStack, or the current time if it is absent, empty or unparseable. -/
def uplinkTime : Option String → ℤ
  | none => now
  | some time => if time = "" then now else (dateParse time).getD now

/-- The reading of a decoded payload, before the schema has checked it. -/
def readingOf (uplink : ChirpStackUplink) (decoded : DecodedPayload) : SensorReading where
  deviceId := uplink.devEui
  timestamp := uplinkTime dateParse now uplink.time
  pm25 := decoded.pm25
  pm10 := decoded.pm10
  temperature := decoded.temperature
  humidity := decoded.humidity
  pressure := decoded.pressure
  batteryMv := decoded.batteryMv
  signalStrength := ((uplink.rxInfo.bind List.head?).bind RxInfo.rssi).map round

/-- Steps 2 and 3 of `handleUplink`: what becomes of a telemetry uplink. -/
def handleTelemetry (uplink : ChirpStackUplink) : Handled :=
  match decodeUplink (bufferFromBase64 uplink.data) with
  | .error _ => .dropped .error
  | .ok decoded =>
    let present := decoded.sensorsPresent.getD ⟨false, false⟩
    if present.pm = false ∧ present.env = false then .dropped .noSensors
    else if present.pm = false ∨ present.env = false then .dropped .incompleteSensors
    else
      let aqi := calculateAqi decoded.pm25 decoded.pm10
      let reading := readingOf dateParse now uplink decoded
      if sensorReadingOk reading = true then .reading ⟨reading, aqi.aqi, aqi.category⟩ else .dropped .error

/-- `handleConfigReport`, up to its `await`. -/
def handleConfigReport (uplink : ChirpStackUplink) : Handled :=
  match decodeConfigReport (bufferFromBase64 uplink.data) with
  | .error _ => .dropped .error
  | .ok report => .config {
      deviceId := uplink.devEui
      intervalS := report.intervalS
      pmOffset := report.pmOffsetX10 / 10
      temperatureOffset := report.tempOffsetX100 / 100
      lastCommand := report.lastCommand
      lastResult := report.lastResult
      reportedAt := uplinkTime dateParse now uplink.time }

/-- `handleUplink`, up to its first `await`: `none` is a message that is not JSON, or not of the shape of an uplink. -/
def handleUplink : Option ChirpStackUplink → Handled
  | none => .dropped .error
  | some uplink =>
    if uplink.fPort = some configReportFport then handleConfigReport dateParse now uplink
    else if uplink.fPort ≠ some 2 then .ignored
    else handleTelemetry dateParse now uplink

/-- An uplink on fPort 2 is telemetry. -/
theorem handleUplink_telemetry {uplink : ChirpStackUplink} (hport : uplink.fPort = some 2) :
    handleUplink dateParse now (some uplink) = handleTelemetry dateParse now uplink := by
  have hne : ¬uplink.fPort = some configReportFport := by
    rw [hport]
    decide
  simp only [handleUplink]
  rw [if_neg hne, if_neg (not_not.2 hport)]

end

/-- A telemetry uplink without a time: 10 and 20 µg/m³, 25 °C, 50 %, 1013 hPa, 3900 mV. -/
def ChirpStackUplink.sample : ChirpStackUplink where
  devEui := "eeeeeeee00000001"
  fPort := some 2
  data := "ZADIAMQJiBP1AzwPMQ=="
  time := none
  rxInfo := none

end AirQuality
