import AirQuality.Codec.Js
import AirQuality.Ingestion.Uplink

/-!
# The envelope of an uplink, and the columns of a reading

`ChirpStackUplinkSchema` (`packages/contracts/src/events.ts`) on the value that `JSON.parse` has made of a message, and what the
columns of `readings` (`packages/db/src/telemetry/schema.ts`) can hold.
-/

namespace AirQuality

/-- What `JSON.parse` gives; the keys of an object are distinct, and a number too large for a double is an infinity. -/
inductive Json where
  | null
  | bool (b : Bool)
  | number (v : JsNumber)
  | string (s : String)
  | array (items : List Json)
  | object (fields : List (String × Json))

/-! ## The schemas of the contract -/

/-- `z.string()` -/
def zString : Json → Option String
  | .string s => some s
  | _ => none

/-- `z.number()` -/
def zNumber : Json → Option ℚ
  | .number (.finite q) => some q
  | _ => none

/-- `z.number().int()` -/
def zInt (json : Json) : Option ℤ := (zNumber json).bind (fun q => if safeIntOk q = true then some q.num else none)

/-- `z.array(schema)` -/
def zArray {α : Type} (schema : Json → Option α) : Json → Option (List α)
  | .array items => items.mapM schema
  | _ => none

/-- `z.object`, whose fields are checked by what follows. -/
def zObject : Json → Option (List (String × Json))
  | .object fields => some fields
  | _ => none

/-- A field of an object; a field that is not there is undefined. -/
def field (fields : List (String × Json)) (name : String) : Option Json :=
  (fields.find? (fun entry => entry.1 = name)).map Prod.snd

/-- A field that has to be there. -/
def required {α : Type} (schema : Json → Option α) (value : Option Json) : Option α := value.bind schema

/-- `.optional()` -/
def optional {α : Type} (schema : Json → Option α) : Option Json → Option (Option α)
  | none => some none
  | some json => (schema json).map some

/-- An entry of `rxInfo`. -/
def rxInfoSchema (json : Json) : Option RxInfo := do
  let fields ← zObject json
  let _gatewayId ← optional zString (field fields "gatewayId")
  let rssi ← optional zNumber (field fields "rssi")
  let _snr ← optional zNumber (field fields "snr")
  return { rssi }

/-- `ChirpStackUplinkSchema.parse`. Fields that it does not name are ignored. -/
def chirpStackUplinkSchema (json : Json) : Option ChirpStackUplink := do
  let fields ← zObject json
  let deviceInfo ← required zObject (field fields "deviceInfo")
  let devEui ← required zString (field deviceInfo "devEui")
  let _deviceName ← optional zString (field deviceInfo "deviceName")
  let _applicationId ← optional zString (field deviceInfo "applicationId")
  let fPort ← optional zInt (field fields "fPort")
  let _fCnt ← optional zInt (field fields "fCnt")
  let data ← required zString (field fields "data")
  let time ← optional zString (field fields "time")
  let rxInfo ← optional (zArray rxInfoSchema) (field fields "rxInfo")
  return { devEui, fPort, data, time, rxInfo }

/-! ## The columns -/

/-- A `text` column takes every character but NUL. -/
def textOk (s : String) : Bool := !s.toList.contains (Char.ofNat 0)

/-- An `integer` column takes 32 bits. -/
def integerOk (q : ℚ) : Bool := q.den == 1 && decide (-2147483648 ≤ q ∧ q ≤ 2147483647)

/-- The times of the years 1 to 9999: of these `timestamptz` takes the ISO text, and of the year 0 it does not. -/
def timestamptzOk (time : ℤ) : Bool := decide (-62135596800000 ≤ time ∧ time ≤ 253402300799999)

/-- Every column of the row can hold its value. -/
def rowOk (p : ReadingPayload) : Bool :=
  textOk p.reading.deviceId && timestamptzOk p.reading.timestamp && integerOk p.aqi && integerOk p.reading.batteryMv &&
    p.reading.signalStrength.all (fun s => integerOk s)

end AirQuality
