import AirQuality.Api.Registry
import AirQuality.Ingestion.Envelope

/-!
# Sensors in JSON

`toSensorResponse` of `apps/api/src/sensors/sensors.service.ts`, the JSON of what it returns, and `SensorSchema` of
`packages/contracts/src/sensor.ts` on such JSON. Inside the server times are in milliseconds of the epoch; what `toISOString` makes
of one is a parameter.
-/

namespace AirQuality

/-! ## JSON -/

/-- What `JSON.stringify` keeps of the properties of an object: a property that is undefined is left out. -/
def writtenFields (properties : List (String × Option Json)) : List (String × Json) :=
  properties.filterMap fun p => p.2.map fun value => (p.1, value)

/-- A property reads as it was, and one that was not there, or undefined, as undefined. -/
theorem field_writtenFields {properties : List (String × Option Json)} (hnodup : (properties.map Prod.fst).Nodup) (name : String) :
    field (writtenFields properties) name = (properties.lookup name).join := by
  induction properties with
  | nil => rfl
  | cons p properties ih =>
    obtain ⟨other, value⟩ := p
    obtain ⟨hother, hrest⟩ := List.nodup_cons.1 hnodup
    rw [List.lookup_cons]
    by_cases hname : name = other
    · subst hname
      rw [beq_self_eq_true]
      cases value with
      | none =>
        -- no later property has the name
        change field (writtenFields properties) name = none
        rw [ih hrest, List.lookup_eq_none_iff.2]
        · rfl
        · intro q hq
          exact bne_iff_ne.2 fun heq => hother (List.mem_map.2 ⟨q, hq, heq.symm⟩)
      | some json => simp [field, writtenFields]
    · rw [beq_eq_false_iff_ne.2 hname, ← ih hrest]
      cases value with
      | none => rfl
      | some json => simp [field, writtenFields, Ne.symm hname]

/-- `z.boolean()` -/
def zBoolean : Json → Option Bool
  | .bool b => some b
  | _ => none

/-! ## The sensor of the contract -/

/-- `Sensor` of the contract. A field that is optional may be undefined. -/
structure SensorResponse where
  id : String
  deviceId : String
  name : String
  description : Option String
  latitude : ℚ
  longitude : ℚ
  neighborhood : Option String
  status : SensorStatus
  isActive : Bool
  installedAt : Option String
  isSimulated : Bool
  lastSeenAt : Option String
  batteryMv : Option ℤ
  createdAt : Option String
  updatedAt : Option String
deriving DecidableEq

/-- `toSensorResponse` -/
def toSensorResponse (toISOString : ℤ → String) (r : SensorRow) : SensorResponse where
  id := r.id
  deviceId := r.deviceId
  name := r.name
  description := r.description
  latitude := r.latitude
  longitude := r.longitude
  neighborhood := r.neighborhood
  status := r.status
  isActive := r.isActive
  installedAt := r.installedAt.map toISOString
  isSimulated := r.isSimulated
  lastSeenAt := r.lastSeenAt.map toISOString
  batteryMv := r.batteryMv
  createdAt := some (toISOString r.createdAt)
  updatedAt := some (toISOString r.updatedAt)

/-- The text of a status. -/
def SensorStatus.text : SensorStatus → String
  | .active => "active"
  | .maintenance => "maintenance"
  | .retired => "retired"

/-- The properties of a sensor, in the order they are set. -/
def SensorResponse.properties (s : SensorResponse) : List (String × Option Json) :=
  [("id", some (.string s.id)),
    ("deviceId", some (.string s.deviceId)),
    ("name", some (.string s.name)),
    ("description", s.description.map .string),
    ("latitude", some (.number (.finite s.latitude))),
    ("longitude", some (.number (.finite s.longitude))),
    ("neighborhood", s.neighborhood.map .string),
    ("status", some (.string s.status.text)),
    ("isActive", some (.bool s.isActive)),
    ("installedAt", s.installedAt.map .string),
    ("isSimulated", some (.bool s.isSimulated)),
    ("lastSeenAt", s.lastSeenAt.map .string),
    ("batteryMv", s.batteryMv.map fun mv => .number (.ofInt mv)),
    ("createdAt", s.createdAt.map .string),
    ("updatedAt", s.updatedAt.map .string)]

/-- The names of the contract. -/
def sensorFieldNames : List String :=
  ["id", "deviceId", "name", "description", "latitude", "longitude", "neighborhood", "status", "isActive", "installedAt",
    "isSimulated", "lastSeenAt", "batteryMv", "createdAt", "updatedAt"]

theorem SensorResponse.names_nodup (s : SensorResponse) : (s.properties.map Prod.fst).Nodup := by
  have hnames : s.properties.map Prod.fst = sensorFieldNames := rfl
  rw [hnames]
  decide

/-- The JSON of a sensor, as `JSON.parse` reads what `JSON.stringify` has written. -/
def SensorResponse.json (s : SensorResponse) : Json := .object (writtenFields s.properties)

/-- `SensorStatusSchema` -/
def sensorStatusSchema (json : Json) : Option SensorStatus :=
  (zString json).bind fun text => [.active, .maintenance, .retired].find? fun status => status.text = text

/-- `SensorSchema.parse` -/
def sensorSchema (json : Json) : Option SensorResponse := do
  let fields ← zObject json
  let id ← required zString (field fields "id")
  let deviceId ← required zString (field fields "deviceId")
  let name ← required zString (field fields "name")
  let description ← optional zString (field fields "description")
  let latitude ← required zNumber (field fields "latitude")
  let longitude ← required zNumber (field fields "longitude")
  let neighborhood ← optional zString (field fields "neighborhood")
  let status ← required sensorStatusSchema (field fields "status")
  let isActive ← required zBoolean (field fields "isActive")
  let installedAt ← optional zString (field fields "installedAt")
  let isSimulated ← required zBoolean (field fields "isSimulated")
  let lastSeenAt ← optional zString (field fields "lastSeenAt")
  let batteryMv ← optional zInt (field fields "batteryMv")
  let createdAt ← optional zString (field fields "createdAt")
  let updatedAt ← optional zString (field fields "updatedAt")
  some
    { id, deviceId, name, description, latitude, longitude, neighborhood, status, isActive, installedAt, isSimulated, lastSeenAt,
      batteryMv, createdAt, updatedAt }

end AirQuality
