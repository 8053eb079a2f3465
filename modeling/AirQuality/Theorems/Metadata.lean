import AirQuality.Dashboard.Metadata
import AirQuality.Theorems.Acceptance

/-!
# Sensor metadata from the registry to the page

A row of `sensors`, mapped by the API, sent as JSON and mapped by the dashboard, against the sensor the page has of it. The contract
of the API calls the date `installedAt`, and its own reader gets it; the dashboard asks for `installDate`.
-/

namespace AirQuality

/-! ## The contract -/

theorem optional_zString (value : Option String) : optional zString (value.map .string) = some value := by
  cases value <;> rfl

theorem optional_zInt {value : Option ℤ} (h : ∀ z ∈ value, safeIntOk z = true) :
    optional zInt (value.map fun z => .number (.ofInt z)) = some value := by
  cases value with
  | none => rfl
  | some z => simp [optional, zInt, zNumber, JsNumber.ofInt, h z rfl]

theorem sensorStatusSchema_text (status : SensorStatus) : sensorStatusSchema (.string status.text) = some status := by
  cases status <;> rfl

/-- A sensor of the API is read back by the schema of the contract, whatever it leaves out. -/
theorem sensorSchema_json {s : SensorResponse} (h : ∀ mv ∈ s.batteryMv, integerOk mv = true) :
    sensorSchema s.json = some s := by
  have hread : field (writtenFields s.properties) = fun name => (s.properties.lookup name).join :=
    funext (field_writtenFields s.names_nodup)
  have hdescription : optional zString (s.properties.lookup "description").join = some s.description :=
    optional_zString s.description
  have hneighborhood : optional zString (s.properties.lookup "neighborhood").join = some s.neighborhood :=
    optional_zString s.neighborhood
  have hstatus : required sensorStatusSchema (s.properties.lookup "status").join = some s.status := sensorStatusSchema_text s.status
  have hinstalledAt : optional zString (s.properties.lookup "installedAt").join = some s.installedAt :=
    optional_zString s.installedAt
  have hlastSeenAt : optional zString (s.properties.lookup "lastSeenAt").join = some s.lastSeenAt := optional_zString s.lastSeenAt
  have hbatteryMv : optional zInt (s.properties.lookup "batteryMv").join = some s.batteryMv :=
    optional_zInt fun mv hmv => safeIntOk_of_integerOk (h mv hmv)
  have hcreatedAt : optional zString (s.properties.lookup "createdAt").join = some s.createdAt := optional_zString s.createdAt
  have hupdatedAt : optional zString (s.properties.lookup "updatedAt").join = some s.updatedAt := optional_zString s.updatedAt
  rw [sensorSchema, SensorResponse.json, zObject, Option.bind_eq_bind, Option.bind_some, hread, hdescription, hneighborhood, hstatus,
    hinstalledAt, hlastSeenAt, hbatteryMv, hcreatedAt, hupdatedAt]
  rfl

end AirQuality

namespace AirQuality.Dashboard

variable (toISOString : ℤ → String) (unicodeLower : String → String) (isWord : Char → Bool)
  (arabicPlaceName : String → Option String)

/-! ## The page -/

/-- The page has what its `Sensor` declares as it stands in a row of the registry. -/
structure MetadataKept (r : AirQuality.SensorRow) (s : Sensor) : Prop where
  id : s.id = toLowerCase unicodeLower r.deviceId
  name : s.name = r.name
  latitude : s.latitude = r.latitude
  longitude : s.longitude = r.longitude
  isActive : s.isActive = r.isActive
  neighborhood : ∀ place, r.neighborhood = some place → trim place ≠ "" → s.neighborhood = some (trim place)
  unassigned : (∀ place, r.neighborhood = some place → trim place = "") → s.neighborhood = none
  installDate : s.installDate.isSome = true ↔ r.installedAt.isSome = true

/-- What the page has of a row is kept but for the date, which it never has. -/
theorem metadataKept_toSensor_iff (r : AirQuality.SensorRow) :
    MetadataKept unicodeLower r (toSensor unicodeLower isWord arabicPlaceName (sensorObject r)) ↔ r.installedAt = none := by
  have hdate : (toSensor unicodeLower isWord arabicPlaceName (sensorObject r)).installDate = none := rfl
  constructor
  · intro h
    have hiff := h.installDate
    rw [hdate] at hiff
    simpa using hiff
  · intro h
    refine ⟨rfl, rfl, rfl, rfl, rfl, ?_, ?_, ?_⟩
    · intro place hplace hne
      simp [toSensor, sensorObject, hplace, Field.ofOptional, Field.toOption, hne]
    · intro hblank
      cases hplace : r.neighborhood with
      | none => simp [toSensor, sensorObject, hplace, Field.ofOptional, Field.toOption]
      | some place => simp [toSensor, sensorObject, hplace, Field.ofOptional, Field.toOption, hblank place hplace]
    · simp [hdate, h]

/-- The metadata of a sensor survive the trip to the page exactly if the registry has no installation date. -/
theorem sensor_metadata_iff (r : AirQuality.SensorRow) :
    (∃ s, pageSensor toISOString unicodeLower isWord arabicPlaceName r = some s ∧ MetadataKept unicodeLower r s) ↔
      r.installedAt = none := by
  rw [pageSensor_eq, ← metadataKept_toSensor_iff unicodeLower isWord arabicPlaceName]
  simp

/-- A sensor installed on the first of June 2026. -/
def installedSensor : AirQuality.SensorRow :=
  { registeredSensor "2cbcbbfffea945c4" (some "El Mina") .active with installedAt := some 1780315200000 }

/-- Its installation date is lost. -/
theorem sensor_metadata_false :
    ¬∀ (toISOString : ℤ → String) (unicodeLower : String → String) (isWord : Char → Bool)
      (arabicPlaceName : String → Option String) (r : AirQuality.SensorRow),
      ∃ s, pageSensor toISOString unicodeLower isWord arabicPlaceName r = some s ∧ MetadataKept unicodeLower r s := by
  intro h
  obtain ⟨s, hs, hkept⟩ := h (fun _ => "2026-06-01T12:00:00.000Z") id (fun c => c.isAlphanum) (fun _ => none) installedSensor
  rw [pageSensor_eq] at hs
  obtain rfl := Option.some.inj hs
  have hdate := (metadataKept_toSensor_iff _ _ _ _).1 hkept
  exact absurd hdate (by decide)

end AirQuality.Dashboard
