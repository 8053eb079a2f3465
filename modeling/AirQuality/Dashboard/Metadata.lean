import AirQuality.Api.Sensors
import AirQuality.Dashboard.HttpService

/-!
# Sensors as the dashboard reads them

The objects of `GET /sensors` by the names that `ApiSensor` of `apps/dashboard/src/services/http-sensor-service.ts` declares, and
what `toSensor` makes of one.
-/

namespace AirQuality.Dashboard

/-- A property declared as `?: T | null`. -/
def nullable {α : Type} (schema : Json → Option α) : Option Json → Option (Field α)
  | none => some .absent
  | some .null => some .null
  | some json => (schema json).map .value

/-- The properties that `ApiSensor` declares, of an object; `none` if one does not have the type declared, which nothing checks. -/
def ApiSensor.ofJson (json : Json) : Option ApiSensor := do
  let fields ← zObject json
  let id ← required zString (field fields "id")
  let deviceId ← required zString (field fields "deviceId")
  let name ← required zString (field fields "name")
  let latitude ← required zNumber (field fields "latitude")
  let longitude ← required zNumber (field fields "longitude")
  let neighborhood ← nullable zString (field fields "neighborhood")
  let isActive ← required zBoolean (field fields "isActive")
  let installDate ← nullable zString (field fields "installDate")
  return { id, deviceId, name, latitude, longitude, neighborhood, isActive, installDate }

/-- The sensor the page has of a row of the registry: mapped by the API, sent as JSON, and mapped by the dashboard. -/
def pageSensor (toISOString : ℤ → String) (unicodeLower : String → String) (isWord : Char → Bool)
    (arabicPlaceName : String → Option String) (r : AirQuality.SensorRow) : Option Sensor :=
  (ApiSensor.ofJson (toSensorResponse toISOString r).json).map (toSensor unicodeLower isWord arabicPlaceName)

/-! ## The objects of the API -/

/-- A text that is left out when it is undefined reads as an optional property. -/
theorem nullable_zString (value : Option String) : nullable zString (value.map .string) = some (.ofOptional value) := by
  cases value <;> rfl

/-- Every object of `GET /sensors` has the declared types, and no `installDate`. -/
theorem ofJson_response (toISOString : ℤ → String) (r : AirQuality.SensorRow) :
    ApiSensor.ofJson (toSensorResponse toISOString r).json = some (sensorObject r) := by
  simp only [ApiSensor.ofJson, SensorResponse.json, zObject, Option.bind_eq_bind, Option.bind_some,
    field_writtenFields (SensorResponse.names_nodup _)]
  have hneighborhood : nullable zString ((toSensorResponse toISOString r).properties.lookup "neighborhood").join =
      some (.ofOptional r.neighborhood) := nullable_zString r.neighborhood
  have hinstallDate : nullable zString ((toSensorResponse toISOString r).properties.lookup "installDate").join =
      some .absent := rfl
  rw [hneighborhood, hinstallDate]
  rfl

section

variable (toISOString : ℤ → String) (unicodeLower : String → String) (isWord : Char → Bool)
  (arabicPlaceName : String → Option String)

theorem pageSensor_eq (r : AirQuality.SensorRow) :
    pageSensor toISOString unicodeLower isWord arabicPlaceName r =
      some (toSensor unicodeLower isWord arabicPlaceName (sensorObject r)) := by
  rw [pageSensor, ofJson_response, Option.map_some]

/-- `getSensors` is what the page has of all rows. -/
theorem filterMap_pageSensor (rows : List AirQuality.SensorRow) :
    rows.filterMap (pageSensor toISOString unicodeLower isWord arabicPlaceName) =
      getSensors unicodeLower isWord arabicPlaceName rows := by
  have hpage : pageSensor toISOString unicodeLower isWord arabicPlaceName =
      some ∘ toSensor unicodeLower isWord arabicPlaceName ∘ sensorObject :=
    funext (pageSensor_eq toISOString unicodeLower isWord arabicPlaceName)
  rw [hpage, List.filterMap_eq_map, getSensors, List.map_map]

end

end AirQuality.Dashboard
