import AirQuality.Dashboard.Store
import AirQuality.Lib.Table
import Mathlib.Algebra.BigOperators.Group.List.Basic
import Mathlib.Algebra.Order.Round
import Mathlib.Data.Rat.Floor

/-!
# What the views derive from the store

`apps/dashboard/src/lib/stats.ts`, lines 1 to 88, and the values `rows`, `city` and `neighborhoods` of the store: the status of a
sensor, the averages over sensors that are online, and the neighbourhoods. The clock is a rational number of milliseconds, and
exact rationals stand in place of doubles.
-/

namespace AirQuality.Dashboard

structure Sensor where
  /-- Device identifier, in lower case. Readings are keyed by it. -/
  id : String
  name : String
  /-- Arabic name when the source has one. -/
  nameAr : Option String
  /-- Neighbourhood as the source spells it, or null when unassigned. -/
  neighborhood : Option String
  neighborhoodAr : Option String
  /-- URL-safe key derived from `neighborhood`. -/
  neighborhoodId : String
  latitude : ℚ
  longitude : ℚ
  /-- False means the sensor is retired or in maintenance. -/
  isActive : Bool
  installDate : Option String
deriving DecidableEq

/-- Derived from `isActive` and how recently the sensor reported. -/
inductive SensorStatus where
  | online | offline | inactive
deriving DecidableEq, Repr

structure SensorRow where
  sensor : Sensor
  reading : Option Reading
  status : SensorStatus
deriving DecidableEq

/-- `ONLINE_WINDOW_MS` -/
def onlineWindowMs : ℚ := 15 * 60000

def sensorStatus (sensor : Sensor) (reading : Option Reading) (now : ℚ) : SensorStatus :=
  if sensor.isActive = false then .inactive
  else if reading.any (fun r => decide (now - r.time < onlineWindowMs)) = true then .online
  else .offline

/-- `rows` of the store: each sensor with its latest reading. -/
def rows (sensors : List Sensor) (latest : String → Option Reading) (now : ℚ) : List SensorRow :=
  sensors.map (fun sensor =>
    let reading := latest sensor.id
    { sensor, reading, status := sensorStatus sensor reading now })

structure AirSummary where
  /-- Mean AQI of the sensors currently reporting; null when none are. -/
  aqi : Option ℤ
  pm25 : Option ℚ
  pm10 : Option ℚ
  temperature : Option ℚ
  humidity : Option ℚ
  total : Nat
  online : Nat
  /-- Most recent reading time among the group. -/
  updatedAt : Option ℤ
deriving DecidableEq

def mean (values : List ℚ) : Option ℚ := if values = [] then none else some (values.sum / values.length)

/-- The readings of the rows that are online. -/
def liveReadings (rows : List SensorRow) : List Reading :=
  (rows.filter (fun row => row.status == .online)).filterMap (·.reading)

/-- `summarise`: averages over the rows that are online. -/
def summarise (rows : List SensorRow) : AirSummary :=
  let live := liveReadings rows
  let aqi := mean (live.map (·.aqi))
  let times := rows.filterMap (fun row => row.reading.map (·.time))
  { aqi := aqi.map (fun aqi => round aqi)
    pm25 := mean (live.map (·.pm25))
    pm10 := mean (live.map (·.pm10))
    temperature := mean (live.map (·.temperature))
    humidity := mean (live.map (·.humidity))
    total := rows.length
    online := live.length
    updatedAt := times.max? }

structure NeighborhoodSummary extends AirSummary where
  id : String
  name : String
  nameAr : Option String
  rows : List SensorRow
  latitude : ℚ
  longitude : ℚ
deriving DecidableEq

/-- The loop of `groupByNeighborhood`: the groups in the order their first row came. Rows without a neighbourhood are left out. -/
def neighborhoodGroups (rows : List SensorRow) : List (String × List SensorRow) :=
  Table.collect (fun row => row.sensor.neighborhoodId)
    (rows.filter (fun row => row.sensor.neighborhood.any (fun name => decide (name ≠ ""))))

def groupByNeighborhood (rows : List SensorRow) : List NeighborhoodSummary :=
  (neighborhoodGroups rows).map (fun (id, members) =>
    let first := members.head?.map (·.sensor)
    { summarise members with
      id
      name := (first.bind (·.neighborhood)).getD id
      nameAr := first.bind (·.neighborhoodAr)
      rows := members
      latitude := (members.map (·.sensor.latitude)).sum / members.length
      longitude := (members.map (·.sensor.longitude)).sum / members.length })

/-- A group has the rows with its key that have a neighbourhood, at least one, and the name of the first. -/
theorem mem_groupByNeighborhood {rows : List SensorRow} {g : NeighborhoodSummary} (h : g ∈ groupByNeighborhood rows) :
    g.rows ≠ [] ∧
      g.rows = (rows.filter (fun row => row.sensor.neighborhood.any (fun name => decide (name ≠ "")))).filter
        (fun row => decide (row.sensor.neighborhoodId = g.id)) ∧
      g.name = ((g.rows.head?.map (·.sensor)).bind (·.neighborhood)).getD g.id := by
  obtain ⟨⟨id, members⟩, hmem, rfl⟩ := List.mem_map.1 h
  obtain ⟨hne, hmembers⟩ := Table.mem_collect_iff.1 hmem
  exact ⟨hne, hmembers, rfl⟩

end AirQuality.Dashboard
