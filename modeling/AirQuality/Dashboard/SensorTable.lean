import AirQuality.Codec.Text
import AirQuality.Dashboard.Stats
import AirQuality.Lib.Machine
import AirQuality.Lib.StableSort
import Mathlib.Data.List.Infix

/-!
# The sensor table

`apps/dashboard/src/composables/useSort.ts` and `components/SensorTable.vue`: which rows the table shows and in which order, and what
its controls do. `Array.prototype.sort` is stable.
-/

namespace AirQuality.Dashboard

/-- `localeCompare` with `numeric`: it orders any two texts, and may tie different ones. -/
structure Collation where
  le : String → String → Bool
  order : StableSort.TotalPreorder le

/-- `x.localeCompare(y, undefined, { numeric: true })` -/
def Collation.localeCompare (c : Collation) (x y : String) : ℚ :=
  if c.le x y = true then if c.le y x = true then 0 else -1 else 1

/-- What an accessor gives that is not missing. -/
inductive SortValue where
  | number (x : ℚ)
  | text (s : String)
deriving DecidableEq

/-- `String(x)`; of a number it is a parameter. -/
def SortValue.string (ofNumber : ℚ → String) : SortValue → String
  | .number x => ofNumber x
  | .text s => s

/-- What the table takes from its language and from the reader's. -/
structure TableText where
  unicodeLower : String → String
  ofNumber : ℚ → String
  collation : Collation
  isRtl : Bool
  /-- `t('sensors.unassigned')` -/
  unassigned : String

section

variable (text : TableText)

/-- The comparison of `useSort`. -/
def compareRows {α : Type} (get : α → Option SortValue) (descending : Bool) (a b : α) : ℚ :=
  let direction : ℚ := if descending = true then -1 else 1
  match get a, get b with
  | some (.number x), some (.number y) => (x - y) * direction
  | some x, some y => text.collation.localeCompare (x.string text.ofNumber) (y.string text.ofNumber) * direction
  | some _, none => -1
  | none, some _ => 1
  | none, none => 0

/-- `sorted` of `useSort`. -/
def sortedRows {α : Type} (rows : List α) (get : α → Option SortValue) (descending : Bool) : List α :=
  rows.mergeSort (fun a b => decide (compareRows text get descending a b ≤ 0))

inductive SortKey where
  | name | place | aqi | pm25 | pm10 | temperature | humidity | battery | signal | seen | status
deriving DecidableEq

/-- `STATUS_ORDER` -/
def statusOrder : SensorStatus → ℚ
  | .offline => 0
  | .inactive => 1
  | .online => 2

/-- A text that is there and not empty. -/
def nonEmpty (s : Option String) : Option String := s.filter (fun s => decide (s ≠ ""))

/-- `sensorName` -/
def sensorName (sensor : Sensor) : String :=
  if text.isRtl = true then (nonEmpty sensor.nameAr).getD sensor.name else sensor.name

/-- `sensorPlace` -/
def sensorPlace (sensor : Sensor) : String :=
  match nonEmpty sensor.neighborhood with
  | some place => if text.isRtl = true then (nonEmpty sensor.neighborhoodAr).getD place else place
  | none => text.unassigned

/-- The value of a measurement, if the row is online. -/
def onlineValue (row : SensorRow) (value : Reading → ℚ) : Option SortValue :=
  if row.status = .online then row.reading.map (fun r => .number (value r)) else none

/-- The accessors of the table. -/
def accessor : SortKey → SensorRow → Option SortValue
  | .name, row => some (.text (sensorName text row.sensor))
  | .place, row => some (.text (sensorPlace text row.sensor))
  | .aqi, row => onlineValue row Reading.aqi
  | .pm25, row => onlineValue row Reading.pm25
  | .pm10, row => onlineValue row Reading.pm10
  | .temperature, row => onlineValue row Reading.temperature
  | .humidity, row => onlineValue row Reading.humidity
  | .battery, row => (row.reading.bind Reading.batteryMv).map .number
  | .signal, row => (row.reading.bind Reading.signalStrength).map .number
  | .seen, row => row.reading.map (fun r => .number r.time)
  | .status, row => some (.number (statusOrder row.status))

/-- `HIGH_FIRST` -/
def highFirst : List SortKey := [.aqi, .pm25, .pm10, .temperature, .humidity, .seen]

inductive TableVariant where
  | air | device
deriving DecidableEq

/-- The props of the table. -/
structure TableProps where
  rows : List SensorRow
  variant : TableVariant
  hidePlace : Bool
  /-- 0 is no limit. -/
  limit : Nat

/-- `columns` -/
def columns (variant : TableVariant) (hidePlace : Bool) : List SortKey :=
  let lead : List SortKey := if hidePlace = true then [.name] else [.name, .place]
  match variant with
  | .device => lead ++ [.status, .seen, .battery, .signal]
  | .air => lead ++ [.aqi, .pm25, .pm10, .temperature, .humidity, .seen]

/-- The refs of the table. -/
structure SensorTable where
  props : TableProps
  query : String
  showAll : Bool
  key : SortKey
  descending : Bool

/-- When the table is set up. -/
def SensorTable.init (props : TableProps) : SensorTable where
  props := props
  query := ""
  showAll := false
  key := if props.variant = .air then .aqi else .status
  descending := decide (props.variant = .air)

namespace SensorTable

variable (s : SensorTable)

/-- `query.trim().toLowerCase()` -/
def needle : String := toLowerCase text.unicodeLower (trim s.query)

/-- `[name, nameAr, neighborhood, neighborhoodAr, id].some(field => field?.toLowerCase().includes(q))` -/
def hit (q : String) (row : SensorRow) : Bool :=
  ([some row.sensor.name, row.sensor.nameAr, row.sensor.neighborhood, row.sensor.neighborhoodAr,
    some row.sensor.id].reduceOption).any (fun field => decide (q.toList <:+: (toLowerCase text.unicodeLower field).toList))

/-- `filtered` -/
def filtered : List SensorRow :=
  if s.needle text = "" then s.props.rows else s.props.rows.filter (hit text (s.needle text))

/-- `sorted` -/
def sorted : List SensorRow := sortedRows text (s.filtered text) (accessor text s.key) s.descending

/-- `visible` -/
def visible : List SensorRow :=
  if s.props.limit ≠ 0 ∧ s.showAll = false ∧ trim s.query = "" then (s.sorted text).take s.props.limit else s.sorted text

/-- `hiddenCount` -/
def hiddenCount : Nat := (s.sorted text).length - (s.visible text).length

/-- `toggle` -/
def toggle (next : SortKey) : SensorTable :=
  if s.key = next then { s with descending := !s.descending } else { s with key := next, descending := false }

/-- `set` -/
def set (next : SortKey) (isDescending : Bool) : SensorTable := { s with key := next, descending := isDescending }

/-- `ariaSort` -/
inductive AriaSort where
  | ascending | descending | none
deriving DecidableEq

def ariaSort (k : SortKey) : AriaSort :=
  if s.key ≠ k then .none else if s.descending = true then .descending else .ascending

end SensorTable

inductive TableEvent where
  | rows (rows : List SensorRow)
  | search (query : String)
  /-- The header of column `i` is pressed. -/
  | header (i : Nat)
  /-- Column `i` is chosen from the list. -/
  | choose (i : Nat)
  /-- The button beside the list. -/
  | turn
  | showAll

/-- The controls that are there. -/
def SensorTable.step (s : SensorTable) : TableEvent → SensorTable
  | .rows rows => { s with props := { s.props with rows } }
  | .search query => { s with query }
  | .header i =>
    match (columns s.props.variant s.props.hidePlace)[i]? with
    | some key => s.toggle key
    | none => s
  | .choose i =>
    match (columns s.props.variant s.props.hidePlace)[i]? with
    | some key => s.set key (highFirst.contains key)
    | none => s
  | .turn => s.set s.key (!s.descending)
  | .showAll => { s with showAll := true }

def tableMachine : Machine SensorTable TableEvent Unit := ⟨fun s e => (s.step e, ())⟩

end

end AirQuality.Dashboard
