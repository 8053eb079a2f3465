import AirQuality.Dashboard.Aqi
import AirQuality.Lib.Bands

/-!
# The trend chart

The bands and the tooltip of `apps/dashboard/src/components/TrendChart.vue`, with exact rationals in place of doubles. ECharts gives
a value the colour of the piece it lies in, above `gt` and up to `lte`.
-/

namespace AirQuality.Dashboard

inductive MetricId where
  | aqi
  | pm25
  | pm10
  | temperature
  | humidity
deriving DecidableEq

/-- A piece of the visual map. -/
structure ChartBand where
  gt : ℚ
  lte : ℚ
  color : String
deriving DecidableEq

/-- `PM25_EDGES`: PM2.5 concentrations at which the AQI category changes. -/
def pm25Edges : List ℚ := [9, 354 / 10, 554 / 10, 1254 / 10, 2254 / 10]

/-- `bands` -/
def chartBands : MetricId → Option (List ChartBand)
  | .aqi => some (aqiCategories.map fun c => { gt := c.min - 1, lte := c.max, color := c.solid })
  | .pm25 => some (aqiCategories.mapIdx fun i c =>
      { gt := if i = 0 then -1 else pm25Edges.getD (i - 1) 0, lte := pm25Edges.getD i 10000, color := c.solid })
  | _ => none

/-- The pieces a value lies in. -/
def bandsOf (bands : List ChartBand) (value : ℚ) : List ChartBand :=
  bands.filter fun b => decide (b.gt < value ∧ value ≤ b.lte)

/-- The index whose name and colour the tooltip shows beside a value. -/
def tooltipIndex (metric : MetricId) (value : ℚ) : Option ℚ :=
  match metric with
  | .aqi => some value
  | .pm25 => some (pm25ToAqi value)
  | _ => none

end AirQuality.Dashboard
