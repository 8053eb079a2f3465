import AirQuality.Dashboard.Aqi
import AirQuality.Lib.Gradient
import Mathlib.Algebra.Module.Prod
import Mathlib.Algebra.Algebra.Rat

/-!
# The sparkline

`geometry` of `apps/dashboard/src/components/AirSparkline.vue`: the coordinates of the line and the stops of the gradient it is drawn
with. Exact rationals stand in place of doubles. `Array.prototype.sort` is stable.
-/

namespace AirQuality.Dashboard

structure SeriesPoint where
  time : ℚ
  pm25 : ℚ
  pm10 : ℚ
  aqi : ℚ
  /-- How many sensors contributed to the point. -/
  sensors : Nat
deriving DecidableEq

/-- A stop of the gradient. -/
structure GradientStop where
  offset : ℚ
  color : String
deriving DecidableEq

structure SparkGeometry where
  coords : List (ℚ × ℚ)
  stops : List GradientStop
  H : ℚ

/-- `W` -/
def sparkWidth : ℚ := 600

/-- `PAD` -/
def sparkPad : ℚ := 6

/-- `values` -/
def sparkValues (points : List SeriesPoint) : List ℚ := points.map (·.aqi)

/-- `lo`: a little headroom. -/
def sparkLo (points : List SeriesPoint) : ℚ := max 0 ((sparkValues points).min?.getD 0 - 8)

/-- `hi`: never a flat line pinned to an edge. -/
def sparkHi (points : List SeriesPoint) : ℚ := max ((sparkValues points).max?.getD 0) (sparkLo points + 30) + 8

/-- `y` -/
def sparkY (points : List SeriesPoint) (height aqi : ℚ) : ℚ :=
  height - sparkPad - (aqi - sparkLo points) / (sparkHi points - sparkLo points) * (height - sparkPad * 2)

/-- `x` -/
def sparkX (points : List SeriesPoint) (time : ℚ) : ℚ :=
  let t0 := (points.head?.map (·.time)).getD 0
  let span := (points.getLast?.map (·.time)).getD 0 - t0
  sparkPad + (time - t0) / (if span = 0 then 1 else span) * (sparkWidth - sparkPad * 2)

/-- `Math.min(1, Math.max(0, offset))` -/
def clampOffset (offset : ℚ) : ℚ := min 1 (max 0 offset)

/-- The two stops of a category. -/
def categoryStops (points : List SeriesPoint) (height : ℚ) (c : AqiCategory) : List GradientStop :=
  let top := clampOffset (sparkY points height (c.max + 1 / 2) / height)
  let bottom := clampOffset (sparkY points height (c.min - 1 / 2) / height)
  [{ offset := top, color := c.solid }, { offset := bottom, color := c.solid }]

/-- `stops` -/
def sparkStops (points : List SeriesPoint) (height : ℚ) : List GradientStop :=
  (aqiCategories.flatMap (categoryStops points height)).mergeSort fun a b => decide (a.offset - b.offset ≤ 0)

/-- `geometry` -/
def sparkGeometry (points : List SeriesPoint) (height : ℚ) : Option SparkGeometry :=
  if points.length < 2 then none
  else some
    { coords := points.map fun p => (sparkX points p.time, sparkY points height p.aqi)
      stops := sparkStops points height
      H := height }

/-! ## The gradient as it is drawn -/

/-- The value of a hexadecimal digit. -/
def hexDigit (c : Char) : ℚ :=
  if c.toNat ≤ 57 then c.toNat - 48 else if c.toNat ≤ 70 then c.toNat - 55 else c.toNat - 87

/-- The red, green and blue of a colour `#rrggbb`. -/
def hexRgb (color : String) : ℚ × ℚ × ℚ :=
  match color.toList with
  | [_, r, r', g, g', b, b'] => (16 * hexDigit r + hexDigit r', 16 * hexDigit g + hexDigit g', 16 * hexDigit b + hexDigit b')
  | _ => (0, 0, 0)

/-- The colour of a gradient at an offset, as SVG draws it. -/
def svgColorAt (stops : List GradientStop) (offset : ℚ) : Option (ℚ × ℚ × ℚ) :=
  Gradient.colorAt offset (stops.map fun s => (s.offset, hexRgb s.color))

end AirQuality.Dashboard
