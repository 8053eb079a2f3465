import AirQuality.Lib.Round

/-!
# The air quality index

`packages/domain/src/aqi.ts`, with exact rationals in place of doubles: breakpoint tables, sub-indices and categories.
-/

namespace AirQuality

/-- US EPA AQI breakpoints: concentration low and high, index low and high. -/
structure Breakpoint where
  cLow : ℚ
  cHigh : ℚ
  iLow : ℚ
  iHigh : ℚ
deriving DecidableEq

/-- `PM25_BREAKPOINTS`, per the EPA 2024 update. -/
def pm25Breakpoints : List Breakpoint :=
  [⟨0, 9, 0, 50⟩, ⟨91 / 10, 354 / 10, 51, 100⟩, ⟨355 / 10, 554 / 10, 101, 150⟩, ⟨555 / 10, 1254 / 10, 151, 200⟩,
    ⟨1255 / 10, 2254 / 10, 201, 300⟩, ⟨2255 / 10, 3254 / 10, 301, 500⟩]

/-- `PM10_BREAKPOINTS` -/
def pm10Breakpoints : List Breakpoint :=
  [⟨0, 54, 0, 50⟩, ⟨55, 154, 51, 100⟩, ⟨155, 254, 101, 150⟩, ⟨255, 354, 151, 200⟩, ⟨355, 424, 201, 300⟩,
    ⟨425, 604, 301, 500⟩]

/-- `truncPm25`: truncate to the reporting resolution before the lookup. -/
def truncPm25 (c : ℚ) : ℚ := ⌊c * 10⌋ / 10

def truncPm10 (c : ℚ) : ℚ := ⌊c⌋

/-- The band of a concentration: the first that reaches it, else the last of the table. -/
def breakpointOf (c : ℚ) (breakpoints : List Breakpoint) : Breakpoint :=
  (breakpoints.find? (fun b => decide (c ≤ b.cHigh))).getD (breakpoints.getLastD ⟨0, 0, 0, 0⟩)

def subIndex (concentration : ℚ) (breakpoints : List Breakpoint) (truncate : ℚ → ℚ) : ℤ :=
  let c := truncate (max 0 concentration)
  let bp := breakpointOf c breakpoints
  -- clamp to the band, so that concentrations above the top breakpoint cap at its ceiling
  let cc := min (max c bp.cLow) bp.cHigh
  round ((bp.iHigh - bp.iLow) / (bp.cHigh - bp.cLow) * (cc - bp.cLow) + bp.iLow)

inductive AqiCategory where
  | good
  | moderate
  | unhealthySensitive
  | unhealthy
  | veryUnhealthy
  | hazardous
deriving DecidableEq

def aqiCategory (aqi : ℤ) : AqiCategory :=
  if aqi ≤ 50 then .good
  else if aqi ≤ 100 then .moderate
  else if aqi ≤ 150 then .unhealthySensitive
  else if aqi ≤ 200 then .unhealthy
  else if aqi ≤ 300 then .veryUnhealthy
  else .hazardous

/-- `dominantPollutant`: the pollutant that drove the AQI. -/
inductive Pollutant where
  | pm25
  | pm10
deriving DecidableEq

structure AqiResult where
  aqi : ℤ
  category : AqiCategory
  dominantPollutant : Pollutant
deriving DecidableEq

/-- `calculateAqi`: the overall AQI is the greater of the two sub-indices. -/
def calculateAqi (pm25 pm10 : ℚ) : AqiResult :=
  let pm25Index := subIndex pm25 pm25Breakpoints truncPm25
  let pm10Index := subIndex pm10 pm10Breakpoints truncPm10
  let dominantPollutant := if pm25Index ≥ pm10Index then Pollutant.pm25 else Pollutant.pm10
  let aqi := max pm25Index pm10Index
  { aqi, category := aqiCategory aqi, dominantPollutant }

end AirQuality
