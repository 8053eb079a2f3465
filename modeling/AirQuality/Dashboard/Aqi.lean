import AirQuality.Domain.Aqi

/-!
# The scale of the dashboard

`apps/dashboard/src/lib/aqi.ts` and `composables/useAqi.ts`: the categories with their colours and names, and the dashboard's own
copy of the breakpoint tables. Exact rationals stand in place of doubles.
-/

namespace AirQuality.Dashboard

inductive Theme where
  | light | dark
deriving DecidableEq, Repr

inductive AqiCategoryId where
  | good
  | moderate
  | sensitive
  | unhealthy
  | veryUnhealthy
  | hazardous
deriving DecidableEq, Repr

/-- The id as the texts of the interface are keyed by it. -/
def AqiCategoryId.key : AqiCategoryId → String
  | .good => "good"
  | .moderate => "moderate"
  | .sensitive => "sensitive"
  | .unhealthy => "unhealthy"
  | .veryUnhealthy => "veryUnhealthy"
  | .hazardous => "hazardous"

structure AqiCategory where
  id : AqiCategoryId
  /-- 1 (best) to 6 (worst). -/
  level : Nat
  /-- Lowest and highest AQI in the category. -/
  min : ℚ
  max : ℚ
  /-- Fill for markers, bars and meters; the same in both themes. -/
  solid : String
  /-- Text colour that is readable on `solid`. -/
  onSolid : String
  /-- Text colour for the category on page surfaces, per theme. -/
  text : Theme → String

/-- `AQI_CATEGORIES` -/
def aqiCategories : List AqiCategory :=
  [{ id := .good, level := 1, min := 0, max := 50, solid := "#2FA35B", onSolid := "#04210F"
     text := fun | .light => "#1A7340" | .dark => "#5FD08A" },
   { id := .moderate, level := 2, min := 51, max := 100, solid := "#F2C230", onSolid := "#2B2100"
     text := fun | .light => "#7D5B00" | .dark => "#F2C94C" },
   { id := .sensitive, level := 3, min := 101, max := 150, solid := "#F08A24", onSolid := "#2E1500"
     text := fun | .light => "#A04A00" | .dark => "#FFA24D" },
   { id := .unhealthy, level := 4, min := 151, max := 200, solid := "#CF2F28", onSolid := "#FFFFFF"
     text := fun | .light => "#B8251F" | .dark => "#FF8076" },
   { id := .veryUnhealthy, level := 5, min := 201, max := 300, solid := "#8B46B0", onSolid := "#FFFFFF"
     text := fun | .light => "#7A379E" | .dark => "#CB96EA" },
   { id := .hazardous, level := 6, min := 301, max := 500, solid := "#7A1F3D", onSolid := "#FFFFFF"
     text := fun | .light => "#7A1F3D" | .dark => "#F08AAB" }]

/-- `AQI_UNKNOWN`: the tone of a sensor that has not reported, for each use. -/
def aqiUnknownSolid : String := "#8A9BA6"
def aqiUnknownOnSolid : String := "#0C2231"

def aqiUnknownText : Theme → String
  | .light => "#526B7A"
  | .dark => "#8CA5B3"

/-- `aqiCategory`: the first category that reaches the value, else the last. -/
def aqiCategory (aqi : ℚ) : AqiCategory :=
  (aqiCategories.find? (fun category => decide (aqi ≤ category.max))).getD (aqiCategories.getLast (List.cons_ne_nil _ _))

/-- `aqiCategoryOrNull`: a value may be missing. -/
def aqiCategoryOrNull (aqi : Option ℚ) : Option AqiCategory := aqi.map aqiCategory

def aqiSolid (aqi : Option ℚ) : String := ((aqiCategoryOrNull aqi).map (·.solid)).getD aqiUnknownSolid

def aqiOnSolid (aqi : Option ℚ) : String := ((aqiCategoryOrNull aqi).map (·.onSolid)).getD aqiUnknownOnSolid

def aqiText (aqi : Option ℚ) (theme : Theme) : String :=
  ((aqiCategoryOrNull aqi).map (·.text)).getD aqiUnknownText theme

/-- The key of the name that `useAqi` shows for a value. -/
def aqiName (aqi : Option ℚ) : String :=
  "aqi.names." ++ ((aqiCategoryOrNull aqi).map (fun category => category.id.key)).getD "unknown"

/-! ## The index of the values the dashboard derives itself -/

/-- `PM25_BREAKPOINTS` -/
def pm25Breakpoints : List Breakpoint :=
  [⟨0, 9, 0, 50⟩, ⟨91 / 10, 354 / 10, 51, 100⟩, ⟨355 / 10, 554 / 10, 101, 150⟩, ⟨555 / 10, 1254 / 10, 151, 200⟩,
    ⟨1255 / 10, 2254 / 10, 201, 300⟩, ⟨2255 / 10, 3254 / 10, 301, 500⟩]

/-- `PM10_BREAKPOINTS` -/
def pm10Breakpoints : List Breakpoint :=
  [⟨0, 54, 0, 50⟩, ⟨55, 154, 51, 100⟩, ⟨155, 254, 101, 150⟩, ⟨255, 354, 151, 200⟩, ⟨355, 424, 201, 300⟩,
    ⟨425, 604, 301, 500⟩]

def subIndex (concentration : ℚ) (breakpoints : List Breakpoint) : ℤ :=
  let bp := (breakpoints.find? (fun b => decide (concentration ≤ b.cHigh))).getD (breakpoints.getLastD ⟨0, 0, 0, 0⟩)
  let c := min (max concentration bp.cLow) bp.cHigh
  round ((bp.iHigh - bp.iLow) / (bp.cHigh - bp.cLow) * (c - bp.cLow) + bp.iLow)

/-- AQI sub-index of a PM2.5 concentration, truncated to 0.1 µg/m³. -/
def pm25ToAqi (pm25 : ℚ) : ℤ := subIndex (⌊max 0 pm25 * 10⌋ / 10) pm25Breakpoints

/-- AQI sub-index of a PM10 concentration, truncated to 1 µg/m³. -/
def pm10ToAqi (pm10 : ℚ) : ℤ := subIndex ⌊max 0 pm10⌋ pm10Breakpoints

/-- The overall AQI: the worse of the two particle sub-indices. -/
def particlesToAqi (pm25 pm10 : ℚ) : ℤ := max (pm25ToAqi pm25) (pm10ToAqi pm10)

end AirQuality.Dashboard
