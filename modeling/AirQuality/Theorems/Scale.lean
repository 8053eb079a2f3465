import AirQuality.Dashboard.Aqi
import AirQuality.Ingestion.Uplink
import AirQuality.Theorems.Aqi

/-!
# One scale on both sides

The dashboard's copy of the breakpoint tables and of the categories against those of the server.
-/

namespace AirQuality

/-- The name the dashboard has for a category of the server. -/
def AqiCategory.shownAs : AqiCategory → Dashboard.AqiCategoryId
  | .good => .good
  | .moderate => .moderate
  | .unhealthySensitive => .sensitive
  | .unhealthy => .unhealthy
  | .veryUnhealthy => .veryUnhealthy
  | .hazardous => .hazardous

/-- The position of a category in the order, from 1. -/
def AqiCategory.position (category : AqiCategory) : Nat := aqiCategories.idxOf category + 1

/-! ## The index -/

theorem pm25ToAqi_eq (pm25 : ℚ) : Dashboard.pm25ToAqi pm25 = subIndex pm25 pm25Breakpoints truncPm25 := rfl

theorem pm10ToAqi_eq (pm10 : ℚ) : Dashboard.pm10ToAqi pm10 = subIndex pm10 pm10Breakpoints truncPm10 := rfl

theorem particlesToAqi_eq (pm25 pm10 : ℚ) : Dashboard.particlesToAqi pm25 pm10 = (calculateAqi pm25 pm10).aqi := by
  rw [Dashboard.particlesToAqi, pm25ToAqi_eq, pm10ToAqi_eq]
  rfl

/-! ## The categories -/

/-- The lookup of the dashboard, as one in a table of bands. -/
theorem aqiCategory_eq_lookup (aqi : ℚ) (d : Dashboard.AqiCategory) :
    Dashboard.aqiCategory aqi = Bands.lookup Dashboard.AqiCategory.max d aqi Dashboard.aqiCategories := rfl

/-- The two categories of an integer are the same one, at its position. -/
theorem aqiCategory_shown (aqi : ℤ) :
    Dashboard.aqiCategory aqi ∈ Dashboard.aqiCategories ∧ (Dashboard.aqiCategory aqi).id = (aqiCategory aqi).shownAs ∧
      (Dashboard.aqiCategory aqi).level = (aqiCategory aqi).position := by
  refine ⟨?_, ?_⟩
  · unfold Dashboard.aqiCategory
    cases h : Dashboard.aqiCategories.find? _ with
    | none => exact List.getLast_mem (List.cons_ne_nil _ _)
    | some category => exact List.mem_of_find?_eq_some h
  rw [aqiCategory_eq_lookup aqi (Dashboard.aqiCategory aqi)]
  -- a limit reaches an integer on the dashboard exactly when it does on the server
  have h50 : (aqi : ℚ) ≤ 50 ↔ aqi ≤ 50 := by norm_cast
  have h100 : (aqi : ℚ) ≤ 100 ↔ aqi ≤ 100 := by norm_cast
  have h150 : (aqi : ℚ) ≤ 150 ↔ aqi ≤ 150 := by norm_cast
  have h200 : (aqi : ℚ) ≤ 200 ↔ aqi ≤ 200 := by norm_cast
  have h300 : (aqi : ℚ) ≤ 300 ↔ aqi ≤ 300 := by norm_cast
  simp only [Dashboard.aqiCategories, Bands.lookup_cons, h50, h100, h150, h200, h300, aqiCategory, reduceCtorEq, or_false,
    or_true, if_true]
  split_ifs <;> decide

/-! ## What is shown of a reading -/

/-- The category of a reading that ingestion stores is that of its AQI. -/
theorem handleUplink_category {dateParse : String → Option ℤ} {now : ℤ} {message : Option ChirpStackUplink}
    {p : ReadingPayload} (h : handleUplink dateParse now message = .reading p) : p.aqiCategory = aqiCategory p.aqi := by
  unfold handleUplink at h
  split at h
  · nomatch h
  · unfold handleConfigReport handleTelemetry at h
    grind [calculateAqi]

/-- One AQI scale:
1. for all concentrations, the dashboard computes the AQI of the server;
2. for every integer, the level of the dashboard's category is the position of the server's;
3. the colours and the name the dashboard shows for a reading that ingestion stores are those of the category stored with it. -/
theorem one_aqi_scale :
    (∀ pm25 pm10 : ℚ, Dashboard.particlesToAqi pm25 pm10 = (calculateAqi pm25 pm10).aqi) ∧
    (∀ aqi : ℤ, (Dashboard.aqiCategory aqi).level = (aqiCategory aqi).position) ∧
    ∀ (dateParse : String → Option ℤ) (now : ℤ) (message : Option ChirpStackUplink) (p : ReadingPayload),
      handleUplink dateParse now message = .reading p →
      ∃ category ∈ Dashboard.aqiCategories, category.id = p.aqiCategory.shownAs ∧ category.level = p.aqiCategory.position ∧
        Dashboard.aqiSolid (some (p.aqi : ℚ)) = category.solid ∧ Dashboard.aqiOnSolid (some (p.aqi : ℚ)) = category.onSolid ∧
        (∀ theme, Dashboard.aqiText (some (p.aqi : ℚ)) theme = category.text theme) ∧
        Dashboard.aqiName (some (p.aqi : ℚ)) = "aqi.names." ++ p.aqiCategory.shownAs.key := by
  refine ⟨particlesToAqi_eq, fun aqi => (aqiCategory_shown aqi).2.2, fun dateParse now message p hp => ?_⟩
  obtain ⟨hmem, hid, hlevel⟩ := aqiCategory_shown p.aqi
  rw [← handleUplink_category hp] at hid hlevel
  exact ⟨_, hmem, hid, hlevel, rfl, rfl, fun _ => rfl, by rw [← hid]; rfl⟩

/-- The sample: an AQI of 53, stored as moderate and shown as moderate. -/
theorem one_aqi_scale_sample : ∃ category ∈ Dashboard.aqiCategories, category.id = .moderate ∧ category.level = 2 := by
  obtain ⟨category, hmem, hid, hlevel, -⟩ := one_aqi_scale.2.2 (fun _ => none) 0 (some ChirpStackUplink.sample)
    ⟨⟨"eeeeeeee00000001", 0, 10, 20, 25, 50, 1013, 3900, none⟩, 53, .moderate⟩ (by decide +kernel)
  exact ⟨category, hmem, hid, hlevel⟩

end AirQuality
