import AirQuality.Dashboard.HttpService

/-!
# One neighbourhood on both sides

The dashboard groups sensors by `slugify` of their trimmed neighbourhood, and asks for the history of a group by its name, which the
API compares by `placeKey`. The two keys are the same but for names without a letter or a digit, which `slugify` files under
"unassigned".
-/

namespace AirQuality

open Dashboard

/-- `slugify` and `placeKey` mean the same place, as first stated: on names that are not blank they give equal keys together. -/
def SamePlaces (unicodeLower : String → String) (isWord : Char → Bool) (a b : String) : Prop :=
  slugify unicodeLower isWord a = slugify unicodeLower isWord b ↔
    placeKey unicodeLower isWord a = placeKey unicodeLower isWord b

/-- One of the names has no letter or digit, and the other is a spelling of "unassigned". -/
def Clash (unicodeLower : String → String) (isWord : Char → Bool) (a b : String) : Prop :=
  placeKey unicodeLower isWord a = "" ∧ placeKey unicodeLower isWord b = "unassigned" ∨
    placeKey unicodeLower isWord a = "unassigned" ∧ placeKey unicodeLower isWord b = ""

/-! ## The two keys -/

section

variable (unicodeLower : String → String) (isWord : Char → Bool)

theorem slugify_eq (s : String) : slugify unicodeLower isWord s =
    if placeKey unicodeLower isWord s = "" then "unassigned" else placeKey unicodeLower isWord s := rfl

@[simp] theorem placeKey_trim (s : String) : placeKey unicodeLower isWord (trim s) = placeKey unicodeLower isWord s := by
  rw [placeKey, trim_trim, placeKey]

@[simp] theorem slugify_trim (s : String) : slugify unicodeLower isWord (trim s) = slugify unicodeLower isWord s := by
  rw [slugify_eq, slugify_eq, placeKey_trim]

/-- A blank name has no key. -/
theorem placeKey_blank {s : String} (h : trim s = "") : placeKey unicodeLower isWord s = "" := by
  rw [placeKey, h]
  rfl

/-- The two keys tell two names apart together, unless they clash. -/
theorem samePlaces_iff (a b : String) : SamePlaces unicodeLower isWord a b ↔ ¬ Clash unicodeLower isWord a b := by
  rw [SamePlaces, Clash, slugify_eq, slugify_eq]
  grind

/-! ## Groups -/

/-- The name the dashboard has for the neighbourhood of a sensor. -/
def placeName (r : AirQuality.SensorRow) : Option String := (r.neighborhood.map trim).filter (fun name => decide (name ≠ ""))

/-- The active sensors of a group are those whose history the API selects for its name, in the order of the registry; ids are
compared as the dashboard does. -/
def SameSensors (rows : List AirQuality.SensorRow) (g : NeighborhoodSummary) : Prop :=
  (g.rows.filter (fun row => row.sensor.isActive)).map (fun row => row.sensor.id) =
    (historyDeviceIds unicodeLower isWord rows (some g.name)).map (key unicodeLower)

/-- No active sensor has a neighbourhood that the two sides compare differently with a name: one that clashes with it, or a blank
one while the name has no letter or digit. -/
def Unambiguous (rows : List AirQuality.SensorRow) (name : String) : Prop :=
  ∀ r ∈ rows, r.isActive = true → ∀ place, r.neighborhood = some place → place ≠ "" →
    (trim place ≠ "" → ¬ Clash unicodeLower isWord place name) ∧
      (trim place = "" → placeKey unicodeLower isWord name ≠ "")

variable {unicodeLower isWord}

theorem toSensor_neighborhood (arabicPlaceName : String → Option String) (r : AirQuality.SensorRow) :
    (toSensor unicodeLower isWord arabicPlaceName (sensorObject r)).neighborhood = placeName r := by
  cases hn : r.neighborhood <;> simp [toSensor, sensorObject, placeName, Field.ofOptional, Field.toOption, hn]

/-- The key of a sensor's neighbourhood, from its name. -/
theorem toSensor_neighborhoodId (arabicPlaceName : String → Option String) (r : AirQuality.SensorRow) :
    (toSensor unicodeLower isWord arabicPlaceName (sensorObject r)).neighborhoodId =
      slugify unicodeLower isWord ((placeName r).getD "") := by
  have h : (toSensor unicodeLower isWord arabicPlaceName (sensorObject r)).neighborhood = placeName r :=
    toSensor_neighborhood arabicPlaceName r
  simp only [toSensor] at h ⊢
  rw [h]

/-- The sensors a group has are the rows of the registry whose name has its key, and one of them gave it its name. -/
theorem mem_groups {arabicPlaceName : String → Option String} {rows : List AirQuality.SensorRow}
    {latest : String → Option Reading} {now : ℚ} {g : NeighborhoodSummary}
    (hg : g ∈ groupByNeighborhood (Dashboard.rows (getSensors unicodeLower isWord arabicPlaceName rows) latest now)) :
    g.id = slugify unicodeLower isWord g.name ∧ trim g.name ≠ "" ∧
      (g.rows.filter (fun row => row.sensor.isActive)).map (fun row => row.sensor.id) =
        (rows.filter (fun r => r.isActive && (placeName r).any (fun name => slugify unicodeLower isWord name == g.id))).map
          (fun r => key unicodeLower r.deviceId) := by
  obtain ⟨hne, hrows, hgname⟩ := mem_groupByNeighborhood hg
  rw [rows_getSensors] at hrows
  -- the first member gave the group its name
  obtain ⟨first, rest, hfirst⟩ := List.exists_cons_of_ne_nil hne
  have hin : first ∈ g.rows := hfirst ▸ List.mem_cons_self
  rw [hrows, List.mem_filter, List.mem_filter, List.mem_map] at hin
  obtain ⟨⟨⟨r, hr, rfl⟩, hname⟩, hkey⟩ := hin
  simp only [toSensor_neighborhood, toSensor_neighborhoodId, decide_eq_true_eq] at hname hkey
  obtain ⟨name, hplace, hnonempty⟩ := (Option.any_eq_true _ _).1 hname
  have htrim : trim name = name := by
    obtain ⟨hmap, -⟩ := Option.filter_eq_some_iff.1 hplace
    obtain ⟨place, -, rfl⟩ := Option.map_eq_some_iff.1 hmap
    exact trim_trim place
  have hgname : g.name = name := by
    rw [hgname, hfirst]
    simp [toSensor_neighborhood, hplace]
  rw [hplace] at hkey
  refine ⟨?_, ?_, ?_⟩
  · rw [hgname]
    exact hkey.symm
  · rw [hgname, htrim]
    exact of_decide_eq_true hnonempty
  · rw [hrows]
    simp only [List.filter_map, List.filter_filter, List.map_map, Function.comp_def, toSensor_neighborhood,
      toSensor_neighborhoodId]
    refine congrArg (List.map _) (List.filter_congr fun r _ => ?_)
    cases hp : placeName r with
    | none => simp
    | some name =>
      have hne : name ≠ "" := of_decide_eq_true (Option.filter_eq_some_iff.1 hp).2
      simp [hne, toSensor, sensorObject, beq_eq_decide]

/-- What `history` selects for a name that is not empty, by rows of the registry. -/
theorem historyDeviceIds_some {rows : List AirQuality.SensorRow} {name : String} (h : name ≠ "") :
    historyDeviceIds unicodeLower isWord rows (some name) =
      (rows.filter (fun r => r.isActive && (r.neighborhood.filter (fun place => decide (place ≠ ""))).any
        (fun place => placeKey unicodeLower isWord place == placeKey unicodeLower isWord name))).map (·.deviceId) := by
  unfold historyDeviceIds
  split
  · rename_i heq
    cases heq
  · rename_i heq
    exact absurd (Option.some.inj heq) h
  · rename_i heq
    obtain rfl := Option.some.inj heq
    rw [List.filter_filter]
    simp only [Bool.and_comm]

/-- A sensor of the registry is in a group and is selected for its name together, unless its neighbourhood is ambiguous. -/
theorem selected_iff (r : AirQuality.SensorRow) (name : String) :
    ((r.isActive && (placeName r).any (fun place => slugify unicodeLower isWord place == slugify unicodeLower isWord name)) =
      (r.isActive && (r.neighborhood.filter (fun place => decide (place ≠ ""))).any
        (fun place => placeKey unicodeLower isWord place == placeKey unicodeLower isWord name))) ↔
      (r.isActive = true → ∀ place, r.neighborhood = some place → place ≠ "" →
        (trim place ≠ "" → ¬ Clash unicodeLower isWord place name) ∧
          (trim place = "" → placeKey unicodeLower isWord name ≠ "")) := by
  cases hactive : r.isActive with
  | false => simp
  | true =>
    cases hplace : r.neighborhood with
    | none => simp [placeName, hplace]
    | some place =>
      by_cases hempty : place = ""
      · subst hempty
        have htrim : trim "" = "" := rfl
        simp [placeName, hplace, htrim, Option.filter]
      · by_cases hblank : trim place = ""
        · have hkey := placeKey_blank unicodeLower isWord hblank
          by_cases hnone : placeKey unicodeLower isWord name = ""
          · simp [placeName, hplace, hblank, hempty, Option.filter, hkey, hnone]
          · simp [placeName, hplace, hblank, hempty, Option.filter, hkey, hnone, Ne.symm hnone]
        · have hsame := samePlaces_iff unicodeLower isWord place name
          have hshown : placeName r = some (trim place) := by simp [placeName, hplace, hblank, Option.filter]
          have hkept : (some place).filter (fun place => decide (place ≠ "")) = some place := by simp [hempty, Option.filter]
          rw [hshown, hkept, Option.any_some, Option.any_some, Bool.true_and, Bool.true_and, slugify_trim, Bool.eq_iff_iff,
            beq_iff_eq, beq_iff_eq]
          refine hsame.trans ⟨fun hclash _ place' hplace' _ => ?_, fun h => (h rfl place rfl hempty).1 hblank⟩
          obtain rfl := Option.some.inj hplace'
          exact ⟨fun _ => hclash, fun hb => absurd hb hblank⟩

end

/-! ## The two sides -/

/-- Where the two sides mean the same sensors. In a registry whose DevEUIs are distinct whatever their case, for every latest
readings and every time:
1. the active sensors of a group are those whose history the API selects for its name exactly if no active sensor has a
   neighbourhood that is ambiguous with that name;
2. two names that are not blank have equal keys on both sides together exactly if they do not clash. -/
theorem same_sensors_iff (unicodeLower : String → String) (isWord : Char → Bool) (arabicPlaceName : String → Option String)
    (rows : List AirQuality.SensorRow) (hkeys : (rows.map (fun r => key unicodeLower r.deviceId)).Nodup)
    (latest : String → Option Reading) (now : ℚ) :
    (∀ g ∈ groupByNeighborhood (Dashboard.rows (getSensors unicodeLower isWord arabicPlaceName rows) latest now),
      SameSensors unicodeLower isWord rows g ↔ Unambiguous unicodeLower isWord rows g.name) ∧
    ∀ a b, trim a ≠ "" → trim b ≠ "" → (SamePlaces unicodeLower isWord a b ↔ ¬ Clash unicodeLower isWord a b) := by
  refine ⟨fun g hg => ?_, fun a b _ _ => samePlaces_iff unicodeLower isWord a b⟩
  obtain ⟨hid, hname, hsensors⟩ := mem_groups hg
  have hnonempty : g.name ≠ "" := by
    intro hempty
    rw [hempty] at hname
    exact hname rfl
  rw [SameSensors, hsensors, historyDeviceIds_some hnonempty, List.map_map, hid]
  refine (Table.map_filter_eq_iff hkeys _ _).trans ?_
  exact forall₂_congr fun r _ => selected_iff r g.name

/-! ## Unassigned and nameless places -/

/-- A registry with a place called "Unassigned" and one without a letter or digit. -/
def ambiguousRegistry : List AirQuality.SensorRow :=
  [registeredSensor "ab" (some "Unassigned") .active, registeredSensor "cd" (some "!!!") .active]

/-- The two sides do not mean the same sensors in general: the two places are one group, of which the API selects one sensor. -/
theorem same_sensors_false :
    ¬ ∀ g ∈ groupByNeighborhood (Dashboard.rows (getSensors id Char.isAlphanum (fun _ => none) ambiguousRegistry)
      (fun _ => none) 0), SameSensors id Char.isAlphanum ambiguousRegistry g := by
  unfold SameSensors
  decide +kernel

/-- A registry with two spellings of one place. -/
def spelledRegistry : List AirQuality.SensorRow :=
  [registeredSensor "ab" (some "El Mina") .active, registeredSensor "cd" (some " el-mina") .active]

/-- The spellings are one place for both sides. -/
theorem same_sensors_iff_spellings :
    (∀ g ∈ groupByNeighborhood (Dashboard.rows (getSensors id Char.isAlphanum (fun _ => none) spelledRegistry) (fun _ => none) 0),
      SameSensors id Char.isAlphanum spelledRegistry g) ∧ SamePlaces id Char.isAlphanum "El Mina" " el-mina" := by
  obtain ⟨hsensors, hplaces⟩ := same_sensors_iff id Char.isAlphanum (fun _ => none) spelledRegistry (by decide +kernel)
    (fun _ => none) 0
  have hclear : ∀ r ∈ spelledRegistry, ∀ place ∈ r.neighborhood,
      trim place ≠ "" ∧ placeKey id Char.isAlphanum place ≠ "" ∧ placeKey id Char.isAlphanum place ≠ "unassigned" := by
    decide +kernel
  refine ⟨?_, (hplaces "El Mina" " el-mina" (by decide +kernel) (by decide +kernel)).2 (by unfold Clash; decide +kernel)⟩
  intro g hg
  refine (hsensors g hg).2 ?_
  intro r hr _ place hplace _
  obtain ⟨htrim, hempty, hunassigned⟩ := hclear r hr place hplace
  refine ⟨fun _ => ?_, fun hblank => absurd hblank htrim⟩
  rintro (⟨hkey, -⟩ | ⟨hkey, -⟩)
  · exact hempty hkey
  · exact hunassigned hkey

end AirQuality
