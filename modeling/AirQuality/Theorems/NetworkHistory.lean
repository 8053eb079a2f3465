import AirQuality.Lib.Regroup
import AirQuality.Theorems.Devices
import Mathlib.Algebra.BigOperators.Field
import Mathlib.Algebra.Order.BigOperators.Group.Finset
import Mathlib.Algebra.Order.Field.Rat
import Mathlib.Order.Bounds.Basic

/-!
# The history of the network, from the readings

`GET /overview/history` takes means of the means that `readings_hourly` holds. Here it is said of the readings themselves, where that
view is up to date: which hours there are, how many devices and readings each counts, and that a device counts once however often it
sampled.
-/

namespace AirQuality

/-! ## The columns -/

/-- The columns that are averaged. -/
inductive Column where
  | pm25
  | pm10
  | temperature
  | humidity

def Column.raw : Column → ReadingPayload → ℚ
  | .pm25, p => p.reading.pm25
  | .pm10, p => p.reading.pm10
  | .temperature, p => p.reading.temperature
  | .humidity, p => p.reading.humidity

def Column.hourly : Column → HourlyBucket → ℚ
  | .pm25, b => b.avgPm25
  | .pm10, b => b.avgPm10
  | .temperature, b => b.avgTemperature
  | .humidity, b => b.avgHumidity

def Column.network : Column → NetworkHourlyBucket → ℚ
  | .pm25, e => e.avgPm25
  | .pm10, e => e.avgPm10
  | .temperature, e => e.avgTemperature
  | .humidity, e => e.avgHumidity

/-! ## An hour -/

/-- The readings of an hour, of certain devices. -/
def hourReadings (readings : List ReadingPayload) (ids : List String) (hour : ℤ) : List ReadingPayload :=
  readings.filter (fun p => decide (p.reading.deviceId ∈ ids) && decide (timeBucket p.reading.timestamp = hour))

/-- The devices that have readings among some. -/
def devicesOf (rows : List ReadingPayload) : Finset String := (rows.map (·.reading.deviceId)).toFinset

/-- The mean of a column over the readings of one device. -/
def sensorMean (c : Column) (rows : List ReadingPayload) (d : String) : ℚ :=
  avg ((rows.filter (fun p => decide (p.reading.deviceId = d))).map c.raw)

/-- The row of the view of a group of readings. -/
def hourlyBucket (k : String × ℤ) (rows : List ReadingPayload) : HourlyBucket where
  sensorId := k.1
  bucket := k.2
  avgPm25 := avg (rows.map (·.reading.pm25))
  avgPm10 := avg (rows.map (·.reading.pm10))
  avgTemperature := avg (rows.map (·.reading.temperature))
  avgHumidity := avg (rows.map (·.reading.humidity))
  maxAqi := maxOf (rows.map (·.aqi))
  sampleCount := rows.length

theorem hourly_hourlyBucket (c : Column) (k : String × ℤ) (rows : List ReadingPayload) :
    c.hourly (hourlyBucket k rows) = avg (rows.map c.raw) := by
  cases c <;> rfl

theorem readingsHourly_eq (readings : List ReadingPayload) :
    readingsHourly readings = (Table.groupBy hourKey readings).map (fun g => hourlyBucket g.1 g.2) := rfl

/-- The rows of the view of an hour and certain devices are those of the devices' readings in the hour. -/
theorem hour_perm (readings : List ReadingPayload) (ids : List String) (hour : ℤ) :
    ((readingsHourly readings).filter (fun b => decide (b.sensorId ∈ ids) && decide (b.bucket = hour))).Perm
      ((Table.groupBy (·.reading.deviceId) (hourReadings readings ids hour)).map (fun g => hourlyBucket (g.1, hour) g.2)) := by
  rw [readingsHourly_eq, List.filter_map]
  have hslice := Table.groupBy_slice_perm (fun p : ReadingPayload => p.reading.deviceId)
    (fun p => timeBucket p.reading.timestamp) (fun d => decide (d ∈ ids)) hour readings
  have hmap := hslice.map (fun g => hourlyBucket g.1 g.2)
  rw [List.map_map] at hmap
  exact hmap

/-! ## Means and greatest values -/

theorem avg_perm {xs ys : List ℚ} (h : xs.Perm ys) : avg xs = avg ys := by
  unfold avg
  rw [h.sum_eq, h.length_eq]

/-- A mean lies between bounds of the values. -/
theorem avg_mem_bounds {values : List ℚ} (hne : values ≠ []) {lo hi : ℚ} (h : ∀ v ∈ values, lo ≤ v ∧ v ≤ hi) :
    lo ≤ avg values ∧ avg values ≤ hi := by
  have hpos : (0 : ℚ) < values.length := by exact_mod_cast List.length_pos_of_ne_nil hne
  have hsum : values.length • lo ≤ values.sum ∧ values.sum ≤ values.length • hi :=
    ⟨values.card_nsmul_le_sum lo (fun v hv => (h v hv).1), values.sum_le_card_nsmul hi (fun v hv => (h v hv).2)⟩
  rw [nsmul_eq_mul, nsmul_eq_mul] at hsum
  unfold avg
  exact ⟨(le_div_iff₀ hpos).2 (by linarith [hsum.1]), (div_le_iff₀ hpos).2 (by linarith [hsum.2])⟩

theorem maxOf_isGreatest {values : List ℤ} (hne : values ≠ []) : IsGreatest {v | v ∈ values} (maxOf values) := by
  cases hmax : values.max? with
  | none => exact absurd (List.max?_eq_none_iff.1 hmax) hne
  | some m =>
    have hm := List.max?_eq_some_iff.1 hmax
    rw [maxOf, hmax]
    exact ⟨hm.1, hm.2⟩

theorem isGreatest_maxOf_map {α : Type} {xs : List α} (hne : xs ≠ []) (f : α → ℤ) :
    IsGreatest {v | ∃ x ∈ xs, f x = v} (maxOf (xs.map f)) := by
  have h := maxOf_isGreatest (mt List.map_eq_nil_iff.1 hne : xs.map f ≠ [])
  simpa only [List.mem_map] using h

/-! ## The bucket of an hour -/

/-- The bucket of the network that the rows of the view of one hour make. -/
def networkBucket (bucket : ℤ) (bs : List HourlyBucket) : NetworkHourlyBucket where
  bucket := bucket
  avgPm25 := avg (bs.map (·.avgPm25))
  avgPm10 := avg (bs.map (·.avgPm10))
  avgTemperature := avg (bs.map (·.avgTemperature))
  avgHumidity := avg (bs.map (·.avgHumidity))
  maxAqi := maxOf (bs.map (·.maxAqi))
  sensorCount := bs.length
  sampleCount := (bs.map (·.sampleCount)).sum

theorem network_networkBucket (c : Column) (bucket : ℤ) (bs : List HourlyBucket) :
    c.network (networkBucket bucket bs) = avg (bs.map c.hourly) := by
  cases c <;> rfl

/-- What a bucket of the network says of the readings of its hour. -/
structure BucketOk (rows : List ReadingPayload) (e : NetworkHourlyBucket) : Prop where
  sensorCount : e.sensorCount = (devicesOf rows).card
  sampleCount : e.sampleCount = rows.length
  maxAqi : IsGreatest {a | ∃ p ∈ rows, p.aqi = a} e.maxAqi
  mean : ∀ c : Column, c.network e = (∑ d ∈ devicesOf rows, sensorMean c rows d) / (devicesOf rows).card
  bounds : ∀ (c : Column) (lo hi : ℚ), (∀ p ∈ rows, lo ≤ c.raw p ∧ c.raw p ≤ hi) → lo ≤ c.network e ∧ c.network e ≤ hi

/-- A group of the readings by device has readings, all among the rows. -/
theorem group_readings {rows group : List ReadingPayload} {d : String}
    (h : (d, group) ∈ Table.groupBy (·.reading.deviceId) rows) : group ≠ [] ∧ ∀ p ∈ group, p ∈ rows := by
  obtain ⟨⟨p, hp, hd⟩, rfl⟩ := Table.mem_groupBy_iff.1 h
  refine ⟨List.ne_nil_of_mem (List.mem_filter.2 ⟨hp, decide_eq_true hd⟩), ?_⟩
  intro q hq
  exact (List.mem_filter.1 hq).1

/-- The bucket that the view's rows of an hour make says what it should of the hour's readings. -/
theorem networkBucket_ok {rows : List ReadingPayload} (hne : rows ≠ []) (hour : ℤ) {bs : List HourlyBucket}
    (hbs : bs.Perm ((Table.groupBy (·.reading.deviceId) rows).map (fun g => hourlyBucket (g.1, hour) g.2))) :
    BucketOk rows (networkBucket hour bs) := by
  have hgroups : Table.groupBy (·.reading.deviceId) rows ≠ [] := by
    obtain ⟨p, hp⟩ := List.exists_mem_of_ne_nil rows hne
    exact List.ne_nil_of_mem (Table.mem_groupBy_of_mem hp)
  have hbsne : bs ≠ [] := by
    intro hnil
    rw [hnil] at hbs
    exact hgroups (List.map_eq_nil_iff.1 hbs.nil_eq.symm)
  have hmem : ∀ b ∈ bs, ∃ d group, (d, group) ∈ Table.groupBy (·.reading.deviceId) rows ∧ b = hourlyBucket (d, hour) group := by
    intro b hb
    obtain ⟨⟨d, group⟩, hg, rfl⟩ := List.mem_map.1 (hbs.mem_iff.1 hb)
    exact ⟨d, group, hg, rfl⟩
  have hlength : bs.length = (devicesOf rows).card := by
    rw [hbs.length_eq, List.length_map, Table.length_groupBy]
    rfl
  refine ⟨hlength, ?_, ?_, ?_, ?_⟩
  · change (bs.map (·.sampleCount)).sum = rows.length
    rw [(hbs.map _).sum_eq, List.map_map]
    have hsum := Table.sum_groupBy (fun p : ReadingPayload => p.reading.deviceId) (fun _ => 1) rows
    simpa [Function.comp_def, hourlyBucket] using hsum
  · obtain ⟨⟨b, hb, hmax⟩, hle⟩ := isGreatest_maxOf_map hbsne (·.maxAqi)
    constructor
    · obtain ⟨d, group, hg, rfl⟩ := hmem b hb
      obtain ⟨hgne, hsub⟩ := group_readings hg
      obtain ⟨⟨p, hp, hpa⟩, -⟩ := isGreatest_maxOf_map hgne (·.aqi)
      exact ⟨p, hsub p hp, hpa.trans hmax⟩
    · rintro a ⟨p, hp, rfl⟩
      -- the reading is in the group of its device, whose greatest value is one of the bucket's
      have hg : (p.reading.deviceId, rows.filter (fun q => decide (q.reading.deviceId = p.reading.deviceId))) ∈
          Table.groupBy (·.reading.deviceId) rows := Table.mem_groupBy_of_mem hp
      have hin := hbs.mem_iff.2 (List.mem_map.2 ⟨_, hg, rfl⟩)
      refine le_trans ?_ (hle ⟨_, hin, rfl⟩)
      exact (isGreatest_maxOf_map (group_readings hg).1 (·.aqi)).2 ⟨p, List.mem_filter.2 ⟨hp, by simp⟩, rfl⟩
  · intro c
    rw [network_networkBucket, avg_perm (hbs.map c.hourly), List.map_map, avg, List.length_map, Table.length_groupBy]
    have hsum := Table.sum_groupBy_map (fun p : ReadingPayload => p.reading.deviceId) (fun _ group => avg (group.map c.raw)) rows
    refine congrArg₂ (· / ·) (Eq.trans (congrArg List.sum (List.map_congr_left ?_)) hsum) rfl
    intro g _
    exact hourly_hourlyBucket c _ _
  · intro c lo hi hbounds
    rw [network_networkBucket]
    refine avg_mem_bounds (mt List.map_eq_nil_iff.1 hbsne) ?_
    intro v hv
    obtain ⟨b, hb, rfl⟩ := List.mem_map.1 hv
    obtain ⟨d, group, hg, rfl⟩ := hmem b hb
    obtain ⟨hgne, hsub⟩ := group_readings hg
    rw [hourly_hourlyBucket]
    refine avg_mem_bounds (mt List.map_eq_nil_iff.1 hgne) ?_
    intro w hw
    obtain ⟨p, hp, rfl⟩ := List.mem_map.1 hw
    exact hbounds p (hsub p hp)

/-! ## The answer -/

/-- The history of a sensor is the rows of the view that are its, in the window. -/
theorem mem_sensorHistory_iff {readings : List ReadingPayload} {d : String} {now : ℤ} {days : Option ℤ} {b : HourlyBucket} :
    b ∈ sensorHistory (readingsHourly readings) d now days ↔
      b ∈ readingsHourly readings ∧ b.sensorId = d ∧ now - windowDays days * dayMs ≤ b.bucket := by
  rw [sensorHistory, List.mem_insertionSort, List.mem_filter, decide_eq_true_eq]

theorem hourly_eq_sensorMean {readings : List ReadingPayload} {b : HourlyBucket} (hb : b ∈ readingsHourly readings) {ids : List String}
    (hids : b.sensorId ∈ ids) (c : Column) : c.hourly b = sensorMean c (hourReadings readings ids b.bucket) b.sensorId := by
  rw [readingsHourly_eq] at hb
  obtain ⟨⟨⟨d, hour⟩, group⟩, hg, rfl⟩ := List.mem_map.1 hb
  obtain ⟨-, rfl⟩ := Table.mem_groupBy_iff.1 hg
  rw [hourly_hourlyBucket, sensorMean, hourReadings, List.filter_filter]
  congr 2
  refine List.filter_congr ?_
  intro p _
  change d ∈ ids at hids
  change decide ((p.reading.deviceId, timeBucket p.reading.timestamp) = (d, hour)) =
    (decide (p.reading.deviceId = d) && (decide (p.reading.deviceId ∈ ids) && decide (timeBucket p.reading.timestamp = hour)))
  by_cases hp : p.reading.deviceId = d
  · simp [hp, hids]
  · simp [hp]

/-- A device has readings in an hour of the window exactly if it is in scope and its own history has the hour. -/
theorem mem_devicesOf_iff {readings : List ReadingPayload} {ids : List String} {d : String} {now : ℤ} {days : Option ℤ} {hour : ℤ}
    (hwindow : now - windowDays days * dayMs ≤ hour) :
    d ∈ devicesOf (hourReadings readings ids hour) ↔
      d ∈ ids ∧ ∃ b ∈ sensorHistory (readingsHourly readings) d now days, b.bucket = hour := by
  rw [devicesOf, List.mem_toFinset, List.mem_map]
  constructor
  · rintro ⟨p, hp, rfl⟩
    obtain ⟨hread, hin⟩ := List.mem_filter.1 hp
    obtain ⟨hids, hh⟩ := Bool.and_eq_true _ _ ▸ hin
    obtain ⟨b, hb, hd, hbucket⟩ := exists_bucket_of_mem hread
    rw [of_decide_eq_true hh] at hbucket
    exact ⟨of_decide_eq_true hids, b, mem_sensorHistory_iff.2 ⟨hb, hd, hbucket ▸ hwindow⟩, hbucket⟩
  · rintro ⟨hids, b, hb, rfl⟩
    obtain ⟨hview, rfl, -⟩ := mem_sensorHistory_iff.1 hb
    obtain ⟨p, hp, hd, hh⟩ := exists_reading_of_mem hview
    refine ⟨p, List.mem_filter.2 ⟨hp, ?_⟩, hd⟩
    rw [hd, hh]
    simpa using hids

section

variable (unicodeLower : String → String) (isWord : Char → Bool)

/-- The buckets of the answer are those of the hours of the window that have readings in scope. -/
theorem mem_history_iff {rows : List SensorRow} {readings : List ReadingPayload} {now : ℤ} {days : Option ℤ}
    {neighborhood : Option String} {e : NetworkHourlyBucket} :
    let ids := historyDeviceIds unicodeLower isWord rows neighborhood
    e ∈ history unicodeLower isWord rows (readingsHourly readings) now days neighborhood ↔
      ∃ hour, now - windowDays days * dayMs ≤ hour ∧ hourReadings readings ids hour ≠ [] ∧
        e = networkBucket hour ((readingsHourly readings).filter (fun b => decide (b.sensorId ∈ ids) && decide (b.bucket = hour))) := by
  intro ids
  have hscope : ∀ hour, now - windowDays days * dayMs ≤ hour →
      (historyScope unicodeLower isWord rows (readingsHourly readings) now days neighborhood).filter (fun b => decide (b.bucket = hour)) =
        (readingsHourly readings).filter (fun b => decide (b.sensorId ∈ ids) && decide (b.bucket = hour)) := by
    intro hour hwindow
    rw [historyScope, List.filter_filter]
    refine List.filter_congr ?_
    intro b _
    by_cases hb : b.bucket = hour
    · subst hb
      simp [hwindow, ids]
    · simp [hb]
  unfold history
  rw [List.mem_insertionSort, List.mem_map]
  constructor
  · rintro ⟨⟨hour, bs⟩, hg, rfl⟩
    obtain ⟨⟨b, hb, rfl⟩, rfl⟩ := Table.mem_groupBy_iff.1 hg
    obtain ⟨hview, hin⟩ := List.mem_filter.1 hb
    obtain ⟨hwindow, hids⟩ := of_decide_eq_true hin
    obtain ⟨p, hp, hd, hh⟩ := exists_reading_of_mem hview
    refine ⟨b.bucket, hwindow, List.ne_nil_of_mem (List.mem_filter.2 ⟨hp, ?_⟩), by rw [← hscope _ hwindow]; rfl⟩
    rw [hd, hh]
    simpa using hids
  · rintro ⟨hour, hwindow, hne, rfl⟩
    obtain ⟨p, hp⟩ := List.exists_mem_of_ne_nil _ hne
    obtain ⟨hread, hin⟩ := List.mem_filter.1 hp
    obtain ⟨hids, hh⟩ := Bool.and_eq_true _ _ ▸ hin
    obtain ⟨b, hb, hd, hbucket⟩ := exists_bucket_of_mem hread
    refine ⟨(hour, _), Table.mem_groupBy_iff.2 ⟨⟨b, List.mem_filter.2 ⟨hb, decide_eq_true ⟨?_, ?_⟩⟩, ?_⟩, rfl⟩, ?_⟩
    · rw [hbucket, of_decide_eq_true hh]
      exact hwindow
    · rw [hd]
      exact of_decide_eq_true hids
    · rw [hbucket]
      exact of_decide_eq_true hh
    · rw [hscope hour hwindow]
      rfl

/-- The buckets come in order of time, each once. -/
theorem history_sorted (rows : List SensorRow) (hourly : List HourlyBucket) (now : ℤ) (days : Option ℤ)
    (neighborhood : Option String) :
    ((history unicodeLower isWord rows hourly now days neighborhood).map (·.bucket)).Pairwise (· < ·) := by
  unfold history
  generalize historyScope unicodeLower isWord rows hourly now days neighborhood = scope
  rw [List.pairwise_map]
  have hle := List.pairwise_insertionSort (fun a b : NetworkHourlyBucket => a.bucket ≤ b.bucket)
    ((Table.groupBy HourlyBucket.bucket scope).map (fun g => networkBucket g.1 g.2))
  have hne : (((Table.groupBy HourlyBucket.bucket scope).map (fun g => networkBucket g.1 g.2)).insertionSort
      (fun a b => a.bucket ≤ b.bucket)).Pairwise (fun a b => a.bucket ≠ b.bucket) := by
    refine List.pairwise_map.1 (?_ : List.Nodup _)
    refine ((List.perm_insertionSort _ _).map NetworkHourlyBucket.bucket).nodup_iff.2 ?_
    have hkeys : ((Table.groupBy HourlyBucket.bucket scope).map (fun g => networkBucket g.1 g.2)).map NetworkHourlyBucket.bucket =
        (scope.map HourlyBucket.bucket).dedup := by
      rw [Table.groupBy, List.map_map, List.map_map]
      exact List.map_id' _
    rw [hkeys]
    exact List.nodup_dedup _
  exact hle.imp₂ (fun a b hab hdiff => lt_of_le_of_ne hab hdiff) hne

/-- What `GET /overview/history` answers, whatever the registry and the readings, with `readings_hourly` up to date:
1. its hours are in order of time, each once;
2. they are the hours of the window in which a device in scope has a reading;
3. each counts the devices in scope that reported in it and their readings, has the greatest AQI among those, and for every column
   the mean over the devices of each one's mean, so that it lies between the least and the greatest reading;
4. the devices of an hour are those in scope whose own history has it, and the means that are averaged are those of their histories. -/
theorem network_history (rows : List SensorRow) (readings : List ReadingPayload) (now : ℤ) (days : Option ℤ)
    (neighborhood : Option String) :
    let ids := historyDeviceIds unicodeLower isWord rows neighborhood
    let answer := history unicodeLower isWord rows (readingsHourly readings) now days neighborhood
    (answer.map (·.bucket)).Pairwise (· < ·) ∧
    (∀ hour, hour ∈ answer.map (·.bucket) ↔
      now - windowDays days * dayMs ≤ hour ∧ ∃ p ∈ readings, p.reading.deviceId ∈ ids ∧ timeBucket p.reading.timestamp = hour) ∧
    (∀ e ∈ answer, BucketOk (hourReadings readings ids e.bucket) e) ∧
    ∀ e ∈ answer, ∀ d,
      (d ∈ devicesOf (hourReadings readings ids e.bucket) ↔
        d ∈ ids ∧ ∃ b ∈ sensorHistory (readingsHourly readings) d now days, b.bucket = e.bucket) ∧
      ∀ b ∈ sensorHistory (readingsHourly readings) d now days, d ∈ ids → b.bucket = e.bucket →
        ∀ c : Column, c.hourly b = sensorMean c (hourReadings readings ids e.bucket) d := by
  intro ids answer
  have hne : ∀ hour, hourReadings readings ids hour ≠ [] ↔
      ∃ p ∈ readings, p.reading.deviceId ∈ ids ∧ timeBucket p.reading.timestamp = hour := by
    intro hour
    rw [hourReadings, ne_eq, List.filter_eq_nil_iff]
    simp
  refine ⟨history_sorted unicodeLower isWord rows (readingsHourly readings) now days neighborhood, ?_, ?_, ?_⟩
  · intro hour
    rw [List.mem_map, ← hne]
    constructor
    · rintro ⟨e, he, rfl⟩
      obtain ⟨hour, hwindow, hread, rfl⟩ := (mem_history_iff unicodeLower isWord).1 he
      exact ⟨hwindow, hread⟩
    · rintro ⟨hwindow, hread⟩
      exact ⟨_, (mem_history_iff unicodeLower isWord).2 ⟨hour, hwindow, hread, rfl⟩, rfl⟩
  · intro e he
    obtain ⟨hour, -, hread, rfl⟩ := (mem_history_iff unicodeLower isWord).1 he
    exact networkBucket_ok hread hour (hour_perm readings ids hour)
  · intro e he d
    obtain ⟨hour, hwindow, -, rfl⟩ := (mem_history_iff unicodeLower isWord).1 he
    refine ⟨mem_devicesOf_iff hwindow, ?_⟩
    intro b hb hids hbucket c
    obtain ⟨hview, rfl, -⟩ := mem_sensorHistory_iff.1 hb
    have hmean := hourly_eq_sensorMean hview hids c
    rwa [hbucket] at hmean

end

end AirQuality
