import AirQuality.Dashboard.Export
import AirQuality.Lib.Csv

/-!
# Exported CSV can be read back

The text of an export, taken apart by a reader of the format, against the rows it was made of.
-/

namespace AirQuality.Dashboard

/-- The marks of the format in a text. -/
def csvMarks : Csv.Marks Char := { comma := ',', quote := '"', cr := '\r', lf := '\n', distinct := by decide }

/-- The records of a text, by RFC 4180. -/
def readCsv (text : String) : Option (List (List String)) :=
  (Csv.read csvMarks text.toList).map fun records => records.map fun record => record.map String.ofList

/-- The fields of a row under some headers. -/
def ExportRow.fields (js : JsText) (row : ExportRow) (headers : List String) : List String :=
  headers.map fun h => (row.get h).string js

/-! ## The text that is written -/

theorem toList_doubledQuotes (text : String) : (doubledQuotes text).toList = Csv.doubleQuotes csvMarks text.toList :=
  String.toList_ofList

theorem toList_csvField (js : JsText) (value : ExportValue) :
    (csvField js value).toList = Csv.writeField csvMarks (value.string js).toList := by
  have hplain : (value.string js).toList.any (fun c => decide (c = '"' ∨ c = ',' ∨ c = '\r' ∨ c = '\n')) = true ↔
      ¬Csv.Plain csvMarks (value.string js).toList := by
    simp only [List.any_eq_true, decide_eq_true_eq, Csv.Plain, Csv.Marks.Is, csvMarks, not_forall, not_not, exists_prop]
    refine exists_congr fun c => and_congr_right fun _ => ?_
    tauto
  rw [csvField, Csv.writeField]
  by_cases h : Csv.Plain csvMarks (value.string js).toList
  · rw [if_neg (fun hany => hplain.1 hany h), if_pos h]
  · rw [if_pos (hplain.2 h), if_neg h, String.toList_append, String.toList_append, toList_doubledQuotes]
    rfl

/-- The line of a row. -/
theorem toList_line (js : JsText) (row : ExportRow) (headers : List String) :
    (",".intercalate (headers.map fun h => csvField js (row.get h))).toList =
      Csv.writeRecord csvMarks ((row.fields js headers).map String.toList) := by
  rw [String.toList_intercalate, Csv.writeRecord, ExportRow.fields]
  simp only [List.map_map]
  congr 1
  exact List.map_congr_left fun h _ => toList_csvField js (row.get h)

/-- The first line, if no header needs quotes. -/
theorem toList_headers {headers : List String} (h : ∀ header ∈ headers, Csv.Plain csvMarks header.toList) :
    (",".intercalate headers).toList = Csv.writeRecord csvMarks (headers.map String.toList) := by
  rw [String.toList_intercalate, Csv.writeRecord, List.map_map]
  congr 1
  exact List.map_congr_left fun header hmem => (if_pos (h header hmem)).symm

/-- Rows whose headers need no quotes, and are at least two, are read back. -/
theorem readCsv_toCsv (js : JsText) {first : ExportRow} {rest : List ExportRow}
    (hplain : ∀ header ∈ first.keys, Csv.Plain csvMarks header.toList) (htwo : 2 ≤ first.keys.length) :
    readCsv (toCsv js (first :: rest)) =
      some (first.keys :: (first :: rest).map fun row => row.fields js first.keys) := by
  have hwrite : (toCsv js (first :: rest)).toList = Csv.write csvMarks
      ((first.keys :: (first :: rest).map fun row => row.fields js first.keys).map fun record => record.map String.toList) := by
    rw [toCsv, String.toList_intercalate, Csv.write]
    simp only [List.map_cons, List.map_map, toList_headers hplain, toList_line]
    congr 3
    exact List.map_congr_left fun row _ => toList_line js row first.keys
  have hlength : ∀ record ∈ (first.keys :: (first :: rest).map fun row => row.fields js first.keys), 2 ≤ record.length := by
    rw [List.forall_mem_cons, List.forall_mem_map]
    exact ⟨htwo, fun row _ => by rwa [ExportRow.fields, List.length_map]⟩
  generalize (first.keys :: (first :: rest).map fun row => row.fields js first.keys) = records at hwrite hlength ⊢
  rw [readCsv, hwrite, Csv.read_write csvMarks]
  · simp [Function.comp_def, String.ofList_toList]
  · rw [List.forall_mem_map]
    intro record hmem hnil
    have hle := hlength record hmem
    simp_all
  · intro hlast
    obtain ⟨record, hmem, hempty⟩ := List.mem_map.1 (List.mem_of_getLast? hlast)
    have hle := hlength record hmem
    rw [← List.length_map (f := String.toList), hempty] at hle
    simp at hle

/-! ## The rows of a download -/

/-- The properties of a row of readings, and of a row of hourly points. -/
def readingHeaders : List String :=
  ["device_id", "sensor", "neighborhood", "latitude", "longitude", "time", "aqi", "pm25_ugm3", "pm10_ugm3", "temperature_c",
    "humidity_percent", "pressure_hpa", "battery_mv", "signal_dbm"]

def hourlyHeaders : List String :=
  ["device_id", "sensor", "neighborhood", "latitude", "longitude", "hour_start", "avg_pm25_ugm3", "avg_pm10_ugm3",
    "avg_temperature_c", "avg_humidity_percent", "max_aqi", "samples"]

/-- What a row for a sensor's data has for properties. -/
def Fetched.headers : Fetched → List String
  | .readings _ => readingHeaders
  | .hourly _ => hourlyHeaders

theorem keys_of_mem_rows {js : JsText} {sensor : Sensor} {fetched : Fetched} {row : ExportRow}
    (h : row ∈ fetched.rows js sensor) : row.keys = fetched.headers := by
  cases fetched with
  | readings rs =>
    obtain ⟨r, -, rfl⟩ := List.mem_map.1 h
    rfl
  | hourly ps =>
    obtain ⟨p, -, rfl⟩ := List.mem_map.1 h
    rfl

theorem readingHeaders_spec :
    (∀ header ∈ readingHeaders, Csv.Plain csvMarks header.toList) ∧ 2 ≤ readingHeaders.length ∧ readingHeaders.Nodup := by
  decide

theorem hourlyHeaders_spec :
    (∀ header ∈ hourlyHeaders, Csv.Plain csvMarks header.toList) ∧ 2 ≤ hourlyHeaders.length ∧ hourlyHeaders.Nodup := by
  decide

/-- No header needs quotes, there are two at least, and none comes twice. -/
theorem headers_spec (fetched : Fetched) :
    (∀ header ∈ fetched.headers, Csv.Plain csvMarks header.toList) ∧ 2 ≤ fetched.headers.length ∧ fetched.headers.Nodup := by
  cases fetched with
  | readings rs => exact readingHeaders_spec
  | hourly ps => exact hourlyHeaders_spec

theorem get_of_mem {row : ExportRow} (hkeys : row.keys.Nodup) {p : String × ExportValue} (h : p ∈ row) : row.get p.1 = p.2 := by
  induction row with
  | nil => cases h
  | cons q row ih =>
    rw [ExportRow.keys, List.map_cons, List.nodup_cons] at hkeys
    rcases List.mem_cons.1 h with rfl | h
    · rw [ExportRow.get, List.lookup_cons_self]
      rfl
    · have hne : p.1 ≠ q.1 := fun heq => hkeys.1 (List.mem_map.2 ⟨p, h, heq⟩)
      rw [← ih hkeys.2 h, ExportRow.get, ExportRow.get, List.lookup_cons, beq_eq_false_iff_ne.2 hne]

/-- Under its own keys, a row has its values. -/
theorem fields_keys (js : JsText) {row : ExportRow} (hkeys : row.keys.Nodup) :
    row.fields js row.keys = row.map fun p => p.2.string js := by
  rw [ExportRow.fields, ExportRow.keys, List.map_map]
  exact List.map_congr_left fun p hp => by rw [Function.comp_apply, get_of_mem hkeys hp]

/-- All sensors' data is of one kind. -/
def OneKind (perSensor : List (Sensor × Fetched)) : Prop :=
  (∀ p ∈ perSensor, ∃ rs, p.2 = .readings rs) ∨ ∀ p ∈ perSensor, ∃ ps, p.2 = .hourly ps

theorem OneKind.headers_eq {perSensor : List (Sensor × Fetched)} (h : OneKind perSensor) {p q : Sensor × Fetched}
    (hp : p ∈ perSensor) (hq : q ∈ perSensor) : p.2.headers = q.2.headers := by
  rcases h with h | h
  · obtain ⟨rs, hrs⟩ := h p hp
    obtain ⟨rs', hrs'⟩ := h q hq
    rw [hrs, hrs']
    rfl
  · obtain ⟨ps, hps⟩ := h p hp
    obtain ⟨ps', hps'⟩ := h q hq
    rw [hps, hps']
    rfl

/-- A reading or an hourly point. -/
inductive DataPoint where
  | reading (r : Reading)
  | hour (p : HourlyPoint)

/-- What was fetched, one by one. -/
def Fetched.points : Fetched → List DataPoint
  | .readings rs => rs.map .reading
  | .hourly ps => ps.map .hour

/-- The texts of a sensor that stand in each of its rows. -/
def sensorTexts (js : JsText) (sensor : Sensor) : List String :=
  [sensor.id, sensor.name, sensor.neighborhood.getD "", js.ofNumber sensor.latitude, js.ofNumber sensor.longitude]

/-- The texts of the row of one reading, or of one hourly point; nothing stands for a value that is not there. -/
def DataPoint.texts (js : JsText) (sensor : Sensor) : DataPoint → List String
  | .reading r => sensorTexts js sensor ++
      [js.toISOString r.time, js.ofNumber r.aqi, js.ofNumber r.pm25, js.ofNumber r.pm10, js.ofNumber r.temperature,
        js.ofNumber r.humidity, (r.pressure.map js.ofNumber).getD "", (r.batteryMv.map js.ofNumber).getD "",
        (r.signalStrength.map js.ofNumber).getD ""]
  | .hour p => sensorTexts js sensor ++
      [js.toISOString p.time, js.ofNumber p.pm25, js.ofNumber p.pm10, js.ofNumber p.temperature, js.ofNumber p.humidity,
        js.ofNumber p.maxAqi, js.ofNumber p.samples]

@[simp] theorem string_text (js : JsText) (s : String) : (ExportValue.text s).string js = s := rfl

@[simp] theorem string_number (js : JsText) (x : ℚ) : (ExportValue.number x).string js = js.ofNumber x := rfl

@[simp] theorem string_numberOrEmpty (js : JsText) (value : Option ℚ) :
    (numberOrEmpty value).string js = (value.map js.ofNumber).getD "" := by
  cases value with
  | none => rfl
  | some x => rfl

/-- One row for each reading or point of a sensor, in order, with its texts. -/
theorem rows_texts (js : JsText) (sensor : Sensor) (fetched : Fetched) :
    (fetched.rows js sensor).map (fun row => row.map fun p => p.2.string js) = fetched.points.map (DataPoint.texts js sensor) := by
  cases fetched with
  | readings rs =>
    simp only [Fetched.rows, Fetched.points, readingRows, List.map_map]
    refine List.map_congr_left fun r _ => ?_
    simp [sensorColumns, sensorTexts, DataPoint.texts]
  | hourly ps =>
    simp only [Fetched.rows, Fetched.points, hourlyRows, List.map_map]
    refine List.map_congr_left fun p _ => ?_
    simp [sensorColumns, sensorTexts, DataPoint.texts]

/-- One row for each reading or point of a download, in order, with its texts. -/
theorem downloadRows_texts (js : JsText) (perSensor : List (Sensor × Fetched)) :
    (downloadRows js perSensor).map (fun row => row.map fun p => p.2.string js) =
      perSensor.flatMap fun p => p.2.points.map (DataPoint.texts js p.1) := by
  rw [downloadRows, List.map_flatMap]
  exact List.flatMap_congr fun p _ => rows_texts js p.1 p.2

/-- A download that has a reading or a point has a row. -/
theorem downloadRows_ne_nil (js : JsText) {perSensor : List (Sensor × Fetched)} (h : ∃ p ∈ perSensor, p.2.points ≠ []) :
    downloadRows js perSensor ≠ [] := by
  obtain ⟨p, hp, hpoints⟩ := h
  intro hnil
  have htexts := downloadRows_texts js perSensor
  rw [hnil, List.map_nil, eq_comm, List.flatMap_eq_nil_iff] at htexts
  exact hpoints (List.map_eq_nil_iff.1 (htexts p hp))

/-- The CSV of a download that fetched anything is read back as one header record, the keys of the first row, and one record for each
row, with the values of the row under the headers and as many fields. There is one row for each reading or hourly point, in order,
with its values. If all sensors' data is of one kind, the headers are those of the kind and the records are these values. -/
theorem csv_read_back (js : JsText) (perSensor : List (Sensor × Fetched)) (hne : ∃ p ∈ perSensor, p.2.points ≠ []) :
    ∃ headers, (downloadRows js perSensor).head?.map ExportRow.keys = some headers ∧
      readCsv (toCsv js (downloadRows js perSensor)) =
        some (headers :: (downloadRows js perSensor).map fun row => row.fields js headers) ∧
      (∀ row ∈ downloadRows js perSensor, (row.fields js headers).length = headers.length) ∧
      ((downloadRows js perSensor).map fun row => row.map fun p => p.2.string js) =
        perSensor.flatMap (fun p => p.2.points.map (DataPoint.texts js p.1)) ∧
      (OneKind perSensor → (∀ p ∈ perSensor, p.2.headers = headers) ∧
        (∀ row ∈ downloadRows js perSensor, row.keys = headers ∧ row.fields js headers = row.map fun p => p.2.string js) ∧
        readCsv (toCsv js (downloadRows js perSensor)) =
          some (headers :: perSensor.flatMap fun p => p.2.points.map (DataPoint.texts js p.1))) := by
  have hmem : ∀ row ∈ downloadRows js perSensor, ∃ p ∈ perSensor, row.keys = p.2.headers := by
    intro row hrow
    obtain ⟨p, hp, hrow⟩ := List.mem_flatMap.1 hrow
    exact ⟨p, hp, keys_of_mem_rows hrow⟩
  obtain ⟨first, rest, hrows⟩ := List.exists_cons_of_ne_nil (downloadRows_ne_nil js hne)
  obtain ⟨p, hp, hfirst⟩ := hmem first (by rw [hrows]; exact List.mem_cons_self)
  have hread : readCsv (toCsv js (downloadRows js perSensor)) =
      some (first.keys :: (downloadRows js perSensor).map fun row => row.fields js first.keys) := by
    rw [hrows]
    obtain ⟨hplain, htwo, -⟩ := headers_spec p.2
    exact readCsv_toCsv js (hfirst ▸ hplain) (hfirst ▸ htwo)
  refine ⟨first.keys, by rw [hrows]; rfl, hread, fun row _ => List.length_map _, downloadRows_texts js perSensor, ?_⟩
  intro hkind
  have hfields : ∀ row ∈ downloadRows js perSensor,
      row.keys = first.keys ∧ row.fields js first.keys = row.map fun p => p.2.string js := by
    intro row hrow
    obtain ⟨q, hq, hkeys⟩ := hmem row hrow
    have heq : row.keys = first.keys := by rw [hkeys, hfirst, hkind.headers_eq hq hp]
    exact ⟨heq, heq ▸ fields_keys js (hkeys ▸ (headers_spec q.2).2.2)⟩
  refine ⟨fun q hq => (hkind.headers_eq hq hp).trans hfirst.symm, hfields, ?_⟩
  rw [hread, ← downloadRows_texts]
  congr 2
  exact List.map_congr_left fun row hrow => (hfields row hrow).2

/-- A sensor whose name holds every mark of the format. -/
def quotedSensor : Sensor where
  id := "ab"
  name := "Roof, \"A\"\r\n"
  nameAr := none
  neighborhood := none
  neighborhoodAr := none
  neighborhoodId := "unassigned"
  latitude := 34
  longitude := 36
  isActive := true
  installDate := none

/-- Whole numbers, and the first millisecond. -/
def epochText : JsText := { ofNumber := fun x => toString x.num, toISOString := fun _ => "1970-01-01T00:00:00.000Z" }

/-- A reading of it, after a sensor that has none, gives the header record and its own. -/
theorem csv_read_back_quoted :
    readCsv (toCsv epochText (downloadRows epochText [(quotedSensor, .readings []), (quotedSensor, .readings [readingAt "ab" 0])])) =
      some [readingHeaders, ["ab", "Roof, \"A\"\r\n", "", "34", "36", "1970-01-01T00:00:00.000Z", "40", "10", "20", "20", "50", "", "",
        ""]] := by
  obtain ⟨headers, -, -, -, -, hkind⟩ := csv_read_back epochText
    [(quotedSensor, .readings []), (quotedSensor, .readings [readingAt "ab" 0])]
    ⟨_, List.mem_cons_of_mem _ List.mem_cons_self, List.cons_ne_nil _ _⟩
  obtain ⟨hheaders, -, hread⟩ := hkind (Or.inl (by simp))
  obtain rfl : readingHeaders = headers := hheaders _ List.mem_cons_self
  rw [hread]
  rfl

end AirQuality.Dashboard
