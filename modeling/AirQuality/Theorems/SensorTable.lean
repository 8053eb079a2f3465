import AirQuality.Dashboard.SensorTable
import Mathlib.Data.String.Basic

/-!
# The rows of the sensor table

Whatever the reader does with its controls and whatever comes in, the table is the rows that match the search, in the order of the
chosen column, with those that have no value there behind. A live reading moves no row but its own, and a search takes rows away and
moves none.
-/

namespace AirQuality.Dashboard

open StableSort

variable (text : TableText)

/-! ## The comparison -/

/-- The order of the values of a column; none has both numbers and texts. -/
def valueLe (descending : Bool) : SortValue → SortValue → Bool
  | .number x, .number y => if descending = true then decide (y ≤ x) else decide (x ≤ y)
  | .text x, .text y => if descending = true then text.collation.le y x else text.collation.le x y
  | .number _, .text _ => true
  | .text _, .number _ => false

/-- The order of the rows in a column, with the missing values last. -/
def rowLe (key : SortKey) (descending : Bool) : SensorRow → SensorRow → Bool :=
  missingLast (valueLe text descending) (accessor text key)

theorem valueLe_order (descending : Bool) : TotalPreorder (valueLe text descending) := by
  have htrans := text.collation.order.trans
  have htotal := text.collation.order.total
  refine ⟨?_, ?_⟩
  · intro a b c hab hbc
    cases a with
    | number x =>
      cases c with
      | text z => rfl
      | number z =>
        cases b with
        | text y => cases hbc
        | number y =>
          cases descending with
          | false => exact decide_eq_true ((of_decide_eq_true hab).trans (of_decide_eq_true hbc))
          | true => exact decide_eq_true ((of_decide_eq_true hbc).trans (of_decide_eq_true hab))
    | text x =>
      cases b with
      | number y => cases hab
      | text y =>
        cases c with
        | number z => cases hbc
        | text z =>
          cases descending with
          | false => exact htrans x y z hab hbc
          | true => exact htrans z y x hbc hab
  · intro a b
    cases a with
    | number x =>
      cases b with
      | text y => rfl
      | number y =>
        cases descending with
        | false => exact Bool.or_eq_true_iff.2 ((le_total x y).imp (fun h => decide_eq_true h) (fun h => decide_eq_true h))
        | true => exact Bool.or_eq_true_iff.2 ((le_total y x).imp (fun h => decide_eq_true h) (fun h => decide_eq_true h))
    | text x =>
      cases b with
      | number y => rfl
      | text y =>
        cases descending with
        | false => exact htotal x y
        | true => exact htotal y x

theorem rowLe_order (key : SortKey) (descending : Bool) : TotalPreorder (rowLe text key descending) :=
  missingLast_order (valueLe_order text descending)

variable {text}

/-- Two values of one kind. -/
def SameKind : SortValue → SortValue → Prop
  | .number _, .number _ | .text _, .text _ => True
  | _, _ => False

/-- The values of a column are of one kind. -/
theorem accessor_sameKind (key : SortKey) {a b : SensorRow} {x y : SortValue} (hx : accessor text key a = some x)
    (hy : accessor text key b = some y) : SameKind x y := by
  have honline : ∀ {row : SensorRow} {value : Reading → ℚ} {v : SortValue}, onlineValue row value = some v → ∃ q, v = .number q := by
    intro row value v h
    unfold onlineValue at h
    split_ifs at h
    obtain ⟨r, -, rfl⟩ := Option.map_eq_some_iff.1 h
    exact ⟨_, rfl⟩
  have hmapped : ∀ {α : Type} {o : Option α} {f : α → ℚ} {v : SortValue}, o.map (fun r => SortValue.number (f r)) = some v →
      ∃ q, v = .number q := by
    intro α o f v h
    obtain ⟨r, -, rfl⟩ := Option.map_eq_some_iff.1 h
    exact ⟨_, rfl⟩
  have hnumbers : (∃ q, x = .number q) → (∃ q, y = .number q) → SameKind x y := by
    rintro ⟨q, rfl⟩ ⟨q', rfl⟩
    trivial
  cases key with
  | name =>
    obtain rfl := Option.some.inj hx
    obtain rfl := Option.some.inj hy
    trivial
  | place =>
    obtain rfl := Option.some.inj hx
    obtain rfl := Option.some.inj hy
    trivial
  | battery => exact hnumbers (hmapped (f := id) hx) (hmapped (f := id) hy)
  | signal => exact hnumbers (hmapped (f := id) hx) (hmapped (f := id) hy)
  | seen => exact hnumbers (hmapped hx) (hmapped hy)
  | status => exact hnumbers ⟨_, (Option.some.inj hx).symm⟩ ⟨_, (Option.some.inj hy).symm⟩
  | _ => exact hnumbers (honline hx) (honline hy)

theorem localeCompare_le_zero {c : Collation} {x y : String} : c.localeCompare x y ≤ 0 ↔ c.le x y = true := by
  unfold Collation.localeCompare
  split_ifs with hxy hyx
  · simp [hxy]
  · simp [hxy]
  · simp [hxy]

theorem localeCompare_nonneg {c : Collation} {x y : String} : 0 ≤ c.localeCompare x y ↔ c.le y x = true := by
  have htotal := c.order.total x y
  unfold Collation.localeCompare
  split_ifs with hxy hyx
  · simp [hyx]
  · simp [hyx]
  · rw [Bool.eq_false_iff.2 hxy, Bool.false_or] at htotal
    simp [htotal]

/-- The comparison of two values of a kind is their order. -/
theorem compareRows_le_iff (key : SortKey) (descending : Bool) (a b : SensorRow) :
    decide (compareRows text (accessor text key) descending a b ≤ 0) = rowLe text key descending a b := by
  unfold compareRows rowLe missingLast
  cases hx : accessor text key a with
  | none => cases accessor text key b <;> simp
  | some x =>
    cases hy : accessor text key b with
    | none => simp
    | some y =>
      have hkind := accessor_sameKind key hx hy
      cases x with
      | number x =>
        cases y with
        | text y => exact absurd hkind id
        | number y => cases descending <;> simp [valueLe]
      | text x =>
        cases y with
        | number y => exact absurd hkind id
        | text y =>
          cases descending with
          | false => simp [valueLe, SortValue.string, localeCompare_le_zero]
          | true => simp [valueLe, SortValue.string, localeCompare_nonneg]

theorem sortedRows_eq (rows : List SensorRow) (key : SortKey) (descending : Bool) :
    sortedRows text rows (accessor text key) descending = rows.mergeSort (rowLe text key descending) := by
  unfold sortedRows
  congr 1
  funext a b
  exact compareRows_le_iff key descending a b

/-! ## What is shown -/

variable (text) in
/-- A row that the search leaves in. -/
def SensorTable.keeps (s : SensorTable) (row : SensorRow) : Bool :=
  decide (s.needle text = "") || SensorTable.hit text (s.needle text) row

theorem keeps_of_needle {s : SensorTable} (h : s.needle text = "") : s.keeps text = fun _ => true := by
  funext row
  unfold SensorTable.keeps
  rw [decide_eq_true h, Bool.true_or]

theorem filtered_eq (s : SensorTable) : s.filtered text = s.props.rows.filter (s.keeps text) := by
  unfold SensorTable.filtered
  by_cases hneedle : s.needle text = ""
  · rw [if_pos hneedle, keeps_of_needle hneedle, List.filter_true]
  · have hkeeps : s.keeps text = SensorTable.hit text (s.needle text) := by
      funext row
      unfold SensorTable.keeps
      rw [decide_eq_false hneedle, Bool.false_or]
    rw [if_neg hneedle, hkeeps]

/-- Nothing is searched for once the text is empty. -/
theorem needle_search_empty (s : SensorTable) : (s.step (.search "")).needle text = "" := by
  have htrim : trim "" = "" := by simp [trim]
  change toLowerCase text.unicodeLower (trim "") = ""
  rw [htrim]
  simp [toLowerCase, asciiLower]

/-- Searching is choosing from the sorted rows. -/
theorem sorted_eq_filter (s : SensorTable) :
    s.sorted text = (s.props.rows.mergeSort (rowLe text s.key s.descending)).filter (s.keeps text) := by
  unfold SensorTable.sorted
  rw [sortedRows_eq, filtered_eq, mergeSort_filter (rowLe_order text s.key s.descending)]

/-- The rows with a value, sorted, and then those without, as they come. -/
theorem sorted_eq_append (s : SensorTable) :
    ∃ known, IsStableSort (rowLe text s.key s.descending) known
        ((s.filtered text).filter (fun row => (accessor text s.key row).isSome)) ∧
      s.sorted text = known ++ (s.filtered text).filter (fun row => !(accessor text s.key row).isSome) := by
  refine ⟨_, isStableSort_mergeSort (rowLe_order text s.key s.descending) _, ?_⟩
  unfold SensorTable.sorted
  rw [sortedRows_eq]
  exact mergeSort_missingLast (valueLe_order text s.descending) _

/-- New rows that are the old ones but for some move only these. -/
theorem sorted_rows (s : SensorTable) {rows : List SensorRow} {p : SensorRow → Bool}
    (h : rows.filter p = s.props.rows.filter p) :
    ((s.step (.rows rows)).sorted text).filter p = (s.sorted text).filter p := by
  have horder := rowLe_order text s.key s.descending
  have hchosen := congrArg (fun l => (l.mergeSort (rowLe text s.key s.descending)).filter (s.keeps text)) h
  rw [← mergeSort_filter horder, ← mergeSort_filter horder, List.filter_comm, List.filter_comm _ p] at hchosen
  rw [sorted_eq_filter, sorted_eq_filter]
  exact hchosen

theorem visible_prefix (s : SensorTable) :
    s.visible text = (s.sorted text).take (s.visible text).length ∧
      (s.props.limit = 0 ∨ s.showAll = true ∨ trim s.query ≠ "" → s.hiddenCount text = 0) ∧
      (s.props.limit ≠ 0 → (s.visible text).length = min s.props.limit (s.sorted text).length ∨ s.hiddenCount text = 0) := by
  unfold SensorTable.hiddenCount SensorTable.visible
  split_ifs with hshort
  · refine ⟨?_, ?_, ?_⟩
    · rw [List.length_take, List.take_eq_take_iff]
      omega
    · rintro (hlimit | hall | hquery)
      · exact absurd hlimit hshort.1
      · exact absurd hall (by rw [hshort.2.1]; exact Bool.false_ne_true)
      · exact absurd hshort.2.2 hquery
    · intro _
      exact Or.inl (List.length_take ..)
  · exact ⟨(List.take_length).symm, fun _ => Nat.sub_self _, fun _ => Or.inr (Nat.sub_self _)⟩

/-! ## Every run -/

/-- The table has the columns it was set up with, and is sorted by one of them. -/
structure TableInv (props : TableProps) (s : SensorTable) : Prop where
  variant : s.props.variant = props.variant
  hidePlace : s.props.hidePlace = props.hidePlace
  limit : s.props.limit = props.limit
  key : s.key ∈ columns props.variant props.hidePlace

theorem tableInv_init (props : TableProps) : TableInv props (SensorTable.init props) := by
  refine ⟨rfl, rfl, rfl, ?_⟩
  unfold SensorTable.init columns
  cases props.variant <;> simp

theorem tableInv_step {props : TableProps} {s : SensorTable} (h : TableInv props s) (e : TableEvent) :
    TableInv props (s.step e) := by
  have hcolumns : ∀ {i : Nat} {key : SortKey}, (columns s.props.variant s.props.hidePlace)[i]? = some key →
      key ∈ columns props.variant props.hidePlace := by
    intro i key hi
    rw [h.variant, h.hidePlace] at hi
    exact List.mem_of_getElem? hi
  cases e with
  | rows rows => exact ⟨h.variant, h.hidePlace, h.limit, h.key⟩
  | search query => exact ⟨h.variant, h.hidePlace, h.limit, h.key⟩
  | turn => exact ⟨h.variant, h.hidePlace, h.limit, h.key⟩
  | showAll => exact ⟨h.variant, h.hidePlace, h.limit, h.key⟩
  | header i =>
    cases hi : (columns s.props.variant s.props.hidePlace)[i]? with
    | none =>
      simp only [SensorTable.step, hi]
      exact h
    | some key =>
      simp only [SensorTable.step, hi, SensorTable.toggle]
      split_ifs with hkey
      · exact ⟨h.variant, h.hidePlace, h.limit, h.key⟩
      · exact ⟨h.variant, h.hidePlace, h.limit, hcolumns hi⟩
  | choose i =>
    cases hi : (columns s.props.variant s.props.hidePlace)[i]? with
    | none =>
      simp only [SensorTable.step, hi]
      exact h
    | some key =>
      simp only [SensorTable.step, hi, SensorTable.set]
      exact ⟨h.variant, h.hidePlace, h.limit, hcolumns hi⟩

/-- In every run of the table: exactly one of its columns is marked as the one it is sorted by; the rows are those the search leaves
in, those with a value in that column in its order, with ties as they come, and then those without; what is shown is the front of
that, and all of it in a search, after "show all" and without a limit; a search takes rows out of the sorted table and moves none; and
new rows move only those that changed. -/
theorem table_rows (text : TableText) (props : TableProps) (es : List TableEvent) :
    let s := tableMachine.run (SensorTable.init props) es
    (∃! k, k ∈ columns props.variant props.hidePlace ∧ s.ariaSort k ≠ .none) ∧
      (∃ known, IsStableSort (rowLe text s.key s.descending) known
          ((s.filtered text).filter (fun row => (accessor text s.key row).isSome)) ∧
        s.sorted text = known ++ (s.filtered text).filter (fun row => !(accessor text s.key row).isSome)) ∧
      (s.visible text = (s.sorted text).take (s.visible text).length ∧
        (props.limit = 0 ∨ s.showAll = true ∨ trim s.query ≠ "" → s.hiddenCount text = 0) ∧
        (props.limit ≠ 0 → (s.visible text).length = min props.limit (s.sorted text).length ∨ s.hiddenCount text = 0)) ∧
      s.sorted text = ((s.step (.search "")).sorted text).filter (s.keeps text) ∧
      ∀ rows p, rows.filter p = s.props.rows.filter p →
        ((s.step (.rows rows)).sorted text).filter p = (s.sorted text).filter p := by
  intro s
  have hinv : TableInv props s := by
    have hstep : ∀ (s : SensorTable) e, TableInv props s → TableInv props (s.step e) := fun s e h => tableInv_step h e
    exact tableMachine.run_inv hstep (tableInv_init props) es
  refine ⟨⟨s.key, ⟨hinv.key, ?_⟩, ?_⟩, sorted_eq_append s, hinv.limit ▸ visible_prefix s, ?_, fun rows p => sorted_rows s⟩
  · unfold SensorTable.ariaSort
    cases s.descending <;> simp
  · rintro k ⟨-, hk⟩
    by_contra hne
    exact hk (if_pos (Ne.symm hne))
  · rw [sorted_eq_filter, sorted_eq_filter, keeps_of_needle (needle_search_empty s), List.filter_true]
    rfl

/-! ## A table with ties and missing values -/

/-- Texts by their characters, whatever their case. -/
def caselessCollation : Collation where
  le x y := decide (x.toList.map Char.toLower ≤ y.toList.map Char.toLower)
  order := by
    refine ⟨?_, ?_⟩
    · intro a b c hab hbc
      exact decide_eq_true (le_trans (of_decide_eq_true hab) (of_decide_eq_true hbc))
    · intro a b
      rw [Bool.or_eq_true, decide_eq_true_eq, decide_eq_true_eq]
      exact le_total _ _

/-- A page in English. -/
def plainText : TableText where
  unicodeLower := id
  ofNumber := fun x => toString x.num
  collation := caselessCollation
  isRtl := false
  unassigned := "Unassigned"

/-- A sensor on a roof, and what it last measured. -/
def roof (id name : String) (aqi : Option ℚ) : SensorRow where
  sensor :=
    { id, name, nameAr := none, neighborhood := none, neighborhoodAr := none, neighborhoodId := "unassigned", latitude := 34
      longitude := 36, isActive := true, installDate := none }
  reading := aqi.map fun aqi => { readingAt id 0 with aqi }
  status := if aqi.isSome = true then .online else .offline

/-- Two roofs with the same AQI, one that is silent between them, and the worst air last. -/
def roofs : TableProps where
  rows := [roof "a" "North roof" (some 40), roof "b" "Silent roof" none, roof "c" "South roof" (some 40), roof "d" "Tower" (some 80)]
  variant := .air
  hidePlace := true
  limit := 0

/-- Sorted by the AQI, up and then down again, the worst air is first, the two that tie are as they were, and the silent roof is last. -/
theorem table_rows_roofs :
    (tableMachine.run (SensorTable.init roofs) [.header 1, .choose 1]).sorted plainText =
      [roof "d" "Tower" (some 80), roof "a" "North roof" (some 40), roof "c" "South roof" (some 40), roof "b" "Silent roof" none] := by
  obtain ⟨-, ⟨known, hknown, hsorted⟩, -⟩ := table_rows plainText roofs [.header 1, .choose 1]
  rw [hsorted]
  have h : IsStableSort (rowLe plainText .aqi true)
      [roof "d" "Tower" (some 80), roof "a" "North roof" (some 40), roof "c" "South roof" (some 40)]
      [roof "a" "North roof" (some 40), roof "c" "South roof" (some 40), roof "d" "Tower" (some 80)] := by
    rw [← eq_mergeSort_iff (rowLe_order plainText .aqi true)]
    have hac : rowLe plainText .aqi true (roof "a" "North roof" (some 40)) (roof "c" "South roof" (some 40)) = true := by decide
    have had : rowLe plainText .aqi true (roof "a" "North roof" (some 40)) (roof "d" "Tower" (some 80)) = false := by decide
    simp [List.mergeSort, hac, had]
  rw [hknown.unique (rowLe_order plainText .aqi true) h]
  rfl

end AirQuality.Dashboard
