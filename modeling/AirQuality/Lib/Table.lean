import Mathlib.Data.List.Basic
import Mathlib.Data.List.Dedup
import Mathlib.Data.List.Induction
import Mathlib.Data.List.Nodup
import Mathlib.Data.List.Perm.Subperm

/-!
# Tables with a unique column

A table is a list of rows in the order they came, and `key` is a column with a unique constraint. `Table.insertNew` is an insert
that does nothing on a conflict, `Table.updateWhere` an update of the row with a key, `Table.upsert` an insert that updates on a
conflict. All three keep the constraint and take no row away. `Table.groupBy` is a query's GROUP BY: each key there is, once, with
its rows.
-/

namespace Table

variable {α β κ : Type*} [DecidableEq κ] (key : α → κ)

/-- Insert a row, unless its key is there. -/
def insertNew (rows : List α) (row : α) : List α := if key row ∈ rows.map key then rows else rows ++ [row]

/-- Change the rows with a key. -/
def updateWhere (k : κ) (f : α → α) (rows : List α) : List α := rows.map (fun r => if key r = k then f r else r)

/-- Insert a row, or change the row that has its key. -/
def upsert (f : α → α → α) (rows : List α) (row : α) : List α :=
  if key row ∈ rows.map key then updateWhere key (key row) (f row) rows else rows ++ [row]

variable {key}

/-! ## Inserting -/

theorem insertNew_of_mem {rows : List α} {row : α} (h : key row ∈ rows.map key) : insertNew key rows row = rows := if_pos h

theorem insertNew_of_not_mem {rows : List α} {row : α} (h : key row ∉ rows.map key) :
    insertNew key rows row = rows ++ [row] := if_neg h

/-- An insert leaves the rows as they are exactly if the key is there. -/
theorem insertNew_eq_self_iff {rows : List α} {row : α} : insertNew key rows row = rows ↔ key row ∈ rows.map key := by
  constructor
  · intro h
    by_contra hrow
    rw [insertNew_of_not_mem hrow] at h
    exact List.cons_ne_nil row [] (List.append_right_eq_self.1 h)
  · exact insertNew_of_mem

/-- After an insert the key of the row is there, and every key that was. -/
theorem mem_insertNew_iff {rows : List α} {row : α} {k : κ} :
    k ∈ (insertNew key rows row).map key ↔ k ∈ rows.map key ∨ k = key row := by
  by_cases h : key row ∈ rows.map key
  · rw [insertNew_of_mem h]
    constructor
    · exact Or.inl
    · intro hk
      rcases hk with hk | rfl
      · exact hk
      · exact h
  · rw [insertNew_of_not_mem h, List.map_append, List.mem_append]
    simp

omit [DecidableEq κ] in
theorem nodup_append_row {rows : List α} {row : α} (h : (rows.map key).Nodup) (hrow : key row ∉ rows.map key) :
    ((rows ++ [row]).map key).Nodup := by
  rw [List.map_append, List.map_singleton, List.nodup_append]
  refine ⟨h, List.pairwise_singleton _ _, ?_⟩
  intro a ha b hb hab
  rw [List.mem_singleton.1 hb] at hab
  rw [hab] at ha
  exact hrow ha

theorem nodup_insertNew {rows : List α} (h : (rows.map key).Nodup) (row : α) :
    ((insertNew key rows row).map key).Nodup := by
  by_cases hrow : key row ∈ rows.map key
  · rwa [insertNew_of_mem hrow]
  · rw [insertNew_of_not_mem hrow]
    exact nodup_append_row h hrow

/-! ## Changing rows -/

/-- A column that the change leaves alone is as it was. -/
theorem map_updateWhere {k : κ} {f : α → α} {g : α → β} (hg : ∀ r, g (f r) = g r) (rows : List α) :
    (updateWhere key k f rows).map g = rows.map g := by
  rw [updateWhere, List.map_map]
  refine List.map_congr_left ?_
  intro r _
  simp only [Function.comp]
  split_ifs
  · exact hg r
  · rfl

theorem forall_updateWhere {P : α → Prop} {rows : List α} (h : ∀ r ∈ rows, P r) {f : α → α} (hf : ∀ r, P r → P (f r))
    (k : κ) : ∀ r ∈ updateWhere key k f rows, P r := by
  intro r hr
  obtain ⟨a, ha, rfl⟩ := List.mem_map.1 hr
  split_ifs
  · exact hf a (h a ha)
  · exact h a ha

/-- Only the rows with the key have to be looked at. -/
theorem forall_updateWhere_of_key {P : α → Prop} {rows : List α} (h : ∀ r ∈ rows, P r) {k : κ} {f : α → α}
    (hf : ∀ r, P r → key r = k → P (f r)) : ∀ r ∈ updateWhere key k f rows, P r := by
  intro r hr
  obtain ⟨a, ha, rfl⟩ := List.mem_map.1 hr
  split_ifs with hkey
  · exact hf a (h a ha) hkey
  · exact h a ha

/-- Row by row: the row with the key is changed, every other stays. -/
theorem getElem?_updateWhere (k : κ) (f : α → α) (rows : List α) (j : ℕ) :
    (updateWhere key k f rows)[j]? = rows[j]?.map (fun r => if key r = k then f r else r) := List.getElem?_map

/-- In a table whose keys are distinct one row at most is changed. -/
theorem updateWhere_single {rows : List α} (hkeys : (rows.map key).Nodup) {j : ℕ} {row : α} (hj : rows[j]? = some row)
    (f : α → α) :
    (updateWhere key (key row) f rows)[j]? = some (f row) ∧
      ∀ i, i ≠ j → (updateWhere key (key row) f rows)[i]? = rows[i]? := by
  refine ⟨?_, ?_⟩
  · rw [getElem?_updateWhere, hj, Option.map_some, if_pos rfl]
  · intro i hij
    rw [getElem?_updateWhere]
    cases hi : rows[i]? with
    | none => rfl
    | some r =>
      have hne : key r ≠ key row := by
        intro heq
        have hlt : i < (rows.map key).length := by
          rw [List.length_map]
          exact (List.getElem?_eq_some_iff.1 hi).1
        have hsame : (rows.map key)[i]? = (rows.map key)[j]? := by
          rw [List.getElem?_map, List.getElem?_map, hi, hj, Option.map_some, Option.map_some, heq]
        exact hij ((List.getElem?_inj hlt hkeys).1 hsame)
      rw [Option.map_some, if_neg hne]

omit [DecidableEq κ] in
/-- In a table whose keys are distinct, two selections have the same keys exactly if they select the same rows. -/
theorem map_filter_eq_iff {rows : List α} (hkeys : (rows.map key).Nodup) (p q : α → Bool) :
    (rows.filter p).map key = (rows.filter q).map key ↔ ∀ r ∈ rows, p r = q r := by
  have hinj : ∀ a ∈ rows, ∀ b ∈ rows, key a = key b → a = b := fun a ha b hb => List.inj_on_of_nodup_map hkeys ha hb
  have hsub : ∀ {p q : α → Bool}, (rows.filter p).map key = (rows.filter q).map key → ∀ r ∈ rows, p r = true → q r = true := by
    intro p q h r hr hp
    have hmem : key r ∈ (rows.filter q).map key := h ▸ List.mem_map.2 ⟨r, List.mem_filter.2 ⟨hr, hp⟩, rfl⟩
    obtain ⟨b, hb, hkey⟩ := List.mem_map.1 hmem
    obtain ⟨hbrows, hq⟩ := List.mem_filter.1 hb
    rwa [hinj b hbrows r hr hkey] at hq
  constructor
  · intro h r hr
    exact Bool.eq_iff_iff.2 ⟨hsub h r hr, hsub h.symm r hr⟩
  · intro h
    rw [List.filter_congr h]

/-- A row stays where another takes a place that is not its own. -/
theorem mem_set_of_ne {rows : List α} {i : ℕ} {r : α} (h : r ∈ rows) (hi : rows[i]? ≠ some r) (r' : α) : r ∈ rows.set i r' := by
  obtain ⟨j, hj⟩ := List.getElem?_of_mem h
  have hij : i ≠ j := by
    rintro rfl
    exact hi hj
  exact List.mem_of_getElem? ((List.getElem?_set_ne hij).trans hj)

/-! ## Inserting or changing -/

theorem nodup_upsert {f : α → α → α} (hf : ∀ row r, key (f row r) = key r) {rows : List α} (h : (rows.map key).Nodup)
    (row : α) : ((upsert key f rows row).map key).Nodup := by
  unfold upsert
  split_ifs with hrow
  · rwa [map_updateWhere (hf row)]
  · exact nodup_append_row h hrow

variable (key) in
/-- The rows with other keys stay. -/
theorem mem_upsert_of_ne {f : α → α → α} (hf : ∀ row r, key (f row r) = key r) {rows : List α} {row r : α}
    (h : key r ≠ key row) : r ∈ upsert key f rows row ↔ r ∈ rows := by
  unfold upsert
  split_ifs
  · rw [updateWhere, List.mem_map]
    constructor
    · rintro ⟨old, hold, rfl⟩
      split_ifs at h ⊢ with hkey
      · exact absurd ((hf row old).trans hkey) h
      · exact hold
    · exact fun hr => ⟨r, hr, if_neg h⟩
  · rw [List.mem_append, List.mem_singleton]
    exact or_iff_left (fun hr => h (congrArg key hr))

variable (key) in
/-- A row with the key is one that was there, changed, or the row itself if the key is new. -/
theorem mem_upsert_of_eq {f : α → α → α} {rows : List α} {row r : α} (h : key r = key row) :
    r ∈ upsert key f rows row ↔
      (∃ old ∈ rows, key old = key row ∧ r = f row old) ∨ key row ∉ rows.map key ∧ r = row := by
  unfold upsert
  split_ifs with hmem
  · rw [updateWhere, List.mem_map, or_iff_left (fun hr => hr.1 hmem)]
    refine exists_congr (fun old => and_congr_right (fun _ => ?_))
    by_cases hkey : key old = key row
    · rw [if_pos hkey, and_iff_right hkey, eq_comm]
    · rw [if_neg hkey]
      exact iff_of_false (fun hr => hkey (hr ▸ h)) (fun hr => hkey hr.1)
  · have hnone : ¬ ∃ old ∈ rows, key old = key row ∧ r = f row old :=
      fun ⟨old, hold, hkey, _⟩ => hmem (List.mem_map.2 ⟨old, hold, hkey⟩)
    have hold : r ∉ rows := fun hr => hmem (List.mem_map.2 ⟨r, hr, h⟩)
    rw [or_iff_right hnone, and_iff_right hmem, List.mem_append, List.mem_singleton, or_iff_right hold]

theorem forall_upsert {P : α → Prop} {f : α → α → α} {rows : List α} {row : α} (h : ∀ r ∈ rows, P r) (hrow : P row)
    (hf : ∀ r, P r → P (f row r)) : ∀ r ∈ upsert key f rows row, P r := by
  unfold upsert
  split_ifs
  · exact forall_updateWhere h hf _
  · intro r hr
    rcases List.mem_append.1 hr with hr | hr
    · exact h r hr
    · rw [List.mem_singleton.1 hr]
      exact hrow

theorem forall_upsert_of_key {P : α → Prop} {f : α → α → α} {rows : List α} {row : α} (h : ∀ r ∈ rows, P r) (hrow : P row)
    (hf : ∀ r, P r → key r = key row → P (f row r)) : ∀ r ∈ upsert key f rows row, P r := by
  unfold upsert
  split_ifs
  · exact forall_updateWhere_of_key h hf
  · intro r hr
    rcases List.mem_append.1 hr with hr | hr
    · exact h r hr
    · rw [List.mem_singleton.1 hr]
      exact hrow

/-! ## No row is taken away -/

/-- Every row of the one table is in the other, at its place, with the same `g`. -/
def Kept (g : α → β) (rows rows' : List α) : Prop := rows.map g <+: rows'.map g

theorem Kept.refl (g : α → β) (rows : List α) : Kept g rows rows := List.prefix_refl _

theorem Kept.trans {g : α → β} {rows rows' rows'' : List α} (h : Kept g rows rows') (h' : Kept g rows' rows'') :
    Kept g rows rows'' := List.IsPrefix.trans h h'

theorem kept_append (g : α → β) (rows more : List α) : Kept g rows (rows ++ more) := by
  rw [Kept, List.map_append]
  exact List.prefix_append _ _

theorem kept_updateWhere {g : α → β} {f : α → α} (hg : ∀ r, g (f r) = g r) (k : κ) (rows : List α) :
    Kept g rows (updateWhere key k f rows) := by
  have hmap : (updateWhere key k f rows).map g = rows.map g := map_updateWhere hg rows
  exact ⟨[], by rw [List.append_nil, hmap]⟩

theorem kept_upsert {g : α → β} {f : α → α → α} (hg : ∀ row r, g (f row r) = g r) (rows : List α) (row : α) :
    Kept g rows (upsert key f rows row) := by
  unfold upsert
  split_ifs
  · exact kept_updateWhere (hg row) _ rows
  · exact kept_append g rows [row]

/-! ## Grouping -/

variable (key) in
/-- GROUP BY: each key, with its rows. -/
def groupBy (rows : List α) : List (κ × List α) :=
  (rows.map key).dedup.map (fun k => (k, rows.filter (fun r => decide (key r = k))))

/-- There is a group of every key that some row has, and it has the rows of the key. -/
theorem mem_groupBy_iff {rows group : List α} {k : κ} :
    (k, group) ∈ groupBy key rows ↔ (∃ r ∈ rows, key r = k) ∧ group = rows.filter (fun r => decide (key r = k)) := by
  rw [groupBy, List.mem_map]
  constructor
  · intro h
    obtain ⟨k', hk', heq⟩ := h
    obtain ⟨rfl, rfl⟩ := Prod.mk.inj heq
    exact ⟨List.mem_map.1 (List.mem_dedup.1 hk'), rfl⟩
  · intro h
    obtain ⟨hk, rfl⟩ := h
    exact ⟨k, List.mem_dedup.2 (List.mem_map.2 hk), rfl⟩

/-- A row is in the group of its key. -/
theorem mem_groupBy_of_mem {rows : List α} {r : α} (h : r ∈ rows) :
    (key r, rows.filter (fun r' => decide (key r' = key r))) ∈ groupBy key rows :=
  mem_groupBy_iff.2 ⟨⟨r, h, rfl⟩, rfl⟩

/-- There are no more groups than distinct keys of a table that has them all. -/
theorem length_groupBy_le {rows : List α} {ks : List κ} (h : ∀ r ∈ rows, key r ∈ ks) :
    (groupBy key rows).length ≤ ks.dedup.length := by
  have hsub : (rows.map key).dedup ⊆ ks.dedup := by
    intro k hk
    obtain ⟨r, hr, rfl⟩ := List.mem_map.1 (List.mem_dedup.1 hk)
    exact List.mem_dedup.2 (h r hr)
  rw [groupBy, List.length_map]
  exact (List.subperm_of_subset (List.nodup_dedup _) hsub).length_le

/-! ## Grouping in order -/

variable (key) in
/-- Grouping row by row: a row joins the group of its key, or starts one behind those that are there. -/
def collect (rows : List α) : List (κ × List α) :=
  rows.foldl (fun groups row => upsert Prod.fst (fun new old => (old.1, old.2 ++ new.2)) groups (key row, [row])) []

theorem collect_concat (rows : List α) (row : α) :
    collect key (rows ++ [row]) =
      upsert Prod.fst (fun new old => (old.1, old.2 ++ new.2)) (collect key rows) (key row, [row]) := by
  rw [collect, List.foldl_append]
  rfl

/-- There is a group of every key that some row has, and it has the rows of the key in their order. -/
theorem mem_collect_iff {rows group : List α} {k : κ} :
    (k, group) ∈ collect key rows ↔ group ≠ [] ∧ group = rows.filter (fun r => decide (key r = k)) := by
  induction rows using List.reverseRecOn generalizing k group with
  | nil => exact ⟨nofun, fun h => absurd h.2 h.1⟩
  | append_singleton rows row ih =>
    rw [collect_concat, List.filter_append]
    by_cases hk : k = key row
    · subst hk
      refine Iff.trans (mem_upsert_of_eq Prod.fst rfl) ?_
      rw [List.filter_singleton, decide_eq_true rfl, cond_true]
      constructor
      · rintro (⟨⟨k', old⟩, hold, rfl, heq⟩ | ⟨hnew, heq⟩)
        · obtain rfl := congrArg Prod.snd heq
          exact ⟨by simp, by rw [← (ih.1 hold).2]⟩
        · obtain rfl := congrArg Prod.snd heq
          -- no group yet, so no row of the key
          have hnil : rows.filter (fun r => decide (key r = key row)) = [] := by
            by_contra hne
            exact hnew (List.mem_map.2 ⟨_, ih.2 ⟨hne, rfl⟩, rfl⟩)
          exact ⟨by simp, by rw [hnil, List.nil_append]⟩
      · rintro ⟨-, rfl⟩
        by_cases hnil : rows.filter (fun r => decide (key r = key row)) = []
        · refine Or.inr ⟨fun hmem => ?_, by rw [hnil, List.nil_append]⟩
          obtain ⟨⟨k', old⟩, hold, rfl⟩ := List.mem_map.1 hmem
          exact (ih.1 hold).1 ((ih.1 hold).2.trans hnil)
        · exact Or.inl ⟨_, ih.2 ⟨hnil, rfl⟩, rfl, rfl⟩
    · have hne : decide (key row = k) = false := decide_eq_false (fun h => hk h.symm)
      have hfst : ∀ new old : κ × List α, (old.1, old.2 ++ new.2).1 = old.1 := fun _ _ => rfl
      refine Iff.trans (mem_upsert_of_ne Prod.fst hfst hk) ?_
      rw [List.filter_singleton, hne, cond_false, List.append_nil, ih]

end Table
