import AirQuality.Lib.Table
import Mathlib.Algebra.BigOperators.Group.Finset.Piecewise

/-!
# Grouping twice

What is grouped by two columns and then by the second of them can be had at once: the groups that share a value of the second column
are the groups, by the first, of the rows with that value (`Table.groupBy_slice_perm`). So a sum over groups is the sum over the rows
(`Table.sum_groupBy`), and there are as many groups as keys (`Table.length_groupBy`).
-/

namespace Table

variable {α κ μ M : Type*} [DecidableEq κ] [DecidableEq μ] {key : α → κ}

theorem nodup_groupBy (key : α → κ) (rows : List α) : (groupBy key rows).Nodup := by
  unfold groupBy
  refine (List.nodup_dedup _).map ?_
  intro k k' h
  exact congrArg Prod.fst h

theorem length_groupBy (key : α → κ) (rows : List α) : (groupBy key rows).length = (rows.map key).toFinset.card := by
  rw [groupBy, List.length_map, List.card_toFinset]

/-- The groups with a value in the second column are the groups by the first column of the rows that have it. -/
theorem groupBy_slice_perm (a : α → κ) (b : α → μ) (p : κ → Bool) (m : μ) (rows : List α) :
    ((groupBy (fun r => (a r, b r)) rows).filter (fun g => p g.1.1 && decide (g.1.2 = m))).Perm
      ((groupBy a (rows.filter (fun r => p (a r) && decide (b r = m)))).map (fun g => ((g.1, m), g.2))) := by
  have hinj : Function.Injective (fun g : κ × List α => ((g.1, m), g.2)) := by
    intro g g' h
    obtain ⟨h1, h2⟩ := Prod.mk.inj h
    exact Prod.ext (Prod.mk.inj h1).1 h2
  refine (List.perm_ext_iff_of_nodup ((nodup_groupBy _ rows).filter _) ((nodup_groupBy a _).map hinj)).2 ?_
  rintro ⟨⟨k, m'⟩, group⟩
  rw [List.mem_filter, mem_groupBy_iff, List.mem_map]
  constructor
  · rintro ⟨⟨⟨r, hr, hkey⟩, hgroup⟩, hp⟩
    obtain ⟨rfl, rfl⟩ := Prod.mk.inj hkey
    obtain ⟨hpk, hm⟩ := Bool.and_eq_true _ _ ▸ hp
    obtain rfl := of_decide_eq_true hm
    refine ⟨(a r, group), mem_groupBy_iff.2 ⟨⟨r, List.mem_filter.2 ⟨hr, by simpa using hpk⟩, rfl⟩, ?_⟩, rfl⟩
    rw [hgroup, List.filter_filter]
    refine List.filter_congr ?_
    intro x _
    by_cases hx : a x = a r
    · simp [hx, hpk]
    · simp [hx]
  · rintro ⟨⟨k', group'⟩, hmem, heq⟩
    obtain ⟨h1, rfl⟩ := Prod.mk.inj heq
    obtain ⟨rfl, rfl⟩ := Prod.mk.inj h1
    obtain ⟨⟨r, hr, rfl⟩, rfl⟩ := mem_groupBy_iff.1 hmem
    obtain ⟨hrows, hpr⟩ := List.mem_filter.1 hr
    obtain ⟨hpk, hm⟩ := Bool.and_eq_true _ _ ▸ hpr
    refine ⟨⟨⟨r, hrows, Prod.ext rfl (of_decide_eq_true hm)⟩, ?_⟩, by simpa using hpk⟩
    rw [List.filter_filter]
    refine List.filter_congr ?_
    intro x _
    by_cases hx : a x = a r
    · simp [hx, hpk]
    · simp [hx]

/-- Over keys that are distinct and that cover the rows, the sums of the groups make up the sum. -/
theorem sum_groups [AddCommMonoid M] (f : α → M) {ks : Finset κ} {rows : List α} (h : ∀ r ∈ rows, key r ∈ ks) :
    ∑ k ∈ ks, ((rows.filter (fun r => decide (key r = k))).map f).sum = (rows.map f).sum := by
  induction rows with
  | nil => simp
  | cons r rows ih =>
    have hsplit : ∀ k, (((r :: rows).filter (fun r => decide (key r = k))).map f).sum =
        (if key r = k then f r else 0) + ((rows.filter (fun r => decide (key r = k))).map f).sum := by
      intro k
      by_cases hk : key r = k
      · simp [hk]
      · simp [hk]
    simp only [hsplit]
    rw [Finset.sum_add_distrib, ih (fun x hx => h x (List.mem_cons_of_mem r hx)), Finset.sum_ite_eq,
      if_pos (h r List.mem_cons_self), List.map_cons, List.sum_cons]

theorem sum_groupBy_map [AddCommMonoid M] (key : α → κ) (F : κ → List α → M) (rows : List α) :
    ((groupBy key rows).map (fun g => F g.1 g.2)).sum =
      ∑ k ∈ (rows.map key).toFinset, F k (rows.filter (fun r => decide (key r = k))) := by
  have hkeys : (rows.map key).dedup.toFinset = (rows.map key).toFinset := by
    ext k
    simp
  rw [groupBy, List.map_map, ← hkeys, List.sum_toFinset _ (List.nodup_dedup _)]
  rfl

/-- The sums of the groups make up the sum. -/
theorem sum_groupBy [AddCommMonoid M] (key : α → κ) (f : α → M) (rows : List α) :
    ((groupBy key rows).map (fun g => (g.2.map f).sum)).sum = (rows.map f).sum := by
  rw [sum_groupBy_map key (fun _ group => (group.map f).sum)]
  refine sum_groups f ?_
  intro r hr
  exact List.mem_toFinset.2 (List.mem_map_of_mem hr)

end Table
