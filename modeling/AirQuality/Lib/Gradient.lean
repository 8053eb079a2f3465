import Mathlib.Algebra.Module.Defs
import Mathlib.Algebra.Order.Field.Basic
import Mathlib.Data.List.Nodup
import Mathlib.LinearAlgebra.AffineSpace.AffineMap

/-!
# Gradients

A gradient is a list of stops, an offset and a colour each. In list order, the colour changes linearly from one stop to the next; it
is the first stop's before it, and the last one's behind it. Where several stops share an offset, the last one governs what
follows. Between two stops the colour is their blend (`colorAt_between`), on the way from one colour to the other (`blend_eq`), and a
stable sort leaves stops of one offset in the order they had (`mem_after_of_sublist`, `mem_before_of_sublist`).
-/

namespace Gradient

section

variable {K V : Type*} [Field K] [LinearOrder K] [AddCommGroup V] [Module K V]

/-- The colour at an offset between two stops. -/
def blend (a b : K × V) (o : K) : V := a.2 + ((o - a.1) / (b.1 - a.1)) • (b.2 - a.2)

/-- The colour at an offset; without a stop there is none. -/
def colorAt (o : K) : List (K × V) → Option V
  | [] => none
  | [a] => some a.2
  | a :: b :: stops =>
    if o < a.1 then some a.2 else if b.1 ≤ o then colorAt o (b :: stops) else some (blend a b o)

/-- Behind its last stop a gradient has the colour of that stop. -/
theorem colorAt_last {o : K} {before : List (K × V)} {a : K × V} (h : ∀ s ∈ before, s.1 ≤ o) (ha : a.1 ≤ o) :
    colorAt o (before ++ [a]) = some a.2 := by
  induction before with
  | nil => rfl
  | cons s before ih =>
    rw [List.forall_mem_cons] at h
    have hlast := ih h.2
    cases before with
    | nil => simp [colorAt, not_lt.2 h.1, ha]
    | cons t before =>
      rw [List.cons_append, List.cons_append, colorAt, if_neg (not_lt.2 h.1), if_pos (h.2 t List.mem_cons_self)]
      exact hlast

/-- Between two stops, if those before them lie before the offset, the colour is their blend. -/
theorem colorAt_between {o : K} {before after : List (K × V)} {a b : K × V} (h : ∀ s ∈ before, s.1 ≤ o) (ha : a.1 ≤ o)
    (hb : o < b.1) : colorAt o (before ++ a :: b :: after) = some (blend a b o) := by
  induction before with
  | nil => rw [List.nil_append, colorAt, if_neg (not_lt.2 ha), if_neg (not_le.2 hb)]
  | cons s before ih =>
    rw [List.forall_mem_cons] at h
    have hbetween := ih h.2
    cases before with
    | nil =>
      rw [List.cons_append, List.nil_append, colorAt, if_neg (not_lt.2 h.1), if_pos ha]
      exact hbetween
    | cons t before =>
      rw [List.cons_append, List.cons_append, colorAt, if_neg (not_lt.2 h.1), if_pos (h.2 t List.mem_cons_self)]
      exact hbetween

/-- Strictly between two stops, the colour is on the way from one to the other. -/
theorem blend_eq [IsStrictOrderedRing K] {a b : K × V} {o : K} (ha : a.1 < o) (hb : o < b.1) :
    ∃ t : K, 0 < t ∧ t < 1 ∧ blend a b o = a.2 + t • (b.2 - a.2) := by
  have hpos : 0 < b.1 - a.1 := sub_pos.2 (ha.trans hb)
  exact ⟨(o - a.1) / (b.1 - a.1), div_pos (sub_pos.2 ha) hpos, (div_lt_one hpos).2 (sub_lt_sub_right hb a.1), rfl⟩

/-- On the way from one colour to another is neither of the two. -/
theorem ne_of_between {x y : V} (hne : x ≠ y) {t : K} (hpos : 0 < t) (hlt : t < 1) :
    x + t • (y - x) ≠ x ∧ x + t • (y - x) ≠ y := by
  rw [add_comm, ← AffineMap.lineMap_apply_module', Ne, AffineMap.lineMap_eq_left_iff, Ne, AffineMap.lineMap_eq_right_iff]
  exact ⟨not_or.2 ⟨hne, hpos.ne'⟩, not_or.2 ⟨hne, hlt.ne⟩⟩

end

section

variable {α K : Type*} [LinearOrder K] {key : α → K}

/-- A list sorted by a key, with keys on both sides of an offset, splits between two neighbours. -/
theorem exists_between {o : K} {l : List α} (hsorted : l.Pairwise (fun s t => key s ≤ key t)) {s t : α} (hs : s ∈ l)
    (hso : key s ≤ o) (ht : t ∈ l) (hot : o < key t) :
    ∃ before a b after, l = before ++ a :: b :: after ∧ (∀ s ∈ before, key s ≤ o) ∧ key a ≤ o ∧ o < key b := by
  induction l generalizing s with
  | nil => cases hs
  | cons c l ih =>
    have hc : key c ≤ o := by
      rcases List.mem_cons.1 hs with rfl | hs
      · exact hso
      · exact (List.rel_of_pairwise_cons hsorted hs).trans hso
    have htl : t ∈ l := by
      rcases List.mem_cons.1 ht with rfl | ht
      · exact absurd hc (not_le.2 hot)
      · exact ht
    cases l with
    | nil => cases htl
    | cons d l =>
      by_cases hd : key d ≤ o
      · obtain ⟨before, a, b, after, heq, hbefore, hab⟩ := ih hsorted.of_cons List.mem_cons_self hd htl
        exact ⟨c :: before, a, b, after, by rw [heq, List.cons_append], List.forall_mem_cons.2 ⟨hc, hbefore⟩, hab⟩
      · exact ⟨[], c, d, l, rfl, by simp, hc, not_le.1 hd⟩

variable (key) in
/-- A stable sort by a key. -/
def sortBy (l : List α) : List α := l.mergeSort fun s t => decide (key s ≤ key t)

theorem mem_sortBy {l : List α} {s : α} : s ∈ sortBy key l ↔ s ∈ l := List.mem_mergeSort

variable (key) in
theorem sortBy_pairwise (l : List α) : (sortBy key l).Pairwise (fun s t => key s ≤ key t) := by
  refine (List.pairwise_mergeSort (fun a b c hab hbc => ?_) (fun a b => ?_) l).imp fun h => of_decide_eq_true h
  · exact decide_eq_true ((of_decide_eq_true hab).trans (of_decide_eq_true hbc))
  · simpa using le_total (key a) (key b)

theorem map_sortBy {β : Type*} {f : α → β} (key' : β → K) (h : ∀ s, key' (f s) = key s) (l : List α) :
    (sortBy key l).map f = sortBy key' (l.map f) :=
  List.map_mergeSort fun s _ t _ => by rw [h, h]

/-- Of two elements in order, with keys in order, the first comes first in the sorted list. -/
theorem pair_sublist_sortBy {l : List α} {s t : α} (h : [s, t].Sublist l) (hle : key s ≤ key t) : [s, t].Sublist (sortBy key l) := by
  refine List.pair_sublist_mergeSort (fun a b c hab hbc => ?_) (fun a b => ?_) (decide_eq_true hle) h
  · exact decide_eq_true ((of_decide_eq_true hab).trans (of_decide_eq_true hbc))
  · simpa using le_total (key a) (key b)

theorem sortBy_nodup {l : List α} (h : l.Nodup) : (sortBy key l).Nodup := (List.mergeSort_perm l _).nodup_iff.2 h

/-- In a list without duplicates, what comes after an element stands after it. -/
theorem mem_after_of_sublist {before after : List α} {s t : α} (h : [s, t].Sublist (before ++ s :: after))
    (hnodup : (before ++ s :: after).Nodup) : t ∈ after := by
  have hs : s ∉ before := fun hmem => (List.nodup_append.1 hnodup).2.2 s hmem s List.mem_cons_self rfl
  obtain ⟨l, l', heq, hl, hl'⟩ := List.sublist_append_iff.1 h
  cases l with
  | nil =>
    rw [List.nil_append] at heq
    rw [← heq, List.cons_sublist_cons] at hl'
    exact List.singleton_sublist.1 hl'
  | cons a l =>
    obtain ⟨rfl, -⟩ := List.cons.inj heq
    exact absurd (hl.subset List.mem_cons_self) hs

theorem mem_before_of_sublist {before after : List α} {s t : α} (h : [s, t].Sublist (before ++ t :: after))
    (hnodup : (before ++ t :: after).Nodup) : s ∈ before := by
  have hreverse : [t, s].Sublist (after.reverse ++ t :: before.reverse) := by simpa using h.reverse
  have hmem := mem_after_of_sublist hreverse (by simpa using List.nodup_reverse.2 hnodup)
  exact List.mem_reverse.1 hmem

end

end Gradient
