import Mathlib.Data.List.Basic
import Mathlib.Data.List.Pairwise
import Mathlib.Order.Lattice

/-!
# Series

A list of values with times is a series when the times strictly increase (`Series`). A value goes on a series exactly when it is
newer than the last (`series_concat_iff`), what is left of a series from some value on is one (`Series.dropWhile`), and a series
goes on with the later part of another (`Series.append_filter`).
-/

variable {α τ : Type*} [LinearOrder τ] (time : α → τ)

/-- The times strictly increase. -/
def Series (l : List α) : Prop := l.Pairwise (fun a b => time a < time b)

/-- Newer than the last value of the list, if it has one. -/
def NewerThanLast (l : List α) (a : α) : Prop := ∀ b, l.getLast? = some b → time b < time a

instance (l : List α) : Decidable (Series time l) := inferInstanceAs (Decidable (List.Pairwise _ l))

instance (l : List α) (a : α) : Decidable (NewerThanLast time l a) :=
  decidable_of_iff (l.getLast?.all (fun b => decide (time b < time a)) = true) (by simp [NewerThanLast, Option.all_eq_true])

variable {time}

/-- No time of a series is after its last. -/
theorem Series.le_last {l : List α} (h : Series time l) {a b : α} (ha : a ∈ l) (hb : l.getLast? = some b) :
    time a ≤ time b := by
  obtain ⟨l', rfl⟩ := List.getLast?_eq_some_iff.1 hb
  rcases List.mem_append.1 ha with ha | ha
  · exact le_of_lt ((List.pairwise_append.1 h).2.2 a ha b (List.mem_singleton_self b))
  · rw [List.mem_singleton.1 ha]

/-- A value goes on a series exactly if it is newer than the last. -/
theorem series_concat_iff {l : List α} (h : Series time l) (a : α) :
    Series time (l ++ [a]) ↔ NewerThanLast time l a := by
  constructor
  · intro hla b hb
    exact (List.pairwise_append.1 hla).2.2 b (List.mem_of_getLast? hb) a (List.mem_singleton_self a)
  · intro hnew
    refine List.pairwise_append.2 ⟨h, List.pairwise_singleton _ a, ?_⟩
    intro x hx y hy
    rw [List.mem_singleton.1 hy]
    obtain ⟨b, hb⟩ : ∃ b, l.getLast? = some b :=
      Option.isSome_iff_exists.1 (List.getLast?_isSome.2 (List.ne_nil_of_mem hx))
    exact lt_of_le_of_lt (h.le_last hx hb) (hnew b hb)

theorem Series.dropWhile {l : List α} (h : Series time l) (p : α → Bool) : Series time (l.dropWhile p) :=
  List.Pairwise.sublist (List.dropWhile_sublist p) h

theorem Series.filter {l : List α} (h : Series time l) (p : α → Bool) : Series time (l.filter p) :=
  List.Pairwise.sublist List.filter_sublist h

/-- A series goes on with what another has after its last time. -/
theorem Series.append_filter {l m : List α} (hl : Series time l) (hm : Series time m) {t : τ}
    (ht : ∀ b, l.getLast? = some b → time b ≤ t) :
    Series time (l ++ m.filter (fun r => decide (t < time r))) := by
  refine List.pairwise_append.2 ⟨hl, hm.filter _, ?_⟩
  intro a ha b hb
  obtain ⟨c, hc⟩ : ∃ c, l.getLast? = some c :=
    Option.isSome_iff_exists.1 (List.getLast?_isSome.2 (List.ne_nil_of_mem ha))
  have hle : time a ≤ t := le_trans (hl.le_last ha hc) (ht c hc)
  exact lt_of_le_of_lt hle (of_decide_eq_true (List.mem_filter.1 hb).2)

/-- Dropping from the front stops at a value that stays. -/
theorem dropWhile_append_cons_of_neg {p : α → Bool} {a : α} (ha : p a = false) (l m : List α) :
    (l ++ a :: m).dropWhile p = l.dropWhile p ++ a :: m := by
  induction l with
  | nil => rw [List.nil_append, List.dropWhile_cons_of_neg (by simp [ha]), List.dropWhile_nil, List.nil_append]
  | cons b l ih =>
    cases hb : p b with
    | true => rw [List.cons_append, List.dropWhile_cons_of_pos hb, List.dropWhile_cons_of_pos hb, ih]
    | false =>
      rw [List.cons_append, List.dropWhile_cons_of_neg (by simp [hb]), List.dropWhile_cons_of_neg (by simp [hb]),
        List.cons_append]

/-- Dropping from the front drops only what it looks for. -/
theorem mem_dropWhile_of_neg {p : α → Bool} {a : α} (ha : p a = false) {l : List α} (h : a ∈ l) : a ∈ l.dropWhile p := by
  obtain ⟨before, after, rfl⟩ := List.append_of_mem h
  rw [dropWhile_append_cons_of_neg ha]
  exact List.mem_append_right _ List.mem_cons_self

/-- With what is too old dropped from the front, a series a value has been put on is one exactly if the value, itself not too
old, is newer than the last. -/
theorem series_concat_dropWhile_iff {l : List α} (h : Series time l) {a : α} {t : τ} (ht : t ≤ time a) :
    Series time ((l ++ [a]).dropWhile (fun r => decide (time r < t))) ↔ NewerThanLast time l a := by
  constructor
  · intro hs b hb
    by_contra hlt
    have hba : time a ≤ time b := not_lt.1 hlt
    have hkeep : decide (time b < t) = false := decide_eq_false (not_lt.2 (le_trans ht hba))
    obtain ⟨l', rfl⟩ := List.getLast?_eq_some_iff.1 hb
    have hdrop := dropWhile_append_cons_of_neg (p := fun r => decide (time r < t)) hkeep l' [a]
    rw [List.append_assoc, List.singleton_append, hdrop] at hs
    exact hlt (List.rel_of_pairwise_cons (List.pairwise_append.1 hs).2.1 (List.mem_singleton_self a))
  · intro hnew
    exact ((series_concat_iff h a).2 hnew).dropWhile _
