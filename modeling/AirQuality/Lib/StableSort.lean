import Mathlib.Data.List.Basic

/-!
# Stable sorting

What a stable sort by a total preorder gives, by what it is: the result is in order, and of any elements that tie it keeps the order
they had (`IsStableSort`). There is only one such list (`IsStableSort.unique`), and `List.mergeSort` gives it. So sorting and choosing
some of the elements may change places (`mergeSort_filter`), and elements that all come before the others are sorted by themselves
(`mergeSort_eq_append`), as are those with a value where those without come last (`mergeSort_missingLast`).
-/

namespace StableSort

variable {α : Type*}

/-- An order in which any two elements compare, and may tie. -/
structure TotalPreorder (le : α → α → Bool) : Prop where
  trans : ∀ a b c, le a b = true → le b c = true → le a c = true
  total : ∀ a b, (le a b || le b a) = true

/-- Two elements tie. -/
def tied (le : α → α → Bool) (a b : α) : Bool := le a b && le b a

/-- `r` is `l` sorted: it is in order, and the elements that tie with any one are those of `l`, in the order they have there. -/
structure IsStableSort (le : α → α → Bool) (r l : List α) : Prop where
  sorted : r.Pairwise (fun a b => le a b = true)
  stable : ∀ a, r.filter (tied le a) = l.filter (tied le a)

variable {le : α → α → Bool} {l r : List α}

theorem TotalPreorder.refl (h : TotalPreorder le) (a : α) : le a a = true := (Bool.or_self _).symm.trans (h.total a a)

theorem tied_iff {a b : α} : tied le a b = true ↔ le a b = true ∧ le b a = true := Bool.and_eq_true_iff

theorem TotalPreorder.tied_self (h : TotalPreorder le) (a : α) : tied le a a = true := tied_iff.2 ⟨h.refl a, h.refl a⟩

/-- An element of one list is in any other that has the same elements that tie with it. -/
theorem mem_of_filter_tied (h : TotalPreorder le) {a : α} (ha : a ∈ r) (heq : r.filter (tied le a) = l.filter (tied le a)) :
    a ∈ l := by
  have hmem : a ∈ r.filter (tied le a) := List.mem_filter.2 ⟨ha, h.tied_self a⟩
  rw [heq] at hmem
  exact List.mem_of_mem_filter hmem

/-- In an ordered list the first element comes before any. -/
theorem le_of_mem_cons (h : TotalPreorder le) {a b : α} {t : List α} (hsorted : (a :: t).Pairwise (fun x y => le x y = true))
    (hb : b ∈ a :: t) : le a b = true := by
  rcases List.mem_cons.1 hb with rfl | hb
  · exact h.refl b
  · exact (List.pairwise_cons.1 hsorted).1 b hb

/-- Two ordered lists in which the same elements tie, in the same order, are the same. -/
theorem eq_of_filter_tied (h : TotalPreorder le) {r' : List α} (hr : r.Pairwise (fun a b => le a b = true))
    (hr' : r'.Pairwise (fun a b => le a b = true)) (heq : ∀ a, r.filter (tied le a) = r'.filter (tied le a)) : r = r' := by
  induction r generalizing r' with
  | nil =>
    cases r' with
    | nil => rfl
    | cons b t' => exact absurd (mem_of_filter_tied h List.mem_cons_self (heq b).symm) List.not_mem_nil
  | cons a t ih =>
    cases r' with
    | nil => exact absurd (mem_of_filter_tied h List.mem_cons_self (heq a)) List.not_mem_nil
    | cons b t' =>
      have hab : le a b = true := le_of_mem_cons h hr (mem_of_filter_tied h List.mem_cons_self (heq b).symm)
      have hba : le b a = true := le_of_mem_cons h hr' (mem_of_filter_tied h List.mem_cons_self (heq a))
      -- both heads are the first element that ties with them
      have hfirst := heq a
      rw [List.filter_cons_of_pos (h.tied_self a), List.filter_cons_of_pos (tied_iff.2 ⟨hab, hba⟩)] at hfirst
      obtain rfl := (List.cons.inj hfirst).1
      congr 1
      refine ih (List.pairwise_cons.1 hr).2 (List.pairwise_cons.1 hr').2 ?_
      intro c
      have hc := heq c
      by_cases htied : tied le c a = true
      · rw [List.filter_cons_of_pos htied, List.filter_cons_of_pos htied] at hc
        exact (List.cons.inj hc).2
      · rwa [List.filter_cons_of_neg htied, List.filter_cons_of_neg htied] at hc

theorem IsStableSort.unique (h : TotalPreorder le) {r' : List α} (hr : IsStableSort le r l) (hr' : IsStableSort le r' l) : r = r' :=
  eq_of_filter_tied h hr.sorted hr'.sorted (fun a => (hr.stable a).trans (hr'.stable a).symm)

theorem isStableSort_mergeSort (h : TotalPreorder le) (l : List α) : IsStableSort le (l.mergeSort le) l := by
  refine ⟨List.pairwise_mergeSort h.trans h.total l, ?_⟩
  intro a
  have hsorted : (l.filter (tied le a)).Pairwise (fun x y => le x y = true) := by
    refine List.pairwise_of_forall_mem_list ?_
    intro x hx y hy
    exact h.trans x a y (tied_iff.1 (List.of_mem_filter hx)).2 (tied_iff.1 (List.of_mem_filter hy)).1
  have hsub : (l.filter (tied le a)).Sublist ((l.mergeSort le).filter (tied le a)) := by
    have hfilter := (List.sublist_mergeSort h.trans h.total hsorted List.filter_sublist).filter (tied le a)
    simpa only [List.filter_filter, Bool.and_self] using hfilter
  exact (hsub.eq_of_length ((List.mergeSort_perm l le).filter _).length_eq.symm).symm

/-- The sort is what is sorted. -/
theorem eq_mergeSort_iff (h : TotalPreorder le) : r = l.mergeSort le ↔ IsStableSort le r l := by
  constructor
  · rintro rfl
    exact isStableSort_mergeSort h l
  · intro hr
    exact hr.unique h (isStableSort_mergeSort h l)

/-- Choosing from the sorted list is sorting what is chosen. -/
theorem mergeSort_filter (h : TotalPreorder le) (l : List α) (p : α → Bool) :
    (l.mergeSort le).filter p = (l.filter p).mergeSort le := by
  rw [eq_mergeSort_iff h]
  have hsort := isStableSort_mergeSort h l
  refine ⟨hsort.sorted.filter p, ?_⟩
  intro a
  rw [List.filter_comm, hsort.stable a, List.filter_comm]

/-- Where all elements with `p` come before all others, the two are sorted one after the other. -/
theorem mergeSort_eq_append (h : TotalPreorder le) (l : List α) (p : α → Bool)
    (hp : ∀ a ∈ l, ∀ b ∈ l, p a = true → p b = false → le b a = false) :
    l.mergeSort le = (l.filter p).mergeSort le ++ (l.filter (fun a => !p a)).mergeSort le := by
  have hfirst := isStableSort_mergeSort h (l.filter p)
  have hrest := isStableSort_mergeSort h (l.filter (fun a => !p a))
  symm
  rw [eq_mergeSort_iff h]
  refine ⟨List.pairwise_append.2 ⟨hfirst.sorted, hrest.sorted, ?_⟩, ?_⟩
  · intro a ha b hb
    obtain ⟨ha, hpa⟩ := List.mem_filter.1 (List.mem_mergeSort.1 ha)
    obtain ⟨hb, hpb⟩ := List.mem_filter.1 (List.mem_mergeSort.1 hb)
    have htotal := h.total a b
    rwa [hp a ha b hb hpa (by simpa using hpb), Bool.or_false] at htotal
  · intro a
    rw [List.filter_append, hfirst.stable a, hrest.stable a]
    -- the elements that tie with `a` all have `p`, or none has
    by_cases hex : ∃ x ∈ l, p x = true ∧ tied le a x = true
    · obtain ⟨x, hx, hpx, hax⟩ := hex
      have hall : ∀ y ∈ l, tied le a y = true → p y = true := by
        intro y hy hay
        by_contra hpy
        have hyx := h.trans y a x (tied_iff.1 hay).2 (tied_iff.1 hax).1
        rw [hp x hx y hy hpx (Bool.eq_false_iff.2 hpy)] at hyx
        cases hyx
      have hnone : (l.filter (fun b => !p b)).filter (tied le a) = [] := by
        rw [List.filter_eq_nil_iff]
        intro y hy hay
        obtain ⟨hy, hpy⟩ := List.mem_filter.1 hy
        rw [hall y hy hay] at hpy
        cases hpy
      rw [hnone, List.append_nil, List.filter_filter]
      refine List.filter_congr ?_
      intro y hy
      cases hay : tied le a y with
      | false => rfl
      | true => exact (Bool.true_and _).trans (hall y hy hay)
    · have hall : ∀ y ∈ l, tied le a y = true → p y = false := by
        intro y hy hay
        exact Bool.eq_false_iff.2 (fun hpy => hex ⟨y, hy, hpy, hay⟩)
      have hnone : (l.filter p).filter (tied le a) = [] := by
        rw [List.filter_eq_nil_iff]
        intro y hy hay
        obtain ⟨hy, hpy⟩ := List.mem_filter.1 hy
        rw [hall y hy hay] at hpy
        cases hpy
      rw [hnone, List.nil_append, List.filter_filter]
      refine List.filter_congr ?_
      intro y hy
      cases hay : tied le a y with
      | false => rfl
      | true => rw [hall y hy hay]; rfl

/-- Elements that all tie stay as they are. -/
theorem mergeSort_eq_self (l : List α) (hl : ∀ a ∈ l, ∀ b ∈ l, le a b = true) : l.mergeSort le = l :=
  List.mergeSort_of_pairwise (List.pairwise_of_forall_mem_list hl)

/-! ## Elements without a value come last -/

section

variable {κ : Type*} (keyLe : κ → κ → Bool) (get : α → Option κ)

/-- Elements by their value, those without one after all others. -/
def missingLast (a b : α) : Bool :=
  match get a, get b with
  | some x, some y => keyLe x y
  | some _, none => true
  | none, some _ => false
  | none, none => true

variable {keyLe get}

theorem missingLast_order (h : TotalPreorder keyLe) : TotalPreorder (missingLast keyLe get) := by
  refine ⟨?_, ?_⟩
  · intro a b c
    unfold missingLast
    cases get a with
    | none =>
      cases get b with
      | none => exact fun _ hbc => hbc
      | some y => exact fun hab => absurd hab Bool.false_ne_true
    | some x =>
      cases get b with
      | none =>
        cases get c with
        | none => exact fun hab _ => hab
        | some z => exact fun _ hbc => absurd hbc Bool.false_ne_true
      | some y =>
        cases get c with
        | none => exact fun _ hbc => hbc
        | some z => exact h.trans x y z
  · intro a b
    unfold missingLast
    cases get a with
    | none => cases get b <;> rfl
    | some x =>
      cases get b with
      | none => rfl
      | some y => exact h.total x y

/-- The elements with a value are sorted, and those without stay as they are, behind them. -/
theorem mergeSort_missingLast (h : TotalPreorder keyLe) (l : List α) :
    l.mergeSort (missingLast keyLe get) =
      (l.filter (fun a => (get a).isSome)).mergeSort (missingLast keyLe get) ++ l.filter (fun a => !(get a).isSome) := by
  rw [mergeSort_eq_append (missingLast_order h) l (fun a => (get a).isSome)]
  · congr 1
    refine mergeSort_eq_self _ ?_
    intro a ha b hb
    have hga := List.of_mem_filter ha
    have hgb := List.of_mem_filter hb
    unfold missingLast
    cases hx : get a with
    | some x => simp [hx] at hga
    | none =>
      cases hy : get b with
      | some y => simp [hy] at hgb
      | none => rfl
  · intro a _ b _ hga hgb
    unfold missingLast
    cases hx : get a with
    | none => simp [hx] at hga
    | some x =>
      cases hy : get b with
      | some y => simp [hy] at hgb
      | none => rfl

end

end StableSort
