import Mathlib.Data.List.Basic
import Mathlib.Order.Lattice

/-!
# Tables of bands

A table lists bands by their upper ends. A value falls in the first band that reaches it, and in the last if none does
(`Bands.lookup`). Where every band maps values in order, into a range of its own, and the ranges follow one another, the table
maps values in order (`lookup_monotone`).
-/

namespace Bands

variable {β K V : Type*} [LinearOrder K] (top : β → K) (d : β)

/-- The first band that reaches a value, else the last of the table (`d` if it is empty). -/
def lookup (c : K) (bands : List β) : β := (bands.find? (fun b => decide (c ≤ top b))).getD (bands.getLastD d)

theorem lookup_cons (c : K) (b : β) (bands : List β) :
    lookup top d c (b :: bands) = if c ≤ top b ∨ bands = [] then b else lookup top d c bands := by
  unfold lookup
  by_cases hc : c ≤ top b
  · simp [hc]
  · cases bands with
    | nil => simp [hc]
    | cons a bands => simp [hc]

/-- Of a table that is not empty, the band of a value stands after bands that end below it, and reaches it or is the last. -/
theorem lookup_spec (c : K) {bands : List β} (hne : bands ≠ []) :
    ∃ k, bands[k]? = some (lookup top d c bands) ∧ (∀ j < k, ∀ a, bands[j]? = some a → top a < c) ∧
      (c ≤ top (lookup top d c bands) ∨ k + 1 = bands.length) := by
  induction bands with
  | nil => exact absurd rfl hne
  | cons b bands ih =>
    rw [lookup_cons]
    split_ifs with h
    · refine ⟨0, rfl, fun j hj => absurd hj (Nat.not_lt_zero j), ?_⟩
      rcases h with hc | rfl
      · exact Or.inl hc
      · exact Or.inr rfl
    · obtain ⟨hc, hbands⟩ := not_or.1 h
      obtain ⟨k, hk, hbelow, hlast⟩ := ih hbands
      refine ⟨k + 1, hk, ?_, hlast.imp id (fun hl => by rw [hl, List.length_cons])⟩
      intro j hj a ha
      cases j with
      | zero =>
        obtain rfl := Option.some.inj ha
        exact not_le.1 hc
      | succ j => exact hbelow j (Nat.lt_of_succ_lt_succ hj) a ha

/-- A band that reaches a value no earlier band reaches, or is the last, is its band. -/
theorem lookup_eq {c : K} {bands : List β} {k : ℕ} {b : β} (hk : bands[k]? = some b)
    (hbelow : ∀ j < k, ∀ a, bands[j]? = some a → top a < c) (htop : c ≤ top b ∨ k + 1 = bands.length) :
    lookup top d c bands = b := by
  induction bands generalizing k with
  | nil => cases hk
  | cons a bands ih =>
    rw [lookup_cons]
    cases k with
    | zero =>
      obtain rfl := Option.some.inj hk
      refine if_pos (htop.imp id fun h => ?_)
      exact List.length_eq_zero_iff.1 (Nat.succ.inj h).symm
    | succ k =>
      have hlt : top a < c := hbelow 0 (Nat.succ_pos k) a rfl
      have hne : bands ≠ [] := by
        rintro rfl
        cases hk
      rw [if_neg (not_or.2 ⟨not_le.2 hlt, hne⟩)]
      refine ih hk (fun j hj x hx => hbelow (j + 1) (Nat.succ_lt_succ hj) x hx) (htop.imp id Nat.succ.inj)

/-- Of bands with lower ends too, each of which starts where the one before it ends, all later ones start behind the first. -/
theorem top_le_bottom {bottom : β → K} {b : β} {bands : List β} (hlt : ∀ a ∈ bands, bottom a < top a)
    (hchain : (b :: bands).IsChain (fun a b => top a = bottom b)) : ∀ a ∈ bands, top b ≤ bottom a := by
  induction bands generalizing b with
  | nil => simp
  | cons a bands ih =>
    rw [List.isChain_cons_cons] at hchain
    rw [List.forall_mem_cons] at hlt ⊢
    refine ⟨hchain.1.le, fun x hx => ?_⟩
    calc top b = bottom a := hchain.1
      _ ≤ top a := hlt.1.le
      _ ≤ bottom x := ih hlt.2 hchain.2 x hx

/-- A value between the ends of such a table lies in exactly one band, its own. -/
theorem filter_eq_lookup {bottom : β → K} {c : K} {bands : List β} (hlt : ∀ b ∈ bands, bottom b < top b)
    (hchain : bands.IsChain (fun a b => top a = bottom b)) (hfirst : ∀ b ∈ bands.head?, bottom b < c)
    (hlast : ∀ b ∈ bands.getLast?, c ≤ top b) (hne : bands ≠ []) :
    bands.filter (fun b => decide (bottom b < c ∧ c ≤ top b)) = [lookup top d c bands] := by
  induction bands with
  | nil => exact absurd rfl hne
  | cons b bands ih =>
    rw [lookup_cons]
    have hb : bottom b < c := hfirst b rfl
    rw [List.forall_mem_cons] at hlt
    by_cases hc : c ≤ top b
    · have hlater : ∀ a ∈ bands, ¬(bottom a < c ∧ c ≤ top a) :=
        fun a ha h => absurd (hc.trans (top_le_bottom top hlt.2 hchain a ha)) (not_le.2 h.1)
      rw [if_pos (.inl hc), List.filter_cons_of_pos (by simp [hb, hc]), List.filter_eq_nil_iff.2 (by simpa using hlater)]
    · cases bands with
      | nil => exact absurd (hlast b rfl) hc
      | cons a bands =>
        rw [List.isChain_cons_cons] at hchain
        have hfirst' : ∀ x ∈ (a :: bands).head?, bottom x < c := by
          rintro x hx
          obtain rfl := Option.some.inj hx
          rw [← hchain.1]
          exact not_le.1 hc
        rw [if_neg (not_or.2 ⟨hc, List.cons_ne_nil a bands⟩), List.filter_cons_of_neg (by simp [hc])]
        exact ih hlt.2 hchain.2 hfirst' (fun x hx => hlast x (by rwa [List.getLast?_cons_cons])) (List.cons_ne_nil a bands)

section

variable [Preorder V] {f : β → K → V}

/-- The band of a value is one of the table. -/
theorem lookup_mem (c : K) {bands : List β} (hne : bands ≠ []) : lookup top d c bands ∈ bands := by
  obtain ⟨k, hk, -, -⟩ := lookup_spec top d c hne
  exact List.mem_of_getElem? hk

/-- Bands that map values in order, into ranges that follow one another, make a table that maps values in order. -/
theorem lookup_monotone (low high : β → V) {bands : List β} (hne : bands ≠ []) (hmono : ∀ b ∈ bands, Monotone (f b))
    (hlow : ∀ b ∈ bands, ∀ c, low b ≤ f b c) (hhigh : ∀ b ∈ bands, ∀ c, f b c ≤ high b)
    (hranges : bands.Pairwise (fun a b => high a ≤ low b)) : Monotone (fun c => f (lookup top d c bands) c) := by
  intro c c' hcc'
  induction bands with
  | nil => exact absurd rfl hne
  | cons b bands ih =>
    have hb : b ∈ b :: bands := List.mem_cons_self
    dsimp only
    rw [lookup_cons, lookup_cons]
    split_ifs with h h' h'
    · exact hmono b hb hcc'
    · -- the smaller value falls in `b`, the greater in a later band
      have hmem := lookup_mem top d c' (not_or.1 h').2
      calc f b c ≤ high b := hhigh b hb c
        _ ≤ low (lookup top d c' bands) := List.rel_of_pairwise_cons hranges hmem
        _ ≤ f (lookup top d c' bands) c' := hlow _ (List.mem_cons_of_mem _ hmem) c'
    · exact absurd (h'.imp hcc'.trans id) h
    · exact ih (not_or.1 h').2 (fun a ha => hmono a (List.mem_cons_of_mem _ ha))
        (fun a ha => hlow a (List.mem_cons_of_mem _ ha)) (fun a ha => hhigh a (List.mem_cons_of_mem _ ha))
        (List.pairwise_cons.1 hranges).2

end

end Bands
