import AirQuality.Lib.Machine
import Mathlib.Data.List.Nodup
import Mathlib.Data.List.ReduceOption
import Mathlib.Order.Lattice

/-!
# A counter kept in snapshots

A device that loses its memory between two cycles keeps a counter in a snapshot. In a cycle it may set the counter to a new
value, and it may emit the counter's value; the advanced counter is saved after the emission, or it is not. As long as new values
go up, the values emitted over a run strictly increase, and are pairwise distinct, exactly if no emission that was not saved is
followed by another before the counter is set anew (`increasing_iff`, `nodup_iff`).
-/

namespace Checkpoint

variable {α : Type*}

/-- What one cycle does: the value the counter is set to and saved with, if any; then whether it emits, and whether the counter
is saved afterwards. -/
structure Cycle (α : Type*) where
  jump : Option α
  emit : Option Bool

/-- The device: its snapshot, if there is one, and the value a cycle emits. -/
def machine (next : α → α) : Machine (Option α) (Cycle α) (Option α) where
  step stored c :=
    match c.emit, c.jump.or stored with
    | some saved, some v => (some (if saved = true then next v else v), some v)
    | _, stored => (stored, none)

/-- The values emitted over a run. -/
def emitted (next : α → α) (stored : Option α) (cs : List (Cycle α)) : List α :=
  ((machine next).outputs stored cs).reduceOption

/-- The counter is only set to values above its snapshot, and only emitted once it has a value. -/
def Legal [LT α] (stored : Option α) (c : Cycle α) : Prop :=
  (∀ u ∈ c.jump, ∀ v ∈ stored, v < u) ∧ (c.emit.isSome = true → (c.jump.or stored).isSome = true)

/-- The next value emitted is the one in the snapshot: some cycle emits, and none before it, nor that one, sets the counter. -/
def Exposed (cs : List (Cycle α)) : Prop :=
  ∃ j : Nat, (∃ c : Cycle α, cs[j]? = some c ∧ c.emit.isSome = true) ∧ ∀ k ≤ j, ∀ c : Cycle α, cs[k]? = some c → c.jump = none

/-- Between an emission that is not saved and a later one the counter is set anew. -/
def Clean (cs : List (Cycle α)) : Prop :=
  ∀ i j : Nat, i < j → (∃ c : Cycle α, cs[i]? = some c ∧ c.emit = some false) →
    (∃ c : Cycle α, cs[j]? = some c ∧ c.emit.isSome = true) →
    ∃ k, ∃ c : Cycle α, i < k ∧ k ≤ j ∧ cs[k]? = some c ∧ c.jump.isSome = true

/-! ## The conditions, cycle by cycle -/

theorem not_exposed_nil : ¬Exposed ([] : List (Cycle α)) := by
  rintro ⟨j, ⟨c, hc, -⟩, -⟩
  cases hc

theorem exposed_cons {c : Cycle α} {cs : List (Cycle α)} :
    Exposed (c :: cs) ↔ c.jump = none ∧ (c.emit.isSome = true ∨ Exposed cs) := by
  constructor
  · rintro ⟨j, ⟨d, hd, hemit⟩, hjump⟩
    refine ⟨hjump 0 (Nat.zero_le j) c rfl, ?_⟩
    cases j with
    | zero =>
      obtain rfl := Option.some.inj hd
      exact Or.inl hemit
    | succ j => exact Or.inr ⟨j, ⟨d, hd, hemit⟩, fun k hk e he => hjump (k + 1) (Nat.succ_le_succ hk) e he⟩
  · rintro ⟨hnone, hemit | ⟨j, hd, hjump⟩⟩
    · refine ⟨0, ⟨c, rfl, hemit⟩, fun k hk d hd => ?_⟩
      obtain rfl := Nat.le_zero.1 hk
      obtain rfl := Option.some.inj hd
      exact hnone
    · refine ⟨j + 1, hd, fun k hk d hd => ?_⟩
      cases k with
      | zero =>
        obtain rfl := Option.some.inj hd
        exact hnone
      | succ k => exact hjump k (Nat.le_of_succ_le_succ hk) d hd

theorem clean_cons {c : Cycle α} {cs : List (Cycle α)} :
    Clean (c :: cs) ↔ (c.emit = some false → ¬Exposed cs) ∧ Clean cs := by
  constructor
  · intro h
    refine ⟨?_, ?_⟩
    · rintro hfalse ⟨j, hj, hjump⟩
      obtain ⟨k, d, h0, hkj, hd, hsome⟩ := h 0 (j + 1) (Nat.succ_pos j) ⟨c, rfl, hfalse⟩ hj
      obtain ⟨k, rfl⟩ : ∃ m, k = m + 1 := ⟨k - 1, by omega⟩
      rw [hjump k (Nat.le_of_succ_le_succ hkj) d hd] at hsome
      cases hsome
    · intro i j hij hi hj
      obtain ⟨k, d, hik, hkj, hd, hsome⟩ := h (i + 1) (j + 1) (Nat.succ_lt_succ hij) hi hj
      obtain ⟨k, rfl⟩ : ∃ m, k = m + 1 := ⟨k - 1, by omega⟩
      exact ⟨k, d, Nat.lt_of_succ_lt_succ hik, Nat.le_of_succ_le_succ hkj, hd, hsome⟩
  · rintro ⟨hhead, htail⟩ i j hij hi hj
    obtain ⟨j, rfl⟩ : ∃ m, j = m + 1 := ⟨j - 1, by omega⟩
    cases i with
    | zero =>
      obtain ⟨d, hd, hfalse⟩ := hi
      obtain rfl := Option.some.inj hd
      by_contra hnone
      refine hhead hfalse ⟨j, hj, fun k hk e he => ?_⟩
      by_contra hne
      exact hnone ⟨k + 1, e, Nat.succ_pos k, Nat.succ_le_succ hk, he, Option.isSome_iff_ne_none.2 hne⟩
    | succ i =>
      obtain ⟨k, d, hik, hkj, hd, hsome⟩ := htail i j (Nat.lt_of_succ_lt_succ hij) hi hj
      exact ⟨k + 1, d, Nat.succ_lt_succ hik, Nat.succ_le_succ hkj, hd, hsome⟩

/-! ## What one cycle does -/

/-- A cycle emits nothing and at most sets the counter, or it emits the counter and saves it or not. -/
theorem step_cases [LT α] (next : α → α) {stored : Option α} {c : Cycle α} (h : Legal stored c) :
    (c.emit = none ∧ (machine next).step stored c = (c.jump.or stored, none)) ∨
    ∃ saved v, c.emit = some saved ∧ c.jump.or stored = some v ∧
      (machine next).step stored c = (some (if saved = true then next v else v), some v) := by
  cases hemit : c.emit with
  | none => exact Or.inl ⟨rfl, by simp [machine, hemit]⟩
  | some saved =>
    obtain ⟨v, hv⟩ := Option.isSome_iff_exists.1 (h.2 (by rw [hemit]; rfl))
    exact Or.inr ⟨saved, v, rfl, hv, by simp [machine, hemit, hv]⟩

/-- The values emitted by a cycle and the rest of the run. -/
theorem emitted_cons (next : α → α) (stored : Option α) (c : Cycle α) (cs : List (Cycle α)) :
    emitted next stored (c :: cs) =
      ((machine next).step stored c).2.toList ++ emitted next ((machine next).step stored c).1 cs := by
  unfold emitted
  rw [Machine.outputs_cons]
  cases ((machine next).step stored c).2 with
  | none => exact List.reduceOption_cons_of_none _
  | some v => exact List.reduceOption_cons_of_some v _

variable [LinearOrder α] {next : α → α}

/-- The counter never goes below its snapshot. -/
theorem le_jump_or {stored : Option α} {c : Cycle α} (h : Legal stored c) {v u : α} (hv : stored = some v)
    (hu : c.jump.or stored = some u) : v ≤ u := by
  cases hjump : c.jump with
  | none =>
    rw [hjump, Option.none_or, hv] at hu
    exact le_of_eq (Option.some.inj hu)
  | some w =>
    rw [hjump, Option.some_or] at hu
    obtain rfl := Option.some.inj hu
    exact le_of_lt (h.1 _ hjump v hv)

/-- Setting the counter takes it above its snapshot. -/
theorem lt_jump_or {stored : Option α} {c : Cycle α} (h : Legal stored c) (hjump : c.jump ≠ none) {v u : α}
    (hv : stored = some v) (hu : c.jump.or stored = some u) : v < u := by
  obtain ⟨w, hw⟩ := Option.ne_none_iff_exists'.1 hjump
  rw [hw, Option.some_or] at hu
  obtain rfl := Option.some.inj hu
  exact h.1 _ hw v hv

/-! ## Whole runs -/

/-- What a run emits is never below the snapshot it starts from, and it is that value only if it is exposed. -/
theorem le_of_mem_emitted (hnext : ∀ v, v < next v) {stored : Option α} {cs : List (Cycle α)}
    (h : (machine next).Along Legal stored cs) {v : α} (hv : stored = some v) {x : α}
    (hx : x ∈ emitted next stored cs) : v ≤ x ∧ (¬Exposed cs → v < x) := by
  induction cs generalizing stored v with
  | nil => cases hx
  | cons c cs ih =>
    obtain ⟨hc, hcs⟩ := h
    rw [emitted_cons] at hx
    have hor : ∃ u, c.jump.or stored = some u := by
      rw [hv]
      cases c.jump with
      | none => exact ⟨v, rfl⟩
      | some w => exact ⟨w, rfl⟩
    obtain ⟨u, hu⟩ := hor
    have hle := le_jump_or hc hv hu
    rcases step_cases next hc with ⟨hemit, hstep⟩ | ⟨saved, w, hemit, hw, hstep⟩
    · rw [hstep] at hx hcs
      obtain ⟨hux, hlt⟩ := ih hcs hu hx
      refine ⟨hle.trans hux, fun hexp => ?_⟩
      by_cases hjump : c.jump = none
      · refine lt_of_le_of_lt hle (hlt (fun hcs' => hexp (exposed_cons.2 ⟨hjump, Or.inr hcs'⟩)))
      · exact lt_of_lt_of_le (lt_jump_or hc hjump hv hu) hux
    · rw [hw] at hu
      obtain rfl := Option.some.inj hu
      rw [hstep] at hx hcs
      have hwx : w ≤ x := by
        rcases List.mem_append.1 hx with hx | hx
        · exact le_of_eq (List.mem_singleton.1 hx).symm
        · have hge := (ih hcs rfl hx).1
          split_ifs at hge
          · exact (hnext w).le.trans hge
          · exact hge
      refine ⟨hle.trans hwx, fun hexp => ?_⟩
      -- the cycle emits, so it must have set the counter
      have hjump : c.jump ≠ none := fun hnone => hexp (exposed_cons.2 ⟨hnone, Or.inl (by rw [hemit]; rfl)⟩)
      exact lt_of_lt_of_le (lt_jump_or hc hjump hv hw) hwx

/-- An exposed snapshot is emitted. -/
theorem mem_emitted_of_exposed {v : α} {cs : List (Cycle α)} (h : (machine next).Along Legal (some v) cs)
    (hexp : Exposed cs) : v ∈ emitted next (some v) cs := by
  induction cs with
  | nil => exact absurd hexp not_exposed_nil
  | cons c cs ih =>
    obtain ⟨hc, hcs⟩ := h
    obtain ⟨hjump, hrest⟩ := exposed_cons.1 hexp
    rw [emitted_cons]
    rcases step_cases next hc with ⟨hemit, hstep⟩ | ⟨saved, w, hemit, hw, hstep⟩
    · rw [hstep, hjump, Option.none_or] at hcs
      rw [hstep, hjump, Option.none_or]
      exact ih hcs (hrest.resolve_left (by simp [hemit]))
    · rw [hjump, Option.none_or] at hw
      obtain rfl := Option.some.inj hw
      rw [hstep]
      exact List.mem_append_left _ List.mem_cons_self

/-- A clean run emits strictly increasing values. -/
theorem increasing_of_clean (hnext : ∀ v, v < next v) {stored : Option α} {cs : List (Cycle α)}
    (h : (machine next).Along Legal stored cs) (hclean : Clean cs) : (emitted next stored cs).Pairwise (· < ·) := by
  induction cs generalizing stored with
  | nil => exact List.Pairwise.nil
  | cons c cs ih =>
    obtain ⟨hc, hcs⟩ := h
    obtain ⟨hhead, htail⟩ := clean_cons.1 hclean
    rw [emitted_cons]
    rcases step_cases next hc with ⟨-, hstep⟩ | ⟨saved, w, hemit, hw, hstep⟩
    · rw [hstep] at hcs ⊢
      exact ih hcs htail
    · rw [hstep] at hcs ⊢
      refine List.pairwise_cons.2 ⟨fun x hx => ?_, ih hcs htail⟩
      cases saved with
      | true => exact (hnext w).trans_le (le_of_mem_emitted hnext hcs rfl hx).1
      | false => exact (le_of_mem_emitted hnext hcs rfl hx).2 (hhead hemit)

/-- A run that emits no value twice is clean. -/
theorem clean_of_nodup {stored : Option α} {cs : List (Cycle α)} (h : (machine next).Along Legal stored cs)
    (hnodup : (emitted next stored cs).Nodup) : Clean cs := by
  induction cs generalizing stored with
  | nil =>
    rintro i j - ⟨c, hc, -⟩
    cases hc
  | cons c cs ih =>
    obtain ⟨hc, hcs⟩ := h
    rw [emitted_cons] at hnodup
    rcases step_cases next hc with ⟨hemit, hstep⟩ | ⟨saved, w, hemit, hw, hstep⟩
    · rw [hstep] at hcs hnodup
      exact clean_cons.2 ⟨fun hfalse => (by rw [hemit] at hfalse; cases hfalse), ih hcs hnodup⟩
    · rw [hstep] at hcs hnodup
      obtain ⟨hnew, hrest⟩ := List.nodup_cons.1 hnodup
      refine clean_cons.2 ⟨?_, ih hcs hrest⟩
      rintro hfalse hexp
      rw [hemit] at hfalse
      obtain rfl := Option.some.inj hfalse
      exact hnew (mem_emitted_of_exposed hcs hexp)

/-- What a run emits strictly increases exactly if the run is clean. -/
theorem increasing_iff (hnext : ∀ v, v < next v) {stored : Option α} {cs : List (Cycle α)}
    (h : (machine next).Along Legal stored cs) : (emitted next stored cs).Pairwise (· < ·) ↔ Clean cs :=
  ⟨fun hlt => clean_of_nodup h (hlt.imp ne_of_lt), increasing_of_clean hnext h⟩

/-- What a run emits is pairwise distinct exactly if the run is clean. -/
theorem nodup_iff (hnext : ∀ v, v < next v) {stored : Option α} {cs : List (Cycle α)}
    (h : (machine next).Along Legal stored cs) : (emitted next stored cs).Nodup ↔ Clean cs :=
  ⟨clean_of_nodup h, fun hclean => (increasing_of_clean hnext h hclean).imp ne_of_lt⟩

end Checkpoint
