import AirQuality.Lib.Table
import Mathlib.Logic.Function.Basic
import Mathlib.Order.Lattice

/-!
# The newest value of each key

A map from keys to values that each have a key and a time. `Newest.put` keeps the newer of what the map has and a value that
arrives. A map has caught up with a value when it has that value or a newer one of its key (`Newest.CaughtUp`). A map that takes
values in has caught up with each of them from then on, whatever comes after. `Newest.newer` is the same choice for the rows of a
table.
-/

namespace Newest

variable {α κ τ : Type*} [DecidableEq κ] [LinearOrder τ] (key : α → κ) (time : α → τ)

/-- Take a value in, unless the map has one of its key that is as new. -/
def put (m : κ → Option α) (a : α) : κ → Option α :=
  if (m (key a)).any (fun c => decide (time a ≤ time c)) then m else Function.update m (key a) (some a)

/-- The map has a value of the key of `a` that is at least as new. -/
def CaughtUp (m : κ → Option α) (a : α) : Prop := ∃ c, m (key a) = some c ∧ time a ≤ time c

/-- The newer of two rows, the one that is there if they are as new. -/
def newer (new old : α) : α := if time old < time new then new else old

variable {key time}

/-! ## Taking values in -/

omit [DecidableEq κ] in
theorem any_le_iff {m : κ → Option α} {a : α} :
    (m (key a)).any (fun c => decide (time a ≤ time c)) = true ↔ CaughtUp key time m a := by
  simp [CaughtUp, Option.any_eq_true]

/-- A value is left out exactly if the map has caught up with it. -/
theorem put_of_caughtUp {m : κ → Option α} {a : α} (h : CaughtUp key time m a) : put key time m a = m :=
  if_pos (any_le_iff.2 h)

theorem put_of_not_caughtUp {m : κ → Option α} {a : α} (h : ¬ CaughtUp key time m a) :
    put key time m a = Function.update m (key a) (some a) := if_neg (fun hc => h (any_le_iff.1 hc))

/-- A map has caught up with what it has taken in. -/
theorem caughtUp_put_self (m : κ → Option α) (a : α) : CaughtUp key time (put key time m a) a := by
  by_cases h : CaughtUp key time m a
  · rw [put_of_caughtUp h]
    exact h
  · rw [put_of_not_caughtUp h]
    exact ⟨a, Function.update_self .., le_refl _⟩

/-- A map that has caught up with a value does not fall behind it. -/
theorem CaughtUp.put {m : κ → Option α} {b : α} (h : CaughtUp key time m b) (a : α) :
    CaughtUp key time (put key time m a) b := by
  by_cases ha : CaughtUp key time m a
  · rw [put_of_caughtUp ha]
    exact h
  · rw [put_of_not_caughtUp ha]
    obtain ⟨c, hc, hle⟩ := h
    by_cases hk : key b = key a
    · refine ⟨a, by rw [hk, Function.update_self], ?_⟩
      have hlt : time c < time a := lt_of_not_ge (fun hac => ha ⟨c, hk ▸ hc, hac⟩)
      exact le_trans hle (le_of_lt hlt)
    · exact ⟨c, by rw [Function.update_of_ne hk, hc], hle⟩

theorem CaughtUp.foldl {m : κ → Option α} {b : α} (h : CaughtUp key time m b) (l : List α) :
    CaughtUp key time (l.foldl (Newest.put key time) m) b := by
  induction l generalizing m with
  | nil => exact h
  | cons a l ih => exact ih (h.put a)

/-- A map has caught up with each value of a list it has taken in. -/
theorem caughtUp_foldl_of_mem (m : κ → Option α) {l : List α} {b : α} (hb : b ∈ l) :
    CaughtUp key time (l.foldl (Newest.put key time) m) b := by
  induction l generalizing m with
  | nil => cases hb
  | cons a l ih =>
    rcases List.mem_cons.1 hb with rfl | hb
    · exact (caughtUp_put_self m b).foldl l
    · exact ih _ hb

omit [DecidableEq κ] in
/-- Caught up with a value is caught up with every older one of its key. -/
theorem CaughtUp.mono {m : κ → Option α} {a b : α} (h : CaughtUp key time m b) (hk : key a = key b)
    (ht : time a ≤ time b) : CaughtUp key time m a := by
  obtain ⟨c, hc, hle⟩ := h
  exact ⟨c, by rw [hk, hc], le_trans ht hle⟩

/-! ## Whatever the order -/

theorem put_eq_some {m : κ → Option α} {a c : α} {k : κ} (h : put key time m a k = some c) :
    m k = some c ∨ c = a ∧ k = key a := by
  by_cases ha : CaughtUp key time m a
  · rw [put_of_caughtUp ha] at h
    exact Or.inl h
  · rw [put_of_not_caughtUp ha] at h
    by_cases hk : k = key a
    · rw [hk, Function.update_self] at h
      exact Or.inr ⟨(Option.some.inj h).symm, hk⟩
    · rw [Function.update_of_ne hk] at h
      exact Or.inl h

/-- The time of a key never goes back. -/
theorem put_time_le {m : κ → Option α} {k : κ} {c : α} (h : m k = some c) (a : α) :
    ∃ c', put key time m a k = some c' ∧ time c ≤ time c' := by
  by_cases ha : CaughtUp key time m a
  · rw [put_of_caughtUp ha]
    exact ⟨c, h, le_refl _⟩
  · rw [put_of_not_caughtUp ha]
    by_cases hk : k = key a
    · subst hk
      exact ⟨a, Function.update_self .., le_of_lt (lt_of_not_ge (fun hac => ha ⟨c, h, hac⟩))⟩
    · exact ⟨c, by rw [Function.update_of_ne hk, h], le_refl _⟩

theorem foldl_put_time_le {m : κ → Option α} {k : κ} {c : α} (h : m k = some c) (l : List α) :
    ∃ c', l.foldl (put key time) m k = some c' ∧ time c ≤ time c' := by
  induction l generalizing m c with
  | nil => exact ⟨c, h, le_refl _⟩
  | cons a l ih =>
    obtain ⟨c', hc', hle⟩ : ∃ c', put key time m a k = some c' ∧ time c ≤ time c' := put_time_le h a
    obtain ⟨c'', hc'', hle'⟩ := ih hc'
    exact ⟨c'', hc'', le_trans hle hle'⟩

/-- What a map that was empty holds is one of the values it took in, of that key. -/
theorem mem_of_foldl_put {l : List α} {k : κ} {c : α} (h : l.foldl (put key time) (fun _ => none) k = some c) :
    c ∈ l ∧ key c = k := by
  induction l using List.reverseRecOn with
  | nil => cases h
  | append_singleton l a ih =>
    rw [List.foldl_append] at h
    rcases put_eq_some h with hc | ⟨rfl, rfl⟩
    · exact ⟨List.mem_append_left _ (ih hc).1, (ih hc).2⟩
    · exact ⟨List.mem_append_right _ (List.mem_singleton.2 rfl), rfl⟩

/-- Where no two values of a key have the same time, the map holds the newest of each key. -/
theorem foldl_put_eq_some_iff {l : List α} (hl : ∀ a ∈ l, ∀ b ∈ l, key a = key b → time a = time b → a = b) {k : κ} {c : α} :
    l.foldl (put key time) (fun _ => none) k = some c ↔
      c ∈ l ∧ key c = k ∧ ∀ b ∈ l, key b = k → time b ≤ time c := by
  have hnewest : ∀ c', l.foldl (put key time) (fun _ => none) k = some c' → ∀ b ∈ l, key b = k → time b ≤ time c' := by
    rintro c' hc' b hb rfl
    obtain ⟨d, hd, hle⟩ : CaughtUp key time _ b := caughtUp_foldl_of_mem (fun _ => none) hb
    obtain rfl := Option.some.inj (hd.symm.trans hc')
    exact hle
  constructor
  · intro h
    exact ⟨(mem_of_foldl_put h).1, (mem_of_foldl_put h).2, hnewest c h⟩
  · rintro ⟨hc, rfl, hmax⟩
    obtain ⟨d, hd, hle⟩ : CaughtUp key time _ c := caughtUp_foldl_of_mem (fun _ => none) hc
    obtain ⟨hdl, hdk⟩ := mem_of_foldl_put hd
    rw [hd, hl d hdl c hc hdk (le_antisymm (hmax d hdl hdk) hle)]

/-- Two lists of the same values leave the same map, whatever the order and however often each comes. -/
theorem foldl_put_congr {l l' : List α} (hl : ∀ a ∈ l, ∀ b ∈ l, key a = key b → time a = time b → a = b)
    (h : ∀ a, a ∈ l ↔ a ∈ l') : l.foldl (put key time) (fun _ => none) = l'.foldl (put key time) (fun _ => none) := by
  have hl' : ∀ a ∈ l', ∀ b ∈ l', key a = key b → time a = time b → a = b :=
    fun a ha b hb => hl a ((h a).2 ha) b ((h b).2 hb)
  funext k
  refine Option.ext fun c => ?_
  rw [foldl_put_eq_some_iff hl, foldl_put_eq_some_iff hl']
  simp only [h]

/-! ## The newest row of each key -/

/-- A table that keeps the newer row of each key: a row of it was there or has just come. -/
theorem mem_upsert_newer {rows : List α} {row r : α} (h : r ∈ Table.upsert key (newer time) rows row) :
    r ∈ rows ∨ r = row := by
  unfold Table.upsert at h
  split at h
  · obtain ⟨r', hr', rfl⟩ := List.mem_map.1 h
    split
    · unfold newer
      split
      · exact Or.inr rfl
      · exact Or.inl hr'
    · exact Or.inl hr'
  · rcases List.mem_append.1 h with h | h
    · exact Or.inl h
    · exact Or.inr (List.mem_singleton.1 h)

end Newest
