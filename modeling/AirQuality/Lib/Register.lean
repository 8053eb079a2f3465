import AirQuality.Lib.Machine
import Mathlib.Data.List.Induction
import Mathlib.Data.List.ReduceOption
import Mathlib.Order.Lattice

/-!
# A register that keeps its last write

A cell that each step may overwrite, read through the times of its values. Over a run from an empty cell, the time read never
goes back exactly if the writes come in the order of their times (`forward_iff`), and then the cell ends with a greatest one
(`greatest`).
-/

namespace Register

variable {α β : Type*}

/-- The cell: a step may write to it. -/
def machine : Machine (Option α) (Option α) Unit where
  step stored write := (write.or stored, ())

/-- What a run of steps writes, in order. -/
abbrev written (ws : List (Option α)) : List α := ws.reduceOption

theorem run_snoc (ws : List (Option α)) (w : Option α) : machine.run none (ws ++ [w]) = w.or (machine.run none ws) :=
  machine.run_snoc none ws w

theorem written_snoc (ws : List (Option α)) (w : Option α) : written (ws ++ [w]) = written ws ++ w.toList := by
  cases w with
  | none => simp [written, List.reduceOption_append]
  | some a => simp [written, List.reduceOption_append]

/-- After a run from an empty cell it holds the last write. -/
theorem run_eq_getLast? (ws : List (Option α)) : machine.run none ws = (written ws).getLast? := by
  induction ws using List.reverseRecOn with
  | nil => rfl
  | append_singleton ws w ih =>
    rw [run_snoc, written_snoc, ih]
    cases w with
    | none => simp
    | some a => simp

variable [LinearOrder β] (time : α → β)

/-- At no step does the cell go from a value to one of an earlier time. -/
def Forward (ws : List (Option α)) : Prop :=
  ∀ k, ∀ v ∈ machine.run none (ws.take k), ∀ w ∈ machine.run none (ws.take (k + 1)), time v ≤ time w

/-- The writes come in the order of their times. -/
def Ordered (ws : List (Option α)) : Prop := (written ws).Pairwise (fun v w => time v ≤ time w)

/-- A run is ordered if of any two of its writes the first has the smaller time. -/
theorem ordered_iff (ws : List (Option α)) :
    Ordered time ws ↔
      ∀ (k l : Nat) (v w : α), k < l → ws[k]? = some (some v) → ws[l]? = some (some w) → time v ≤ time w := by
  unfold Ordered written List.reduceOption
  rw [List.pairwise_filterMap, List.pairwise_iff_getElem]
  constructor
  · intro h k l v w hkl hv hw
    obtain ⟨hk, hv⟩ := List.getElem?_eq_some_iff.1 hv
    obtain ⟨hl, hw⟩ := List.getElem?_eq_some_iff.1 hw
    exact h k l hk hl hkl v hv w hw
  · intro h k l hk hl hkl v hv w hw
    exact h k l v w hkl (List.getElem?_eq_some_iff.2 ⟨hk, hv⟩) (List.getElem?_eq_some_iff.2 ⟨hl, hw⟩)

/-- In an ordered run no write is later than the one the cell holds. -/
theorem Ordered.le_of_mem {ws : List (Option α)} (h : Ordered time ws) {v w : α} (hv : v ∈ machine.run none ws)
    (hw : w ∈ written ws) : time w ≤ time v := by
  rw [run_eq_getLast?] at hv
  obtain ⟨init, hinit⟩ := List.getLast?_eq_some_iff.1 hv
  unfold Ordered at h
  rw [hinit] at h hw
  obtain ⟨-, -, hlast⟩ := List.pairwise_append.1 h
  rcases List.mem_append.1 hw with hw | hw
  · exact hlast w hw v List.mem_cons_self
  · rw [List.mem_singleton.1 hw]

/-- A cell that holds a value holds one that was written. -/
theorem mem_written {ws : List (Option α)} {v : α} (hv : v ∈ machine.run none ws) : v ∈ written ws := by
  rw [run_eq_getLast?] at hv
  exact List.mem_of_getLast? hv

/-- Once something is written, the cell holds a value. -/
theorem exists_of_written {ws : List (Option α)} {w : α} (hw : w ∈ written ws) : ∃ v, v ∈ machine.run none ws := by
  rw [run_eq_getLast?]
  cases hlast : (written ws).getLast? with
  | none =>
    rw [List.getLast?_eq_none_iff.1 hlast] at hw
    cases hw
  | some v => exact ⟨v, rfl⟩

/-- After an ordered run the cell holds a greatest write, if there is one. -/
theorem greatest {ws : List (Option α)} (h : Ordered time ws) {w : α} (hw : w ∈ written ws) :
    ∃ v ∈ machine.run none ws, v ∈ written ws ∧ ∀ u ∈ written ws, time u ≤ time v := by
  obtain ⟨v, hv⟩ := exists_of_written hw
  exact ⟨v, hv, mem_written hv, fun u hu => h.le_of_mem time hv hu⟩

/-! ## One more step -/

theorem ordered_snoc {ws : List (Option α)} {w : Option α} :
    Ordered time (ws ++ [w]) ↔ Ordered time ws ∧ ∀ u ∈ w, ∀ v ∈ written ws, time v ≤ time u := by
  unfold Ordered
  rw [written_snoc, List.pairwise_append]
  cases w with
  | none => simp
  | some u => simp

theorem forward_snoc {ws : List (Option α)} {w : Option α} :
    Forward time (ws ++ [w]) ↔ Forward time ws ∧ ∀ u ∈ w, ∀ v ∈ machine.run none ws, time v ≤ time u := by
  constructor
  · intro h
    refine ⟨fun k v hv u hu => ?_, fun u hu v hv => ?_⟩
    · rcases Nat.lt_or_ge k ws.length with hk | hk
      · refine h k v ?_ u ?_
        · rwa [List.take_append_of_le_length (Nat.le_of_lt hk)]
        · rwa [List.take_append_of_le_length hk]
      · rw [List.take_of_length_le hk] at hv
        rw [List.take_of_length_le (Nat.le_succ_of_le hk)] at hu
        rw [Option.mem_unique hv hu]
    · refine h ws.length v ?_ u ?_
      · rwa [List.take_left']
        rfl
      · rw [List.take_of_length_le (by simp), run_snoc, Option.mem_def.1 hu]
        rfl
  · rintro ⟨h, hlast⟩ k v hv u hu
    rcases Nat.lt_trichotomy k ws.length with hk | rfl | hk
    · rw [List.take_append_of_le_length (Nat.le_of_lt hk)] at hv
      rw [List.take_append_of_le_length hk] at hu
      exact h k v hv u hu
    · rw [List.take_left' rfl] at hv
      rw [List.take_of_length_le (by simp), run_snoc] at hu
      cases w with
      | none =>
        rw [Option.none_or] at hu
        rw [Option.mem_unique hv hu]
      | some a =>
        rw [Option.some_or] at hu
        exact hlast u hu v hv
    · rw [List.take_of_length_le (by simp; omega)] at hv hu
      rw [Option.mem_unique hv hu]

/-- The time read never goes back exactly if the writes come in the order of their times. -/
theorem forward_iff (ws : List (Option α)) : Forward time ws ↔ Ordered time ws := by
  induction ws using List.reverseRecOn with
  | nil => exact iff_of_true (fun k v hv => by simp at hv) List.Pairwise.nil
  | append_singleton ws w ih =>
    rw [forward_snoc, ordered_snoc, ih]
    refine and_congr_right fun hordered => forall_congr' fun u => forall_congr' fun _ => ?_
    constructor
    · intro h v hv
      obtain ⟨last, hlast⟩ := exists_of_written hv
      exact (hordered.le_of_mem time hlast hv).trans (h last hlast)
    · intro h v hv
      exact h v (mem_written hv)

end Register
