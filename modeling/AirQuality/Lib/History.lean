import AirQuality.Lib.Machine
import Mathlib.Data.List.Induction

/-!
# What a run has been through

`History.Once P` says that some input of a run has `P`, which may look at the inputs before it; once true it stays true. An
invariant that speaks of the history of a state is proved by adding one input at a time (`Machine.run_history`).
-/

namespace History

variable {ι : Type*} {P Q : List ι → ι → Prop}

/-- Some input of the run has `P`, given the inputs before it. -/
def Once (P : List ι → ι → Prop) (is : List ι) : Prop := ∃ before i after, is = before ++ i :: after ∧ P before i

/-- What has happened has happened in every longer run. -/
theorem Once.append {is : List ι} (h : Once P is) (js : List ι) : Once P (is ++ js) := by
  obtain ⟨before, i, after, rfl, hi⟩ := h
  exact ⟨before, i, after ++ js, by rw [List.append_assoc, List.cons_append], hi⟩

/-- An input of a run and one more is that one, or one of the run. -/
theorem snoc_split {is before after : List ι} {i j : ι} (h : is ++ [i] = before ++ j :: after) :
    (before = is ∧ j = i) ∨ ∃ after', is = before ++ j :: after' := by
  rcases List.eq_nil_or_concat after with rfl | ⟨after, l, rfl⟩
  · obtain ⟨rfl, heq⟩ := List.append_inj' h rfl
    exact Or.inl ⟨rfl, (List.cons.inj heq).1.symm⟩
  · rw [List.concat_eq_append, ← List.cons_append, ← List.append_assoc] at h
    exact Or.inr ⟨after, (List.append_inj' h rfl).1⟩

theorem once_last {is : List ι} {i : ι} (h : P is i) : Once P (is ++ [i]) := ⟨is, i, [], rfl, h⟩

/-- What happens in a run happens at its first input or after it. -/
theorem once_cons {i : ι} {is : List ι} : Once P (i :: is) ↔ P [] i ∨ Once (fun before => P (i :: before)) is := by
  constructor
  · rintro ⟨before, j, after, hsplit, hj⟩
    cases before with
    | nil =>
      obtain ⟨rfl, -⟩ := List.cons.inj hsplit
      exact Or.inl hj
    | cons k before =>
      obtain ⟨rfl, rfl⟩ := List.cons.inj hsplit
      exact Or.inr ⟨before, j, after, rfl, hj⟩
  · rintro (hi | ⟨before, j, after, rfl, hj⟩)
    · exact ⟨[], i, is, rfl, hi⟩
    · exact ⟨i :: before, j, after, rfl, hj⟩

theorem Once.mono {is : List ι} (h : Once P is) (himp : ∀ before i, P before i → Q before i) : Once Q is := by
  obtain ⟨before, i, after, hsplit, hi⟩ := h
  exact ⟨before, i, after, hsplit, himp before i hi⟩

end History

namespace Machine

variable {σ ι ο : Type*} (M : Machine σ ι ο)

/-- What holds of the start, and with each further input of the state it leads to, holds of every run and the state it ends in. -/
theorem run_history {Inv : List ι → σ → Prop} {s : σ} (hs : Inv [] s)
    (hstep : ∀ is i, Inv is (M.run s is) → Inv (is ++ [i]) (M.step (M.run s is) i).1) (is : List ι) : Inv is (M.run s is) := by
  induction is using List.reverseRecOn with
  | nil => exact hs
  | append_singleton is i ih =>
    rw [run_snoc]
    exact hstep is i ih

end Machine
