import Mathlib.Data.List.Basic

/-!
# Machines that read inputs and give outputs

A `Machine` takes a state and an input to the next state and an output. A run is a list of inputs. What one step keeps, a run
keeps (`Machine.run_inv`), and a machine whose steps agree with another's along a relation gives the same outputs on every run
(`Machine.Refines.outputs_eq`), or on the runs that meet a condition under which they agree (`Machine.outputs_eq_of_along`).
-/

/-- A deterministic machine with inputs `ι` and outputs `ο`. -/
structure Machine (σ ι ο : Type*) where
  step : σ → ι → σ × ο

namespace Machine

variable {σ τ ι ο : Type*} (M : Machine σ ι ο)

/-- The state a run ends in. -/
def run (s : σ) : List ι → σ
  | [] => s
  | i :: is => run (M.step s i).1 is

/-- The outputs of a run, one per input. -/
def outputs (s : σ) : List ι → List ο
  | [] => []
  | i :: is => (M.step s i).2 :: outputs (M.step s i).1 is

@[simp] theorem run_nil (s : σ) : M.run s [] = s := rfl

@[simp] theorem run_cons (s : σ) (i : ι) (is : List ι) : M.run s (i :: is) = M.run (M.step s i).1 is := rfl

@[simp] theorem outputs_nil (s : σ) : M.outputs s [] = [] := rfl

@[simp] theorem outputs_cons (s : σ) (i : ι) (is : List ι) :
    M.outputs s (i :: is) = (M.step s i).2 :: M.outputs (M.step s i).1 is := rfl

/-- A run over a concatenation goes on from where the first part ended. -/
theorem run_append (s : σ) (is js : List ι) : M.run s (is ++ js) = M.run (M.run s is) js := by
  induction is generalizing s with
  | nil => rfl
  | cons i is ih => exact ih _

theorem run_snoc (s : σ) (is : List ι) (i : ι) : M.run s (is ++ [i]) = (M.step (M.run s is) i).1 := by
  rw [run_append, run_cons, run_nil]

/-- One more input gives one more output. -/
theorem outputs_snoc (s : σ) (is : List ι) (i : ι) : M.outputs s (is ++ [i]) = M.outputs s is ++ [(M.step (M.run s is) i).2] := by
  induction is generalizing s with
  | nil => rfl
  | cons j is ih => rw [List.cons_append, outputs_cons, outputs_cons, run_cons, ih, List.cons_append]

/-- Input `k` of a run gives output `k`, from the state the first `k` inputs lead to. -/
theorem outputs_getElem? (s : σ) (is : List ι) (k : Nat) :
    (M.outputs s is)[k]? = is[k]?.map (fun i => (M.step (M.run s (is.take k)) i).2) := by
  induction is generalizing s k with
  | nil => rfl
  | cons i is ih =>
    cases k with
    | zero => rfl
    | succ k => simpa using ih (M.step s i).1 k

/-- What every step keeps, every run keeps. -/
theorem run_inv {Inv : σ → Prop} (hstep : ∀ s i, Inv s → Inv (M.step s i).1) {s : σ} (hs : Inv s) (is : List ι) :
    Inv (M.run s is) := by
  induction is generalizing s with
  | nil => exact hs
  | cons i is ih => exact ih (hstep s i hs)

/-- What every step keeps that reads an input with `P` and gives an output with `Q`, a run of such steps keeps. -/
theorem run_inv_of_forall {Inv : σ → Prop} {P : ι → Prop} {Q : ο → Prop}
    (hstep : ∀ s i, P i → Q (M.step s i).2 → Inv s → Inv (M.step s i).1) {s : σ} (hs : Inv s) {is : List ι}
    (his : ∀ i ∈ is, P i) (hos : ∀ o ∈ M.outputs s is, Q o) : Inv (M.run s is) := by
  induction is generalizing s with
  | nil => exact hs
  | cons i is ih =>
    have hi := hstep s i (his i List.mem_cons_self) (hos _ List.mem_cons_self) hs
    exact ih hi (fun j hj => his j (List.mem_cons_of_mem _ hj)) (fun o ho => hos o (List.mem_cons_of_mem _ ho))

/-- What every step from states with `Inv` outputs, every run from one outputs. -/
theorem outputs_forall {Inv : σ → Prop} {P : ι → Prop} {Q : ο → Prop}
    (hstep : ∀ s i, P i → Inv s → Inv (M.step s i).1 ∧ Q (M.step s i).2) {s : σ} (hs : Inv s) {is : List ι}
    (his : ∀ i ∈ is, P i) : ∀ o ∈ M.outputs s is, Q o := by
  induction is generalizing s with
  | nil => simp
  | cons i is ih =>
    have hi := hstep s i (his i List.mem_cons_self) hs
    intro o ho
    rcases List.mem_cons.1 ho with rfl | ho
    · exact hi.2
    · exact ih hi.1 (fun j hj => his j (List.mem_cons_of_mem _ hj)) o ho

/-- Every step of a run is taken in a state, on an input, with `P`. -/
def Along (P : σ → ι → Prop) (s : σ) : List ι → Prop
  | [] => True
  | i :: is => P s i ∧ Along P (M.step s i).1 is

@[simp] theorem along_nil (P : σ → ι → Prop) (s : σ) : M.Along P s [] := trivial

@[simp] theorem along_cons (P : σ → ι → Prop) (s : σ) (i : ι) (is : List ι) :
    M.Along P s (i :: is) ↔ P s i ∧ M.Along P (M.step s i).1 is := Iff.rfl

instance decidableAlong (P : σ → ι → Prop) [∀ s i, Decidable (P s i)] (s : σ) (is : List ι) : Decidable (M.Along P s is) :=
  match is with
  | [] => inferInstanceAs (Decidable True)
  | i :: is => @instDecidableAnd _ _ _ (decidableAlong P (M.step s i).1 is)

/-- Along a run, what each input has in the state it is read in. -/
theorem along_iff_getElem? (P : σ → ι → Prop) (s : σ) (is : List ι) :
    M.Along P s is ↔ ∀ k i, is[k]? = some i → P (M.run s (is.take k)) i := by
  induction is generalizing s with
  | nil => simp
  | cons i is ih =>
    rw [along_cons, ih]
    constructor
    · rintro ⟨hi, h⟩ k j hj
      cases k with
      | zero => exact Option.some.inj hj ▸ hi
      | succ k => exact h k j hj
    · intro h
      exact ⟨h 0 i rfl, fun k => h (k + 1)⟩

/-- A longer run has one more step to look at. -/
theorem along_snoc (P : σ → ι → Prop) (s : σ) (is : List ι) (i : ι) :
    M.Along P s (is ++ [i]) ↔ M.Along P s is ∧ P (M.run s is) i := by
  induction is generalizing s with
  | nil => simp
  | cons j is ih => rw [List.cons_append, along_cons, along_cons, ih, run_cons, and_assoc]

theorem along_congr {P Q : σ → ι → Prop} (h : ∀ s i, P s i ↔ Q s i) (s : σ) (is : List ι) :
    M.Along P s is ↔ M.Along Q s is := by
  rw [along_iff_getElem?, along_iff_getElem?]
  exact forall_congr' (fun k => forall_congr' (fun i => imp_congr_right (fun _ => h _ i)))

/-- A condition on outputs only. -/
theorem along_outputs_iff (Q : ο → Prop) (s : σ) (is : List ι) :
    M.Along (fun s i => Q (M.step s i).2) s is ↔ ∀ o ∈ M.outputs s is, Q o := by
  induction is generalizing s with
  | nil => simp
  | cons i is ih => rw [along_cons, ih, outputs_cons, List.forall_mem_cons]

/-- Where steps on a condition keep an invariant, what the two give of an input holds along a run that meets the condition. -/
theorem along_of_inv {Inv : σ → Prop} {P Q : σ → ι → Prop} (hstep : ∀ s i, Inv s → P s i → Inv (M.step s i).1 ∧ Q s i)
    {s : σ} (hs : Inv s) {is : List ι} (h : M.Along P s is) : M.Along Q s is := by
  induction is generalizing s with
  | nil => trivial
  | cons i is ih =>
    obtain ⟨hnext, hi⟩ := hstep s i hs h.1
    exact ⟨hi, ih hnext h.2⟩

/-- Where a step keeps what holds exactly on a condition, every state a run reaches has it exactly if the condition is met along
the run. -/
theorem inv_take_iff_along {Inv : σ → Prop} {P : ι → Prop} {C : σ → ι → Prop}
    (hstep : ∀ s i, P i → Inv s → (Inv (M.step s i).1 ↔ C s i)) {s : σ} (hs : Inv s) {is : List ι}
    (his : ∀ i ∈ is, P i) : (∀ k, Inv (M.run s (is.take k))) ↔ M.Along C s is := by
  induction is generalizing s with
  | nil => simpa using hs
  | cons i is ih =>
    have hi := hstep s i (his i List.mem_cons_self) hs
    have his' : ∀ j ∈ is, P j := fun j hj => his j (List.mem_cons_of_mem _ hj)
    constructor
    · intro h
      have hnext : Inv (M.step s i).1 := by simpa using h 1
      exact ⟨hi.1 hnext, (ih hnext his').1 (fun k => h (k + 1))⟩
    · intro h k
      cases k with
      | zero => exact hs
      | succ k => exact (ih (hi.2 h.1) his').2 h.2 k

/-- Where a step relates its state to the next exactly on a condition, a run relates every state it reaches to all later ones
exactly if the condition is met along it. -/
theorem rel_take_iff_along {R : σ → σ → Prop} {C : σ → ι → Prop} (hrefl : ∀ s, R s s)
    (htrans : ∀ s t u, R s t → R t u → R s u) (hstep : ∀ s i, R s (M.step s i).1 ↔ C s i) (s : σ) (is : List ι) :
    (∀ j k, j ≤ k → R (M.run s (is.take j)) (M.run s (is.take k))) ↔ M.Along C s is := by
  induction is generalizing s with
  | nil => simp [hrefl]
  | cons i is ih =>
    rw [along_cons, ← hstep, ← ih]
    constructor
    · intro h
      exact ⟨by simpa using h 0 1 (Nat.zero_le 1), fun j k hjk => by simpa using h (j + 1) (k + 1) (by omega)⟩
    · rintro ⟨hi, h⟩ j k hjk
      cases k with
      | zero =>
        obtain rfl : j = 0 := by omega
        exact hrefl _
      | succ k =>
        cases j with
        | zero => exact htrans _ _ _ hi (h 0 k (Nat.zero_le k))
        | succ j => exact h j k (Nat.le_of_succ_le_succ hjk)

/-- What a step keeps on a condition, a run along which the condition is met keeps. -/
theorem run_inv_of_along {Inv : σ → Prop} {C : σ → ι → Prop} (hstep : ∀ s i, C s i → Inv s → Inv (M.step s i).1)
    {s : σ} (hs : Inv s) {is : List ι} (h : M.Along C s is) : Inv (M.run s is) := by
  induction is generalizing s with
  | nil => exact hs
  | cons i is ih => exact ih (hstep s i h.1 hs) h.2

/-- Where steps on a condition make a measure smaller, a run along which the condition is met is no longer than the measure. -/
theorem measure_add_length_le {Inv : σ → Prop} {C : σ → ι → Prop} (μ : σ → Nat)
    (hstep : ∀ s i, Inv s → C s i → Inv (M.step s i).1 ∧ μ (M.step s i).1 < μ s) {s : σ} (hs : Inv s) {is : List ι}
    (h : M.Along C s is) : μ (M.run s is) + is.length ≤ μ s := by
  induction is generalizing s with
  | nil => exact Nat.le_refl _
  | cons i is ih =>
    obtain ⟨hnext, hlt⟩ := hstep s i hs h.1
    have hrest := ih hnext h.2
    rw [run_cons, List.length_cons]
    omega

/-- The inputs of a run, each seen by `f` from the state it is read in. -/
def inputs {ι' : Type*} (f : σ → ι → ι') (s : σ) : List ι → List ι'
  | [] => []
  | i :: is => f s i :: inputs f (M.step s i).1 is

@[simp] theorem inputs_nil {ι' : Type*} (f : σ → ι → ι') (s : σ) : M.inputs f s [] = [] := rfl

@[simp] theorem inputs_cons {ι' : Type*} (f : σ → ι → ι') (s : σ) (i : ι) (is : List ι) :
    M.inputs f s (i :: is) = f s i :: M.inputs f (M.step s i).1 is := rfl

/-- Seen whatever the state, the inputs are mapped. -/
@[simp] theorem inputs_const {ι' : Type*} (f : ι → ι') (s : σ) (is : List ι) :
    M.inputs (fun _ => f) s is = is.map f := by
  induction is generalizing s with
  | nil => rfl
  | cons i is ih => rw [inputs_cons, List.map_cons, ih]

theorem inputs_getElem? {ι' : Type*} (f : σ → ι → ι') (s : σ) (is : List ι) (k : Nat) :
    (M.inputs f s is)[k]? = is[k]?.map (f (M.run s (is.take k))) := by
  induction is generalizing s k with
  | nil => rfl
  | cons i is ih =>
    cases k with
    | zero => rfl
    | succ k => simpa using ih (M.step s i).1 k

theorem inputs_snoc {ι' : Type*} (f : σ → ι → ι') (s : σ) (is : List ι) (i : ι) :
    M.inputs f s (is ++ [i]) = M.inputs f s is ++ [f (M.run s is) i] := by
  induction is generalizing s with
  | nil => rfl
  | cons j is ih => rw [List.cons_append, inputs_cons, inputs_cons, run_cons, ih, List.cons_append]

theorem inputs_take {ι' : Type*} (f : σ → ι → ι') (s : σ) (is : List ι) (k : Nat) :
    (M.inputs f s is).take k = M.inputs f s (is.take k) := by
  induction is generalizing s k with
  | nil => simp
  | cons i is ih =>
    cases k with
    | zero => rfl
    | succ k => rw [inputs_cons, List.take_succ_cons, List.take_succ_cons, inputs_cons, ih]

/-- A run has an input with `P`, seen by `f`, at step `k` exactly if the input of step `k` has it in the state it is read in. -/
theorem exists_inputs_iff {ι' : Type*} (f : σ → ι → ι') (s : σ) (is : List ι) (k : Nat) (P : ι' → Prop) :
    (∃ i', (M.inputs f s is)[k]? = some i' ∧ P i') ↔ ∃ i, is[k]? = some i ∧ P (f (M.run s (is.take k)) i) := by
  rw [inputs_getElem?]
  cases is[k]? with
  | none => simp
  | some i => simp

/-- `A` refines `B`: seen through `f` on inputs and `g` on outputs, `A` does in every state what `B` does in any state `R`
relates to it, and `R` is kept. -/
def Refines {ι' ο' : Type*} (A : Machine σ ι ο) (B : Machine τ ι' ο') (f : σ → ι → ι') (g : ο → ο')
    (R : σ → τ → Prop) : Prop :=
  ∀ s t i, R s t → R (A.step s i).1 (B.step t (f s i)).1 ∧ g (A.step s i).2 = (B.step t (f s i)).2

section Refines

variable {ι' ο' : Type*} {A : Machine σ ι ο} {B : Machine τ ι' ο'} {f : σ → ι → ι'} {g : ο → ο'} {R : σ → τ → Prop}

theorem Refines.run (h : A.Refines B f g R) {s : σ} {t : τ} (hst : R s t) (is : List ι) :
    R (A.run s is) (B.run t (A.inputs f s is)) := by
  induction is generalizing s t with
  | nil => exact hst
  | cons i is ih => exact ih (h s t i hst).1

/-- A refinement gives, seen through `g`, the outputs of what it refines. -/
theorem Refines.outputs_eq (h : A.Refines B f g R) {s : σ} {t : τ} (hst : R s t) (is : List ι) :
    (A.outputs s is).map g = B.outputs t (A.inputs f s is) := by
  induction is generalizing s t with
  | nil => rfl
  | cons i is ih =>
    rw [outputs_cons, List.map_cons, inputs_cons, outputs_cons, (h s t i hst).2, ih (h s t i hst).1]

/-- What holds of every input of `B` in related states holds along the runs of `B` that `A` makes. -/
theorem Refines.along (h : A.Refines B f g R) {P : τ → ι' → Prop} (hP : ∀ s t i, R s t → P t (f s i)) {s : σ} {t : τ}
    (hst : R s t) (is : List ι) : B.Along P t (A.inputs f s is) := by
  induction is generalizing s t with
  | nil => trivial
  | cons i is ih => exact ⟨hP s t i hst, ih (h s t i hst).1⟩

/-- Where `A` does what `B` does on every input that `B` reads on a condition, along a run of `B` that meets it the two give the
same outputs. -/
theorem outputs_eq_of_along {f : ι → ι'} {g : ο' → ο} {P : τ → ι' → Prop}
    (h : ∀ s t i, R s t → P t (f i) → R (A.step s i).1 (B.step t (f i)).1 ∧ (A.step s i).2 = g (B.step t (f i)).2)
    {s : σ} {t : τ} (hst : R s t) {is : List ι} (his : B.Along P t (is.map f)) :
    A.outputs s is = (B.outputs t (is.map f)).map g := by
  induction is generalizing s t with
  | nil => rfl
  | cons i is ih =>
    obtain ⟨hi, his'⟩ := his
    obtain ⟨hnext, hout⟩ := h s t i hst hi
    rw [outputs_cons, List.map_cons, outputs_cons, List.map_cons, hout, ih hnext his']

end Refines

end Machine
