/-!
# Programs that wait for the world

A `Program` is done with a value, has thrown, calls the world and goes on with its reply, or draws from a source. Of a call only the
text is known, so a program says which calls it makes and not what becomes of them. `Program.Wp` is its weakest precondition: `pre`
is what must hold at a call, `onCall` how the call changes a ghost state, and the number of draws made so far says what is drawn next.
A postcondition is proved along the program's own text, with a rule for each construct.
-/

/-- Programs with calls `κ`, replies `ρ` and draws `δ`. -/
inductive Program (κ ρ δ α : Type) where
  | done (a : α)
  | throw
  | call (c : κ) (k : ρ → Program κ ρ δ α)
  | draw (k : δ → Program κ ρ δ α)

namespace Program

variable {κ ρ δ α β γ : Type}

/-- Sequencing. -/
def bind : Program κ ρ δ α → (α → Program κ ρ δ β) → Program κ ρ δ β
  | done a, f => f a
  | throw, _ => throw
  | call c k, f => call c (fun r => (k r).bind f)
  | draw k, f => draw (fun x => (k x).bind f)

instance : Monad (Program κ ρ δ) where
  pure := done
  bind := bind

/-- `await` of a call. -/
def perform (c : κ) : Program κ ρ δ ρ := call c done

/-- A draw from the source. -/
def sample : Program κ ρ δ δ := draw done

section

variable (source : Nat → δ)

/-- A program goes on through its draws; the second component counts them. -/
def advance : Program κ ρ δ α → Nat → Program κ ρ δ α × Nat
  | draw k, n => advance (k (source n)) (n + 1)
  | p, n => (p, n)

variable (pre : Nat → γ → κ → Prop) (onCall : γ → κ → γ)

/-- The weakest precondition, after `n` draws and with a ghost state. -/
def Wp (Q : Nat → γ → α → Prop) : Program κ ρ δ α → Nat → γ → Prop
  | done a, n, g => Q n g a
  | throw, _, _ => True
  | call c k, n, g => pre n g c ∧ ∀ r, Wp Q (k r) n (onCall g c)
  | draw k, n, g => Wp Q (k (source n)) (n + 1) g

variable {source pre onCall}

theorem wp_pure {Q : Nat → γ → α → Prop} {a : α} {n : Nat} {g : γ} (h : Q n g a) :
    Wp source pre onCall Q (pure a : Program κ ρ δ α) n g := h

theorem wp_throw {Q : Nat → γ → α → Prop} {n : Nat} {g : γ} : Wp source pre onCall Q (throw : Program κ ρ δ α) n g := trivial

theorem wp_perform {Q : Nat → γ → ρ → Prop} {c : κ} {n : Nat} {g : γ} (hpre : pre n g c) (h : ∀ r, Q n (onCall g c) r) :
    Wp source pre onCall Q (perform c : Program κ ρ δ ρ) n g := ⟨hpre, h⟩

theorem wp_sample {Q : Nat → γ → δ → Prop} {n : Nat} {g : γ} (h : Q (n + 1) g (source n)) :
    Wp source pre onCall Q (sample : Program κ ρ δ δ) n g := h

/-- A program does what it does with any postcondition that is weaker. -/
theorem Wp.mono {Q Q' : Nat → γ → α → Prop} (hQ : ∀ n g a, Q n g a → Q' n g a) {p : Program κ ρ δ α} {n : Nat} {g : γ}
    (h : Wp source pre onCall Q p n g) : Wp source pre onCall Q' p n g := by
  induction p generalizing n g with
  | done a => exact hQ n g a h
  | throw => trivial
  | call c k ih => exact ⟨h.1, fun r => ih r (h.2 r)⟩
  | draw k ih => exact ih _ h

/-- A sequence does what its first part does up to what the rest needs. -/
theorem wp_bind {Q : Nat → γ → β → Prop} {p : Program κ ρ δ α} {f : α → Program κ ρ δ β} {n : Nat} {g : γ}
    (h : Wp source pre onCall (fun n g a => Wp source pre onCall Q (f a) n g) p n g) :
    Wp source pre onCall Q (p >>= f) n g := by
  induction p generalizing n g with
  | done a => exact h
  | throw => trivial
  | call c k ih => exact ⟨h.1, fun r => ih r (h.2 r)⟩
  | draw k ih => exact ih _ h

/-- Going through its draws does not change what a program does. -/
theorem Wp.advance {Q : Nat → γ → α → Prop} {p : Program κ ρ δ α} {n : Nat} {g : γ} (h : Wp source pre onCall Q p n g) :
    Wp source pre onCall Q (p.advance source n).1 (p.advance source n).2 g := by
  induction p generalizing n with
  | done a => exact h
  | throw => trivial
  | call c k ih => exact h
  | draw k ih => exact ih _ h

/-- The draws are counted. -/
theorem le_advance (source : Nat → δ) (p : Program κ ρ δ α) (n : Nat) : n ≤ (p.advance source n).2 := by
  induction p generalizing n with
  | done a => exact Nat.le_refl n
  | throw => exact Nat.le_refl n
  | call c k ih => exact Nat.le_refl n
  | draw k ih => exact Nat.le_of_succ_le (ih _ _)

end

end Program
