import Mathlib.Tactic.Common

/-!
# Routines that talk to a device

A driver routine asks a device one request after the other and gives up at the first one that is not answered. What it leaves is
its own state and the log of its requests with their answers. `Succeeds` is the outcome of a routine that gets through; each way
of putting routines together has its rule. `Guarded.answered` is the main fact: a routine that gets through had every request
answered, and its log holds what the device answered.
-/

namespace Exchange

variable {σ Req Ans α β : Type}

/-- What a routine leaves: the state of the driver, and its requests in order with their answers (`none` is a failed request). -/
structure Trace (σ Req Ans : Type) where
  state : σ
  log : List (Req × Option Ans)

/-- A routine: it gives a value or gives up, and leaves a trace either way. -/
abbrev Routine (σ Req Ans : Type) : Type → Type := OptionT (StateM (Trace σ Req Ans))

/-- The request `req`, answered by the device as its answer number `log.length`; the routine gives up when there is none. -/
def ask (device : Nat → Option Ans) (req : Req) : Routine σ Req Ans Ans := fun t =>
  (device t.log.length, { t with log := t.log ++ [(req, device t.log.length)] })

/-- A change of the driver's state. -/
def change (f : σ → σ) : Routine σ Req Ans Unit := fun t => (some (), { t with state := f t.state })

/-- The driver's state. -/
def current : Routine σ Req Ans σ := fun t => (some t.state, t)

/-- The outcome of a routine from a trace: its value, if it got through, and what it leaves. -/
def exec (m : Routine σ Req Ans α) (t : Trace σ Req Ans) : Option α × Trace σ Req Ans := m t

/-- The routine gets through from `t` with value `a` and leaves `t'`. -/
def Succeeds (m : Routine σ Req Ans α) (t : Trace σ Req Ans) (a : α) (t' : Trace σ Req Ans) : Prop := exec m t = (some a, t')

/-! ## The rules -/

@[simp] theorem succeeds_pure {a b : α} {t t' : Trace σ Req Ans} :
    Succeeds (pure a : Routine σ Req Ans α) t b t' ↔ a = b ∧ t = t' := by
  have hpure : exec (pure a : Routine σ Req Ans α) t = (some a, t) := rfl
  rw [Succeeds, hpure, Prod.mk.injEq, Option.some.injEq]

@[simp] theorem succeeds_failure {a : α} {t t' : Trace σ Req Ans} :
    ¬Succeeds (failure : Routine σ Req Ans α) t a t' := by
  have hfailure : exec (failure : Routine σ Req Ans α) t = (none, t) := rfl
  simp [Succeeds, hfailure]

theorem succeeds_bind {m : Routine σ Req Ans α} {f : α → Routine σ Req Ans β} {t t'' : Trace σ Req Ans} {b : β} :
    Succeeds (m >>= f) t b t'' ↔ ∃ a t', Succeeds m t a t' ∧ Succeeds (f a) t' b t'' := by
  have hbind : exec (m >>= f) t =
      match exec m t with
      | (some a, t') => exec (f a) t'
      | (none, t') => (none, t') := by
    simp only [exec, bind, OptionT.bind, OptionT.mk, StateT.bind, Id]
    rcases m t with ⟨_ | a, t'⟩ <;> rfl
  unfold Succeeds
  rw [hbind]
  rcases exec m t with ⟨_ | a, t'⟩
  · simp
  · constructor
    · intro h
      exact ⟨a, t', rfl, h⟩
    · rintro ⟨a', t'', h, hf⟩
      cases h
      exact hf

@[simp] theorem succeeds_ask {device : Nat → Option Ans} {req : Req} {t t' : Trace σ Req Ans} {ans : Ans} :
    Succeeds (ask device req) t ans t' ↔
      device t.log.length = some ans ∧ t' = { t with log := t.log ++ [(req, some ans)] } := by
  simp only [Succeeds, exec, ask, Prod.mk.injEq]
  constructor
  · rintro ⟨h, rfl⟩
    exact ⟨h, by rw [h]⟩
  · rintro ⟨h, rfl⟩
    exact ⟨h, by rw [h]⟩

@[simp] theorem succeeds_change {f : σ → σ} {t t' : Trace σ Req Ans} {u : Unit} :
    Succeeds (change f : Routine σ Req Ans Unit) t u t' ↔ t' = { t with state := f t.state } := by
  simp [Succeeds, exec, change, eq_comm]

@[simp] theorem succeeds_current {t t' : Trace σ Req Ans} {s : σ} :
    Succeeds (current : Routine σ Req Ans σ) t s t' ↔ s = t.state ∧ t' = t := by
  simp [Succeeds, exec, current, eq_comm]

/-! ## Routines that get through -/

/-- A routine that gets through only adds requests to the log, each with the answer the device gave it. -/
def Guarded (device : Nat → Option Ans) (m : Routine σ Req Ans α) : Prop :=
  ∀ t a t', Succeeds m t a t' →
    ∃ new : List (Req × Option Ans), t'.log = t.log ++ new ∧
      ∀ i e, new[i]? = some e → e.2 = device (t.log.length + i) ∧ e.2 ≠ none

variable {device : Nat → Option Ans}

theorem guarded_pure (a : α) : Guarded device (pure a : Routine σ Req Ans α) := by
  intro t b t' h
  obtain ⟨-, rfl⟩ := succeeds_pure.1 h
  exact ⟨[], by simp, by simp⟩

theorem guarded_failure : Guarded device (failure : Routine σ Req Ans α) :=
  fun _ _ _ h => absurd h succeeds_failure

theorem guarded_ask (req : Req) : Guarded device (ask device req : Routine σ Req Ans Ans) := by
  intro t ans t' h
  obtain ⟨hans, rfl⟩ := succeeds_ask.1 h
  refine ⟨[(req, some ans)], rfl, fun i e he => ?_⟩
  cases i with
  | zero =>
    cases he
    exact ⟨hans.symm, by simp⟩
  | succ i => cases he

theorem guarded_change (f : σ → σ) : Guarded device (change f : Routine σ Req Ans Unit) := by
  intro t u t' h
  rw [succeeds_change.1 h]
  exact ⟨[], by simp, by simp⟩

theorem guarded_current : Guarded device (current : Routine σ Req Ans σ) := by
  intro t s t' h
  obtain ⟨-, rfl⟩ := succeeds_current.1 h
  exact ⟨[], by simp, by simp⟩

theorem guarded_bind {m : Routine σ Req Ans α} {f : α → Routine σ Req Ans β} (hm : Guarded device m)
    (hf : ∀ a, Guarded device (f a)) : Guarded device (m >>= f) := by
  intro t b t'' h
  obtain ⟨a, t', h₁, h₂⟩ := succeeds_bind.1 h
  obtain ⟨new₁, hlog₁, hall₁⟩ := hm t a t' h₁
  obtain ⟨new₂, hlog₂, hall₂⟩ := hf a t' b t'' h₂
  refine ⟨new₁ ++ new₂, by rw [hlog₂, hlog₁, List.append_assoc], ?_⟩
  intro i e he
  by_cases hi : i < new₁.length
  · rw [List.getElem?_append_left hi] at he
    exact hall₁ i e he
  · rw [List.getElem?_append_right (Nat.not_lt.1 hi)] at he
    have hlater := hall₂ _ e he
    rw [hlog₁, List.length_append] at hlater
    have hindex : t.log.length + new₁.length + (i - new₁.length) = t.log.length + i := by omega
    rwa [hindex] at hlater

/-- A routine that gets through from an empty log had every request answered. -/
theorem Guarded.answered {m : Routine σ Req Ans α} (hm : Guarded device m) {s : σ} {a : α} {t' : Trace σ Req Ans}
    (h : Succeeds m { state := s, log := [] } a t') {i : Nat} {e : Req × Option Ans} (he : t'.log[i]? = some e) :
    e.2 = device i ∧ e.2 ≠ none := by
  obtain ⟨new, hlog, hall⟩ := hm _ a t' h
  rw [hlog, List.nil_append] at he
  simpa using hall i e he

end Exchange
