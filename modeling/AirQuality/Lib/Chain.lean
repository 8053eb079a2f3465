import Mathlib.Data.List.Basic
import Mathlib.Logic.Function.Basic

/-!
# Chains of promises

Tasks are submitted under a key and put behind the last task of that key: a task hangs on a promise, and the promise kept for the
key is the caught one of the latest task, which is fulfilled once the task is settled, however it ended. `Linked` says so of every
state. From it, the tasks of a key run one after another in the order they were submitted (`Linked.settled_before`), and a task can
start exactly when all earlier ones of its key are settled (`Linked.ready_iff`).
-/

namespace Chain

variable {κ α : Type}

/-- What a promise is: still pending, or settled in one of two ways. -/
inductive Outcome where
  | pending
  | fulfilled
  | rejected
deriving DecidableEq

/-- Where a task is: its function has not been called, it is running, or it has ended well or not. -/
inductive Status where
  | waiting
  | running
  | done
  | failed
deriving DecidableEq

/-- The function of the task was called and has ended. -/
def Status.Settled (s : Status) : Prop := s = .done ∨ s = .failed

instance (s : Status) : Decidable s.Settled := inferInstanceAs (Decidable (_ ∨ _))

@[simp] theorem Status.not_settled_waiting : ¬Status.waiting.Settled := by decide

@[simp] theorem Status.not_settled_running : ¬Status.running.Settled := by decide

theorem Status.not_settled_iff {s : Status} : ¬s.Settled ↔ s = .waiting ∨ s = .running := by
  cases s <;> decide

theorem Status.Settled.ne_waiting {s : Status} (h : s.Settled) : s ≠ .waiting := by
  rintro rfl
  exact not_settled_waiting h

/-- The promises there are: one that is resolved from the start, that of task `i`, and that of task `i` with its rejection caught. -/
inductive Promise where
  | resolved
  | task (i : Nat)
  | caught (i : Nat)
deriving DecidableEq

/-- A task: its key, what it does, and the promise whose `then` will call its function. -/
structure Task (κ α : Type) where
  key : κ
  what : α
  after : Promise
  status : Status
deriving DecidableEq

/-- All tasks in the order they were submitted, and the promise kept for each key. -/
structure State (κ α : Type) where
  tasks : List (Task κ α)
  queues : κ → Option Promise

/-- Nothing has been submitted. -/
def State.empty : State κ α := { tasks := [], queues := fun _ => none }

/-- What a promise is in a state. -/
def State.outcome (s : State κ α) : Promise → Outcome
  | .resolved => .fulfilled
  | .task i =>
    match (s.tasks[i]?).map Task.status with
    | some .done => .fulfilled
    | some .failed => .rejected
    | _ => .pending
  | .caught i =>
    match (s.tasks[i]?).map Task.status with
    | some .done => .fulfilled
    | some .failed => .fulfilled
    | _ => .pending

/-- Submit a task under a key: hang it on the promise kept for the key, and keep its own, caught. -/
def State.submit [DecidableEq κ] (s : State κ α) (key : κ) (what : α) : State κ α where
  tasks := s.tasks ++ [{ key, what, after := (s.queues key).getD .resolved, status := .waiting }]
  queues := Function.update s.queues key (some (.caught s.tasks.length))

/-- Task `i` gets a status. -/
def State.setStatus (s : State κ α) (i : Nat) (status : Status) : State κ α :=
  { s with tasks := s.tasks.modify i fun t => { t with status } }

/-- The reaction of a waiting task to its promise: its function is called if it is fulfilled, and passed over if it is rejected. -/
def State.react (s : State κ α) (i : Nat) : State κ α :=
  match s.tasks[i]? with
  | some t =>
    if t.status = .waiting then
      match s.outcome t.after with
      | .pending => s
      | .fulfilled => s.setStatus i .running
      | .rejected => s.setStatus i .failed
    else s
  | none => s

/-- A running task ends, well or not. -/
def State.settle (s : State κ α) (i : Nat) (ok : Bool) : State κ α :=
  match s.tasks[i]? with
  | some t => if t.status = .running then s.setStatus i (if ok then .done else .failed) else s
  | none => s

/-! ## The state after an operation -/

@[simp] theorem setStatus_queues (s : State κ α) (i : Nat) (status : Status) : (s.setStatus i status).queues = s.queues := rfl

theorem setStatus_getElem? (s : State κ α) (i j : Nat) (status : Status) :
    (s.setStatus i status).tasks[j]? = (s.tasks[j]?).map fun t => if i = j then { t with status } else t := by
  rw [State.setStatus, List.getElem?_modify]
  by_cases h : i = j
  · simp [h]
  · simp [h]

/-- The function of a waiting task is called once its promise is fulfilled. -/
theorem react_ready {s : State κ α} {i : Nat} {t : Task κ α} (ht : s.tasks[i]? = some t) (hw : t.status = .waiting)
    (ho : s.outcome t.after = .fulfilled) : s.react i = s.setStatus i .running := by
  simp [State.react, ht, hw, ho]

theorem settle_running {s : State κ α} {i : Nat} {t : Task κ α} (ht : s.tasks[i]? = some t) (hr : t.status = .running)
    (ok : Bool) : s.settle i ok = s.setStatus i (if ok then .done else .failed) := by
  simp [State.settle, ht, hr]

/-- A reaction changes nothing, or calls the function of a waiting task, or passes it over. -/
theorem react_cases (s : State κ α) (i : Nat) :
    s.react i = s ∨ ∃ t, s.tasks[i]? = some t ∧ t.status = .waiting ∧
      ((s.outcome t.after = .fulfilled ∧ s.react i = s.setStatus i .running) ∨
        (s.outcome t.after = .rejected ∧ s.react i = s.setStatus i .failed)) := by
  cases ht : s.tasks[i]? with
  | none => exact .inl (by simp [State.react, ht])
  | some t =>
    by_cases hw : t.status = .waiting
    swap
    · exact .inl (by simp [State.react, ht, hw])
    cases ho : s.outcome t.after with
    | pending => exact .inl (by simp [State.react, ht, hw, ho])
    | fulfilled => exact .inr ⟨t, rfl, hw, .inl ⟨ho, react_ready ht hw ho⟩⟩
    | rejected => exact .inr ⟨t, rfl, hw, .inr ⟨ho, by simp [State.react, ht, hw, ho]⟩⟩

/-- Only a running task ends. -/
theorem settle_cases (s : State κ α) (i : Nat) (ok : Bool) :
    s.settle i ok = s ∨ ∃ t, s.tasks[i]? = some t ∧ t.status = .running ∧
      s.settle i ok = s.setStatus i (if ok then .done else .failed) := by
  cases ht : s.tasks[i]? with
  | none => exact .inl (by simp [State.settle, ht])
  | some t =>
    by_cases hr : t.status = .running
    · exact .inr ⟨t, rfl, hr, settle_running ht hr ok⟩
    · exact .inl (by simp [State.settle, ht, hr])

/-! ## What a promise is -/

/-- A caught promise is fulfilled once its task is settled. -/
theorem outcome_caught {s : State κ α} {i : Nat} :
    s.outcome (.caught i) = .fulfilled ↔ ∃ t, s.tasks[i]? = some t ∧ t.status.Settled := by
  cases ht : s.tasks[i]? with
  | none => simp [State.outcome, ht]
  | some t => cases hs : t.status <;> simp [State.outcome, ht, hs, Status.Settled]

theorem outcome_caught_ne_rejected (s : State κ α) (i : Nat) : s.outcome (.caught i) ≠ .rejected := by
  cases ht : s.tasks[i]? with
  | none => simp [State.outcome, ht]
  | some t => cases hs : t.status <;> simp [State.outcome, ht, hs]

/-! ## The last task of a key -/

/-- `o` is the last of the first `n` positions that holds `key`, if there is one. -/
def LastBelow (keys : List κ) (key : κ) (n : Nat) : Option Nat → Prop
  | none => ∀ j < n, keys[j]? ≠ some key
  | some i => i < n ∧ keys[i]? = some key ∧ ∀ j, i < j → j < n → keys[j]? ≠ some key

theorem lastBelow_append {keys : List κ} {key : κ} {n : Nat} (hn : n ≤ keys.length) (more : List κ) (o : Option Nat) :
    LastBelow (keys ++ more) key n o ↔ LastBelow keys key n o := by
  have hget (j : Nat) (hj : j < n) : (keys ++ more)[j]? = keys[j]? := List.getElem?_append_left (by omega)
  cases o with
  | none => exact forall_congr' fun j => forall_congr' fun hj => by rw [hget j hj]
  | some i =>
    refine and_congr_right fun hi => and_congr (by rw [hget i hi]) ?_
    exact forall_congr' fun j => forall_congr' fun _ => forall_congr' fun hj => by rw [hget j hj]

theorem lastBelow_snoc_self (keys : List κ) (key : κ) :
    LastBelow (keys ++ [key]) key (keys.length + 1) (some keys.length) :=
  ⟨by omega, by simp, fun j h₁ h₂ => absurd h₁ (by omega)⟩

theorem lastBelow_snoc_other {keys : List κ} {key key' : κ} (hne : key' ≠ key) {o : Option Nat}
    (h : LastBelow keys key keys.length o) : LastBelow (keys ++ [key']) key (keys.length + 1) o := by
  have hlast : (keys ++ [key'])[keys.length]? ≠ some key := by simpa using hne
  rw [← lastBelow_append (Nat.le_refl _) [key']] at h
  cases o with
  | none =>
    intro j hj
    rcases Nat.lt_succ_iff_lt_or_eq.1 hj with hj | rfl
    · exact h j hj
    · exact hlast
  | some i =>
    refine ⟨by have := h.1; omega, h.2.1, fun j hij hj => ?_⟩
    rcases Nat.lt_succ_iff_lt_or_eq.1 hj with hj | rfl
    · exact h.2.2 j hij hj
    · exact hlast

/-! ## Linked states -/

/-- The keys of the tasks. -/
def State.keys (s : State κ α) : List κ := s.tasks.map Task.key

/-- The promise of a key with last task `o`. -/
def promiseOf (o : Option Nat) : Promise := (o.map .caught).getD .resolved

/-- Each key keeps the caught promise of its last task, each task hangs on that of the task before it under its key, and it has
started only if that was fulfilled. -/
structure Linked (s : State κ α) : Prop where
  queued : ∀ key, ∃ o, LastBelow s.keys key s.tasks.length o ∧ (s.queues key).getD .resolved = promiseOf o
  behind : ∀ (i : Nat) (t : Task κ α), s.tasks[i]? = some t → ∃ o, LastBelow s.keys t.key i o ∧ t.after = promiseOf o
  started : ∀ (i : Nat) (t : Task κ α), s.tasks[i]? = some t → t.status ≠ .waiting → s.outcome t.after = .fulfilled

theorem linked_empty : Linked (State.empty : State κ α) where
  queued key := ⟨none, fun j hj => absurd hj (Nat.not_lt_zero j), rfl⟩
  behind i t h := by simp [State.empty] at h
  started i t h := by simp [State.empty] at h

/-- What a linked state hangs its tasks on is never rejected: a failed task does not pass on its failure. -/
theorem promiseOf_ne_rejected (s : State κ α) (o : Option Nat) : s.outcome (promiseOf o) ≠ .rejected := by
  cases o with
  | none => simp [promiseOf, State.outcome]
  | some i => exact outcome_caught_ne_rejected s i

/-- Submitting keeps the promises there were as they were. -/
theorem submit_outcome [DecidableEq κ] (s : State κ α) (key : κ) (what : α) {o : Option Nat}
    (ho : ∀ i ∈ o, i < s.tasks.length) : (s.submit key what).outcome (promiseOf o) = s.outcome (promiseOf o) := by
  cases o with
  | none => rfl
  | some i =>
    have hi := ho i rfl
    simp only [promiseOf, Option.map_some, Option.getD_some, State.outcome, State.submit, List.getElem?_append_left hi]

theorem lastBelow_lt {keys : List κ} {key : κ} {n : Nat} {o : Option Nat} (h : LastBelow keys key n o) : ∀ i ∈ o, i < n := by
  rintro i rfl
  exact h.1

theorem submit_keys [DecidableEq κ] (s : State κ α) (key : κ) (what : α) :
    (s.submit key what).keys = s.keys ++ [key] := by
  simp [State.keys, State.submit]

theorem keys_length (s : State κ α) : s.keys.length = s.tasks.length := List.length_map _

/-- A task that was there before a submission, or the new one. -/
theorem submit_getElem? [DecidableEq κ] {s : State κ α} {key : κ} {what : α} {i : Nat} {t : Task κ α}
    (h : (s.submit key what).tasks[i]? = some t) :
    (i < s.tasks.length ∧ s.tasks[i]? = some t) ∨
      (i = s.tasks.length ∧ t = { key, what, after := (s.queues key).getD .resolved, status := .waiting }) := by
  rw [State.submit] at h
  rcases Nat.lt_trichotomy i s.tasks.length with hi | rfl | hi
  · rw [List.getElem?_append_left hi] at h
    exact .inl ⟨hi, h⟩
  · rw [List.getElem?_concat_length] at h
    exact .inr ⟨rfl, (Option.some.inj h).symm⟩
  · rw [List.getElem?_eq_none (by rw [List.length_append, List.length_singleton]; omega)] at h
    cases h

theorem Linked.submit [DecidableEq κ] {s : State κ α} (h : Linked s) (key : κ) (what : α) : Linked (s.submit key what) where
  queued key' := by
    rw [submit_keys, ← keys_length, submit_keys, List.length_append, List.length_singleton]
    by_cases hkey : key' = key
    · subst hkey
      exact ⟨some s.keys.length, lastBelow_snoc_self s.keys key', by simp [State.submit, promiseOf, keys_length]⟩
    · obtain ⟨o, ho, hq⟩ := h.queued key'
      rw [← keys_length] at ho
      exact ⟨o, lastBelow_snoc_other (Ne.symm hkey) ho, by rw [← hq]; simp [State.submit, hkey]⟩
  behind i t ht := by
    rw [submit_keys]
    rcases submit_getElem? ht with ⟨hi, ht⟩ | ⟨rfl, rfl⟩
    · obtain ⟨o, ho, hafter⟩ := h.behind i t ht
      exact ⟨o, (lastBelow_append (by rw [keys_length]; omega) _ o).2 ho, hafter⟩
    · obtain ⟨o, ho, hq⟩ := h.queued key
      exact ⟨o, (lastBelow_append (Nat.le_of_eq (keys_length s).symm) _ o).2 ho, hq⟩
  started i t ht hw := by
    rcases submit_getElem? ht with ⟨hi, ht⟩ | ⟨rfl, rfl⟩
    · obtain ⟨o, ho, hafter⟩ := h.behind i t ht
      have hstarted := h.started i t ht hw
      rw [hafter] at hstarted ⊢
      rw [submit_outcome s key what fun j hj => Nat.lt_trans (lastBelow_lt ho j hj) hi]
      exact hstarted
    · exact absurd rfl hw

@[simp] theorem setStatus_keys (s : State κ α) (i : Nat) (status : Status) : (s.setStatus i status).keys = s.keys := by
  apply List.ext_getElem?
  intro j
  simp only [State.keys, List.getElem?_map, setStatus_getElem?, Option.map_map]
  congr 1
  funext t
  by_cases h : i = j
  · simp [h]
  · simp [h]

@[simp] theorem setStatus_length (s : State κ α) (i : Nat) (status : Status) :
    (s.setStatus i status).tasks.length = s.tasks.length := by
  rw [← keys_length, setStatus_keys, keys_length]

/-- A promise that was fulfilled still is, when no settled task gets another status. -/
theorem setStatus_outcome {s : State κ α} {i : Nat} {t : Task κ α} {status : Status} (ht : s.tasks[i]? = some t)
    (hkeep : ¬t.status.Settled) {o : Option Nat} (h : s.outcome (promiseOf o) = .fulfilled) :
    (s.setStatus i status).outcome (promiseOf o) = .fulfilled := by
  cases o with
  | none => rfl
  | some j =>
    obtain ⟨u, hu, hsettled⟩ := outcome_caught.1 h
    have hij : i ≠ j := by
      rintro rfl
      rw [ht] at hu
      exact hkeep (Option.some.inj hu ▸ hsettled)
    exact outcome_caught.2 ⟨u, by rw [setStatus_getElem?, hu, Option.map_some, if_neg hij], hsettled⟩

theorem Linked.setStatus {s : State κ α} (h : Linked s) {i : Nat} {t : Task κ α} {status : Status}
    (ht : s.tasks[i]? = some t) (hkeep : ¬t.status.Settled) (hready : s.outcome t.after = .fulfilled) :
    Linked (s.setStatus i status) where
  queued key := by
    rw [setStatus_keys, setStatus_length, setStatus_queues]
    exact h.queued key
  behind j u hu := by
    rw [setStatus_getElem?, Option.map_eq_some_iff] at hu
    obtain ⟨v, hv, rfl⟩ := hu
    rw [setStatus_keys]
    split_ifs
    · exact h.behind j v hv
    · exact h.behind j v hv
  started j u hu hw := by
    rw [setStatus_getElem?, Option.map_eq_some_iff] at hu
    obtain ⟨v, hv, rfl⟩ := hu
    obtain ⟨o, -, hafter⟩ := h.behind j v hv
    by_cases hij : i = j
    · subst hij
      obtain rfl : t = v := Option.some.inj (ht.symm.trans hv)
      rw [if_pos rfl]
      rw [hafter] at hready ⊢
      exact setStatus_outcome ht hkeep hready
    · rw [if_neg hij] at hw ⊢
      have hstarted := h.started j v hv hw
      rw [hafter] at hstarted ⊢
      exact setStatus_outcome ht hkeep hstarted

/-- In a linked state no task is passed over: a reaction changes nothing or calls the function of a waiting task. -/
theorem Linked.react_cases {s : State κ α} (h : Linked s) (i : Nat) :
    s.react i = s ∨ ∃ t, s.tasks[i]? = some t ∧ t.status = .waiting ∧ s.outcome t.after = .fulfilled ∧
      s.react i = s.setStatus i .running := by
  rcases Chain.react_cases s i with hsame | ⟨t, ht, hw, ⟨ho, hrun⟩ | ⟨ho, -⟩⟩
  · exact .inl hsame
  · exact .inr ⟨t, ht, hw, ho, hrun⟩
  · obtain ⟨o, -, hafter⟩ := h.behind i t ht
    rw [hafter] at ho
    exact absurd ho (promiseOf_ne_rejected s o)

theorem Linked.react {s : State κ α} (h : Linked s) (i : Nat) : Linked (s.react i) := by
  rcases h.react_cases i with hsame | ⟨t, ht, hw, hready, hrun⟩
  · rw [hsame]
    exact h
  · rw [hrun]
    exact h.setStatus ht (by rw [hw]; decide) hready

theorem Linked.settle {s : State κ α} (h : Linked s) (i : Nat) (ok : Bool) : Linked (s.settle i ok) := by
  rcases settle_cases s i ok with hsame | ⟨t, ht, hr, hend⟩
  · rw [hsame]
    exact h
  · rw [hend]
    exact h.setStatus ht (by rw [hr]; decide) (h.started i t ht (by rw [hr]; decide))

/-! ## One after another -/

/-- The task before task `j` under its key: nothing, or the last one, which `j` hangs on. -/
theorem Linked.before {s : State κ α} (h : Linked s) {j : Nat} {u : Task κ α} (hu : s.tasks[j]? = some u) :
    (∀ i t, i < j → s.tasks[i]? = some t → t.key ≠ u.key) ∧ u.after = .resolved ∨
      ∃ i t, i < j ∧ s.tasks[i]? = some t ∧ t.key = u.key ∧ u.after = .caught i ∧
        ∀ i' t', i < i' → i' < j → s.tasks[i']? = some t' → t'.key ≠ u.key := by
  obtain ⟨o, ho, hafter⟩ := h.behind j u hu
  have hkey {i : Nat} {t : Task κ α} (ht : s.tasks[i]? = some t) : s.keys[i]? = some t.key := by
    rw [State.keys, List.getElem?_map, ht, Option.map_some]
  cases o with
  | none => exact .inl ⟨fun i t hi ht heq => ho i hi (heq ▸ hkey ht), hafter⟩
  | some i =>
    obtain ⟨hi, hat, hlast⟩ := ho
    rw [State.keys, List.getElem?_map, Option.map_eq_some_iff] at hat
    obtain ⟨t, ht, heq⟩ := hat
    exact .inr ⟨i, t, hi, ht, heq, hafter, fun i' t' h₁ h₂ ht' heq' => hlast i' h₁ h₂ (heq' ▸ hkey ht')⟩

/-- When the function of a task has been called, all earlier tasks of its key are settled. -/
theorem Linked.settled_before {s : State κ α} (h : Linked s) {i j : Nat} {t u : Task κ α} (ht : s.tasks[i]? = some t)
    (hu : s.tasks[j]? = some u) (hij : i < j) (hkey : t.key = u.key) (hstarted : u.status ≠ .waiting) :
    t.status.Settled := by
  -- the induction goes from a task to the one it hangs on
  induction j using Nat.strongRecOn generalizing u with
  | ind j ih =>
    have hready := h.started j u hu hstarted
    rcases h.before hu with ⟨hnone, -⟩ | ⟨i', t', hi', ht', hkey', hafter, hlast⟩
    · exact absurd hkey (hnone i t hij ht)
    · rw [hafter, outcome_caught] at hready
      obtain ⟨v, hv, hsettled⟩ := hready
      obtain rfl : t' = v := Option.some.inj (ht'.symm.trans hv)
      rcases Nat.lt_trichotomy i i' with hlt | rfl | hgt
      · exact ih i' hi' ht' hlt (hkey.trans hkey'.symm) hsettled.ne_waiting
      · obtain rfl : t = t' := Option.some.inj (ht.symm.trans ht')
        exact hsettled
      · exact absurd hkey (hlast i t hgt hij ht)

/-- The function of a waiting task can be called exactly when all earlier tasks of its key are settled, well or not; tasks of other
keys do not matter. -/
theorem Linked.ready_iff {s : State κ α} (h : Linked s) {j : Nat} {u : Task κ α} (hu : s.tasks[j]? = some u) :
    s.outcome u.after = .fulfilled ↔
      ∀ i t, i < j → s.tasks[i]? = some t → t.key = u.key → t.status.Settled := by
  rcases h.before hu with ⟨hnone, hafter⟩ | ⟨i', t', hi', ht', hkey', hafter, hlast⟩
  · rw [hafter]
    exact ⟨fun _ i t hi ht hkey => absurd hkey (hnone i t hi ht), fun _ => rfl⟩
  · rw [hafter, outcome_caught]
    constructor
    · rintro ⟨v, hv, hsettled⟩ i t hi ht hkey
      obtain rfl : t' = v := Option.some.inj (ht'.symm.trans hv)
      rcases Nat.lt_trichotomy i i' with hlt | rfl | hgt
      · exact h.settled_before ht ht' hlt (hkey.trans hkey'.symm) hsettled.ne_waiting
      · obtain rfl : t = t' := Option.some.inj (ht.symm.trans ht')
        exact hsettled
      · exact absurd hkey (hlast i t hgt hi ht)
    · intro hall
      exact ⟨t', ht', hall i' t' hi' ht' hkey'⟩

/-- In a linked state a reaction calls the function of a waiting task exactly when all earlier tasks of its key are settled. -/
theorem Linked.react_running_iff {s : State κ α} (h : Linked s) {j : Nat} {u : Task κ α} (hu : s.tasks[j]? = some u)
    (hw : u.status = .waiting) :
    (s.react j).tasks[j]? = some { u with status := .running } ↔
      ∀ i t, i < j → s.tasks[i]? = some t → t.key = u.key → t.status.Settled := by
  rw [← h.ready_iff hu]
  rcases h.react_cases j with hsame | ⟨t, ht, -, hready, hrun⟩
  · have hne : s.outcome u.after ≠ .fulfilled := by
      intro ho
      have hchanged := congrArg (fun s => s.tasks[j]?) ((react_ready hu hw ho).symm.trans hsame)
      simp only [setStatus_getElem?, hu, Option.map_some, if_pos] at hchanged
      exact absurd ((congrArg Task.status (Option.some.inj hchanged)).trans hw) (by simp)
    rw [hsame, hu]
    refine iff_of_false (fun heq => ?_) hne
    exact absurd (hw.symm.trans (congrArg Task.status (Option.some.inj heq))) (by simp)
  · obtain rfl : t = u := Option.some.inj (ht.symm.trans hu)
    rw [hrun, setStatus_getElem?, hu]
    simp [hready]

end Chain
