import Mathlib.Data.List.Induction
import Mathlib.Order.MinMax

/-!
# The widest answer

A value is kept with the range it was asked for. Requests settle in some order: an answer is taken in if its range is at least the
one recorded, and a failure records its range if that is wider, with the value that is there. So the range recorded is the widest
of all that have settled (`foldl_settle_fst`), and the value is an answer of the widest range that was answered exactly if such an
answer came before any wider request had failed (`snd_of_inTime`, `inTime_of_snd`).
-/

namespace Widest

variable {κ α : Type*} [LinearOrder κ]

/-- What is recorded once a request has settled, with an answer or, by failing, with none. -/
def settle (s : κ × α) (r : κ × Option α) : κ × α :=
  match r.2 with
  | some a => if s.1 ≤ r.1 then (r.1, a) else s
  | none => if s.1 < r.1 then (r.1, s.2) else s

/-- The requests of a list that were answered have at most this range. -/
def AnsweredWithin (l : List (κ × Option α)) (d : κ) : Prop := ∀ r ∈ l, r.2 ≠ none → r.1 ≤ d

/-- A request of the list was answered. -/
def Answered (l : List (κ × Option α)) : Prop := ∃ r ∈ l, r.2 ≠ none

/-- The value is the answer of a widest request that was answered. -/
def IsWidest (l : List (κ × Option α)) (a : α) : Prop := ∃ d, (d, some a) ∈ l ∧ AnsweredWithin l d

/-- A widest request that was answered settled before any wider one did. -/
def InTime (l : List (κ × Option α)) : Prop :=
  ∃ before d a after, l = before ++ (d, some a) :: after ∧ AnsweredWithin l d ∧ ∀ r ∈ before, r.1 ≤ d

/-! ## What the answers hold -/

/-- A request that has settled, whatever its answer holds. -/
def shape (r : κ × Option α) : κ × Bool := (r.1, r.2.isSome)

omit [LinearOrder κ] in
theorem answered_congr {l l' : List (κ × Option α)} (h : l.map shape = l'.map shape) : Answered l ↔ Answered l' := by
  have hshape : ∀ l : List (κ × Option α), Answered l ↔ ∃ s ∈ l.map shape, s.2 = true := fun l => by
    simp only [List.mem_map, exists_exists_and_eq_and, Answered, shape, Option.isSome_iff_ne_none]
  rw [hshape, hshape, h]

theorem answeredWithin_iff (l : List (κ × Option α)) (d : κ) :
    AnsweredWithin l d ↔ ∀ r ∈ l.map shape, r.2 = true → r.1 ≤ d := by
  rw [List.forall_mem_map]
  simp only [AnsweredWithin, shape, Option.isSome_iff_ne_none]

/-- Whether one settled in time is told without looking into the answers. -/
theorem inTime_iff (l : List (κ × Option α)) :
    InTime l ↔ ∃ before d after, l.map shape = before ++ (d, true) :: after ∧ (∀ r ∈ l.map shape, r.2 = true → r.1 ≤ d) ∧
      ∀ r ∈ before, r.1 ≤ d := by
  constructor
  · rintro ⟨before, d, a, after, heq, hl, hbefore⟩
    refine ⟨before.map shape, d, after.map shape, by rw [heq, List.map_append, List.map_cons]; rfl,
      (answeredWithin_iff l d).1 hl, ?_⟩
    rwa [List.forall_mem_map]
  · rintro ⟨before', d, after', heq, hl, hbefore⟩
    obtain ⟨before, rest, rfl, rfl, hrest⟩ := List.map_eq_append_iff.1 heq
    obtain ⟨⟨d', answer⟩, after, rfl, hr, -⟩ := List.map_eq_cons_iff.1 hrest
    obtain ⟨rfl, hsome⟩ := Prod.mk.inj hr
    obtain ⟨a, rfl⟩ := Option.isSome_iff_exists.1 hsome
    exact ⟨before, d', a, after, rfl, (answeredWithin_iff _ d').2 hl,
      fun r hr => hbefore (shape r) (List.mem_map_of_mem hr)⟩

theorem inTime_congr {l l' : List (κ × Option α)} (h : l.map shape = l'.map shape) : InTime l ↔ InTime l' := by
  rw [inTime_iff, inTime_iff, h]

/-! ## The range -/

@[simp] theorem settle_some (s : κ × α) (d : κ) (a : α) : settle s (d, some a) = if s.1 ≤ d then (d, a) else s := rfl

@[simp] theorem settle_none (s : κ × α) (d : κ) : settle s (d, none) = if s.1 < d then (d, s.2) else s := rfl

/-- The range recorded is the wider one. -/
theorem settle_fst (s : κ × α) (r : κ × Option α) : (settle s r).1 = max s.1 r.1 := by
  obtain ⟨d, _ | a⟩ := r
  · rw [settle_none]
    split_ifs with h
    · exact (max_eq_right h.le).symm
    · exact (max_eq_left (not_lt.1 h)).symm
  · rw [settle_some]
    split_ifs with h
    · exact (max_eq_right h).symm
    · exact (max_eq_left (not_le.1 h).le).symm

/-- The range recorded never shrinks, and covers every request that has settled. -/
theorem foldl_settle_fst (s : κ × α) (l : List (κ × Option α)) (d : κ) :
    (l.foldl settle s).1 ≤ d ↔ s.1 ≤ d ∧ ∀ r ∈ l, r.1 ≤ d := by
  induction l generalizing s with
  | nil => simp
  | cons r l ih => rw [List.foldl_cons, ih, settle_fst, max_le_iff, List.forall_mem_cons, and_assoc]

/-! ## The value -/

/-- After an answer of the widest range answered, the value is one of that range. -/
theorem foldl_settle_snd {l after : List (κ × Option α)} {d : κ} {s : κ × α} (hs : d ≤ s.1) (hmem : (d, some s.2) ∈ l)
    (hsub : ∀ r ∈ after, r ∈ l) (hl : AnsweredWithin l d) : (d, some (after.foldl settle s).2) ∈ l := by
  induction after generalizing s with
  | nil => exact hmem
  | cons r after ih =>
    have hsub' : ∀ r' ∈ after, r' ∈ l := fun r' hr' => hsub r' (List.mem_cons_of_mem _ hr')
    have hr := hsub r List.mem_cons_self
    refine ih (settle_fst s r ▸ hs.trans (le_max_left _ _)) ?_ hsub'
    obtain ⟨d', _ | a⟩ := r
    · rw [settle_none]
      split_ifs <;> exact hmem
    · rw [settle_some]
      split_ifs with htaken
      · -- taken, so as wide as the widest
        obtain rfl : d' = d := le_antisymm (hl _ hr (Option.some_ne_none a)) (hs.trans htaken)
        exact hr
      · exact hmem

/-- If a widest request answered settled in time, the value is the answer of a widest one. -/
theorem snd_of_inTime {l : List (κ × Option α)} (h : InTime l) {s : κ × α} (hs : ∀ r ∈ l, s.1 ≤ r.1) :
    IsWidest l (l.foldl settle s).2 := by
  obtain ⟨before, d, a, after, rfl, hl, hbefore⟩ := h
  have hd : (d, some a) ∈ before ++ (d, some a) :: after := List.mem_append_right _ List.mem_cons_self
  have hrange : (before.foldl settle s).1 ≤ d := (foldl_settle_fst s before d).2 ⟨hs _ hd, hbefore⟩
  refine ⟨d, ?_, hl⟩
  rw [List.foldl_append, List.foldl_cons, settle_some, if_pos hrange]
  exact foldl_settle_snd le_rfl hd (fun r hr => List.mem_append_right _ (List.mem_cons_of_mem _ hr)) hl

/-- The value is the one that was there, or that of an answer which came when nothing wider had settled. -/
theorem foldl_settle_snd_cases (s : κ × α) (l : List (κ × Option α)) :
    (l.foldl settle s).2 = s.2 ∨
      ∃ before d a after, l = before ++ (d, some a) :: after ∧ (∀ r ∈ before, r.1 ≤ d) ∧ (l.foldl settle s).2 = a := by
  induction l using List.reverseRecOn with
  | nil => exact Or.inl rfl
  | append_singleton l r ih =>
    have hkeep : (settle (l.foldl settle s) r).2 = (l.foldl settle s).2 →
        ((l ++ [r]).foldl settle s).2 = s.2 ∨
          ∃ before d a after, l ++ [r] = before ++ (d, some a) :: after ∧ (∀ r' ∈ before, r'.1 ≤ d) ∧
            ((l ++ [r]).foldl settle s).2 = a := by
      intro hr
      rw [List.foldl_append, List.foldl_cons, List.foldl_nil, hr]
      rcases ih with h | ⟨before, d, a, after, rfl, hbefore, h⟩
      · exact Or.inl h
      · exact Or.inr ⟨before, d, a, after ++ [r], by simp, hbefore, h⟩
    obtain ⟨d, _ | a⟩ := r
    · refine hkeep ?_
      rw [settle_none]
      split_ifs <;> rfl
    · by_cases htaken : (l.foldl settle s).1 ≤ d
      · refine Or.inr ⟨l, d, a, [], rfl, ((foldl_settle_fst s l d).1 htaken).2, ?_⟩
        rw [List.foldl_append, List.foldl_cons, List.foldl_nil, settle_some, if_pos htaken]
      · refine hkeep ?_
        rw [settle_some, if_neg htaken]

/-- Where answers of different ranges differ, and from the value that was there, the value is the answer of a widest request only
if one settled in time. -/
theorem inTime_of_snd {l : List (κ × Option α)} {s : κ × α} (h : IsWidest l (l.foldl settle s).2)
    (hnew : ∀ r ∈ l, r.2 ≠ some s.2) (hapart : ∀ r ∈ l, ∀ r' ∈ l, r.2 ≠ none → r.2 = r'.2 → r.1 = r'.1) : InTime l := by
  obtain ⟨w, hw, hwithin⟩ := h
  rcases foldl_settle_snd_cases s l with hold | ⟨before, d, a, after, heq, hbefore, ha⟩
  · rw [hold] at hw
    exact absurd rfl (hnew _ hw)
  · rw [ha] at hw
    have hmem : (d, some a) ∈ l := heq ▸ List.mem_append_right _ List.mem_cons_self
    obtain rfl : d = w := hapart _ hmem _ hw (Option.some_ne_none a) rfl
    exact ⟨before, d, a, after, heq, hwithin, hbefore⟩

end Widest
