import Mathlib.Data.List.Perm.Basic
import Mathlib.Data.List.Sort
import Mathlib.Order.Defs.LinearOrder

/-!
# Waiting in line

Takers come one after the other and wait in line, each for one item; they are numbered as they come. An item goes to the first in
line, or by if nobody waits, and a taker may give up. `Line.LineInv` says how those that were served, those that gave up and those
that wait make up all that came: nobody is served twice, or after it gave up, and all are served in the order in which they came.
-/

namespace Line

/-- The numbers of those that wait, the first in line first, and how many have come. -/
structure State where
  waiting : List Nat
  came : Nat
deriving DecidableEq

inductive Event (α : Type*) where
  | come
  | item (x : α)
  | leave (taker : Nat)
deriving DecidableEq

inductive Outcome (α : Type*) where
  | served (taker : Nat) (x : α)
  /-- An item that nobody waited for. -/
  | passed (x : α)
  | left (taker : Nat)
deriving DecidableEq

variable {α : Type*}

def Event.item? : Event α → Option α
  | .item x => some x
  | _ => none

def Outcome.item? : Outcome α → Option α
  | .served _ x | .passed x => some x
  | .left _ => none

/-- The taker that is done waiting. -/
def Outcome.taker? : Outcome α → Option Nat
  | .served taker _ | .left taker => some taker
  | .passed _ => none

def Outcome.served? : Outcome α → Option Nat
  | .served taker _ => some taker
  | _ => none

def init : State := ⟨[], 0⟩

/-- One step, with what it gives; `none` is no event. -/
def step (s : State) : Option (Event α) → State × Option (Outcome α)
  | none => (s, none)
  | some .come => (⟨s.waiting ++ [s.came], s.came + 1⟩, none)
  | some (.item x) =>
    match s.waiting with
    | [] => (s, some (.passed x))
    | taker :: waiting => (⟨waiting, s.came⟩, some (.served taker x))
  | some (.leave taker) =>
    if taker ∈ s.waiting then (⟨s.waiting.filter (fun w => decide (w ≠ taker)), s.came⟩, some (.left taker)) else (s, none)

theorem step_item_nil {s : State} (h : s.waiting = []) (x : α) : step s (some (.item x)) = (s, some (.passed x)) := by
  simp only [step, h]

theorem step_item_cons {s : State} {taker : Nat} {waiting : List Nat} (h : s.waiting = taker :: waiting) (x : α) :
    step s (some (.item x)) = (⟨waiting, s.came⟩, some (.served taker x)) := by
  simp only [step, h]

theorem step_leave_mem {s : State} {taker : Nat} (h : taker ∈ s.waiting) :
    step s (some (Event.leave taker : Event α)) =
      (⟨s.waiting.filter (fun w => decide (w ≠ taker)), s.came⟩, some (.left taker)) := if_pos h

theorem step_leave_notMem {s : State} {taker : Nat} (h : taker ∉ s.waiting) :
    step s (some (Event.leave taker : Event α)) = (s, none) := if_neg h

/-- An element of a list without duplicates, and the others. -/
theorem perm_cons_filter {β : Type*} [DecidableEq β] {l : List β} (h : l.Nodup) {a : β} (ha : a ∈ l) :
    (a :: l.filter (fun b => decide (b ≠ a))).Perm l := by
  have herase : l.erase a = l.filter (fun b => decide (b ≠ a)) := by
    rw [h.erase_eq_filter]
    refine List.filter_congr ?_
    intro b _
    by_cases hb : b = a <;> simp [hb]
  rw [← herase]
  exact (List.perm_cons_erase ha).symm

/-! ## What every step keeps -/

/-- What has been given, and who waits. -/
structure LineInv (es : List (Option (Event α))) (gs : List (Outcome α)) (s : State) : Prop where
  /-- Every item is given once, in the order of the items. -/
  items : gs.filterMap Outcome.item? = es.filterMap (fun e => e.bind Event.item?)
  /-- Those that are done waiting and those that wait are all that came, each once. -/
  perm : (gs.filterMap Outcome.taker? ++ s.waiting).Perm (List.range s.came)
  /-- The line is in the order of coming, and all that were served came before those in it. -/
  sorted : (gs.filterMap Outcome.served? ++ s.waiting).Pairwise (· < ·)

theorem lineInv_init : LineInv [] ([] : List (Outcome α)) init := ⟨rfl, List.Perm.refl _, List.Pairwise.nil⟩

/-- Whoever was served is done waiting. -/
theorem mem_taker_of_mem_served {gs : List (Outcome α)} {taker : Nat} (h : taker ∈ gs.filterMap Outcome.served?) :
    taker ∈ gs.filterMap Outcome.taker? := by
  obtain ⟨g, hg, hserved⟩ := List.mem_filterMap.1 h
  refine List.mem_filterMap.2 ⟨g, hg, ?_⟩
  cases g with
  | served taker' x => exact hserved
  | passed x => cases hserved
  | left taker' => cases hserved

variable {es : List (Option (Event α))} {gs : List (Outcome α)} {s : State}

/-- Only those that have come were served or wait. -/
theorem LineInv.lt_came (h : LineInv es gs s) {taker : Nat} (htaker : taker ∈ gs.filterMap Outcome.served? ++ s.waiting) :
    taker < s.came := by
  refine List.mem_range.1 (h.perm.mem_iff.1 ?_)
  rcases List.mem_append.1 htaker with hserved | hwaits
  · exact List.mem_append_left _ (mem_taker_of_mem_served hserved)
  · exact List.mem_append_right _ hwaits

theorem lineInv_come (h : LineInv es gs s) : LineInv (es ++ [some .come]) gs ⟨s.waiting ++ [s.came], s.came + 1⟩ := by
  refine ⟨?_, ?_, ?_⟩
  · rw [h.items, List.filterMap_append]
    exact (List.append_nil _).symm
  · rw [← List.append_assoc, List.range_succ]
    exact h.perm.append_right _
  · rw [← List.append_assoc]
    refine List.pairwise_append.2 ⟨h.sorted, List.pairwise_singleton _ _, ?_⟩
    intro taker htaker w hw
    rw [List.mem_singleton.1 hw]
    exact h.lt_came htaker

theorem lineInv_passed (h : LineInv es gs s) (x : α) : LineInv (es ++ [some (.item x)]) (gs ++ [.passed x]) s := by
  refine ⟨?_, ?_, ?_⟩
  · rw [List.filterMap_append, List.filterMap_append, h.items]
    rfl
  · rw [List.filterMap_append]
    exact (List.append_nil _).symm ▸ h.perm
  · rw [List.filterMap_append]
    exact (List.append_nil _).symm ▸ h.sorted

theorem lineInv_served (h : LineInv es gs s) {taker : Nat} {waiting : List Nat} (hs : s.waiting = taker :: waiting) (x : α) :
    LineInv (es ++ [some (.item x)]) (gs ++ [.served taker x]) ⟨waiting, s.came⟩ := by
  have hperm := h.perm
  have hsorted := h.sorted
  rw [hs] at hperm hsorted
  refine ⟨?_, ?_, ?_⟩
  · rw [List.filterMap_append, List.filterMap_append, h.items]
    rfl
  · rw [List.filterMap_append, List.append_assoc]
    exact hperm
  · rw [List.filterMap_append, List.append_assoc]
    exact hsorted

theorem lineInv_left (h : LineInv es gs s) {taker : Nat} (htaker : taker ∈ s.waiting) :
    LineInv (es ++ [some (.leave taker)]) (gs ++ [.left taker]) ⟨s.waiting.filter (fun w => decide (w ≠ taker)), s.came⟩ := by
  have hnodup : s.waiting.Nodup := (List.pairwise_append.1 h.sorted).2.1.imp (fun hlt => Nat.ne_of_lt hlt)
  have hperm := perm_cons_filter hnodup htaker
  refine ⟨?_, ?_, ?_⟩
  · rw [List.filterMap_append, List.filterMap_append, h.items]
    rfl
  · rw [List.filterMap_append, List.append_assoc]
    exact (hperm.append_left _).trans h.perm
  · rw [List.filterMap_append]
    refine (List.append_nil (gs.filterMap Outcome.served?)).symm ▸ h.sorted.sublist ?_
    exact List.Sublist.append_left List.filter_sublist _

/-- What is no event, and gives nothing. -/
theorem lineInv_idle (h : LineInv es gs s) {e : Option (Event α)} (he : e.bind Event.item? = none) : LineInv (es ++ [e]) gs s := by
  refine ⟨?_, h.perm, h.sorted⟩
  have hnone : [e].filterMap (fun e => e.bind Event.item?) = [] := List.filterMap_cons_none he
  rw [List.filterMap_append, hnone, List.append_nil]
  exact h.items

theorem lineInv_step (h : LineInv es gs s) (e : Option (Event α)) :
    LineInv (es ++ [e]) (gs ++ (step s e).2.toList) (step s e).1 := by
  cases e with
  | none => exact (List.append_nil gs).symm ▸ lineInv_idle h rfl
  | some e =>
    cases e with
    | come => exact (List.append_nil gs).symm ▸ lineInv_come h
    | item x =>
      cases hs : s.waiting with
      | nil =>
        rw [step_item_nil hs]
        exact lineInv_passed h x
      | cons taker waiting =>
        rw [step_item_cons hs]
        exact lineInv_served h hs x
    | leave taker =>
      by_cases htaker : taker ∈ s.waiting
      · rw [step_leave_mem htaker]
        exact lineInv_left h htaker
      · rw [step_leave_notMem htaker]
        exact (List.append_nil gs).symm ▸ lineInv_idle h rfl

end Line
