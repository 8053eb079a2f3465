import Mathlib.Data.List.Nodup
import Mathlib.Data.List.Perm.Basic

/-!
# Handles and their owner

Timers, listeners and sockets are had by handle: `Handles.acquire` gives a new one with what it was acquired for, `Handles.release`
ends it, and of another it takes no notice. `Handles.Held h owned` says that the handles alive are exactly those that some owner
has on its list, so that nothing is leaked and nothing that has ended is still counted on.
-/

/-- The handles alive, each with its purpose, and the next one. -/
structure Handles (κ : Type*) where
  next : ℕ
  alive : List (ℕ × κ)

namespace Handles

variable {κ : Type*}

def empty : Handles κ := ⟨0, []⟩

/-- The handle acquired is `next`. -/
def acquire (h : Handles κ) (k : κ) : Handles κ := ⟨h.next + 1, (h.next, k) :: h.alive⟩

def release (h : Handles κ) (id : ℕ) : Handles κ := ⟨h.next, h.alive.filter (fun p => decide (p.1 ≠ id))⟩

/-- What a handle is for, if it is alive. -/
def purpose (h : Handles κ) (id : ℕ) : Option κ := (h.alive.find? (fun p => decide (p.1 = id))).map Prod.snd

/-- The handles alive are those that are owned. -/
structure Held (h : Handles κ) (owned : List (ℕ × κ)) : Prop where
  alive : h.alive.Perm owned
  distinct : (owned.map Prod.fst).Nodup
  older : ∀ p ∈ owned, p.1 < h.next

theorem held_empty : Held (empty : Handles κ) [] := ⟨List.Perm.nil, List.nodup_nil, fun _ hp => (List.not_mem_nil hp).elim⟩

theorem Held.perm {h : Handles κ} {owned owned' : List (ℕ × κ)} (hh : Held h owned) (hp : owned.Perm owned') : Held h owned' :=
  ⟨hh.alive.trans hp, (hp.map Prod.fst).nodup_iff.1 hh.distinct, fun p hmem => hh.older p (hp.mem_iff.2 hmem)⟩

theorem Held.acquire {h : Handles κ} {owned : List (ℕ × κ)} (hh : Held h owned) (k : κ) :
    Held (h.acquire k) ((h.next, k) :: owned) := by
  refine ⟨hh.alive.cons _, ?_, ?_⟩
  · refine List.nodup_cons.2 ⟨?_, hh.distinct⟩
    intro hmem
    obtain ⟨p, hp, heq⟩ := List.mem_map.1 hmem
    have hlt := hh.older p hp
    rw [heq] at hlt
    exact Nat.lt_irrefl _ hlt
  · intro p hp
    rcases List.mem_cons.1 hp with rfl | hp
    · exact Nat.lt_succ_self _
    · exact Nat.lt_succ_of_lt (hh.older p hp)

theorem Held.release {h : Handles κ} {id : ℕ} {k : κ} {owned : List (ℕ × κ)} (hh : Held h ((id, k) :: owned)) :
    Held (h.release id) owned := by
  obtain ⟨hnot, hdistinct⟩ := List.nodup_cons.1 hh.distinct
  have hfilter : owned.filter (fun p => decide (p.1 ≠ id)) = owned := by
    refine List.filter_eq_self.2 ?_
    intro p hp
    refine decide_eq_true ?_
    intro hid
    exact hnot (List.mem_map.2 ⟨p, hp, hid⟩)
  refine ⟨?_, hdistinct, fun p hp => hh.older p (List.mem_cons_of_mem _ hp)⟩
  have hperm := hh.alive.filter (fun p => decide (p.1 ≠ id))
  rwa [List.filter_cons_of_neg (by simp), hfilter] at hperm

theorem purpose_eq_some_iff {h : Handles κ} {owned : List (ℕ × κ)} (hh : Held h owned) {id : ℕ} {k : κ} :
    h.purpose id = some k ↔ (id, k) ∈ owned := by
  have hdistinct : (h.alive.map Prod.fst).Nodup := (hh.alive.map Prod.fst).nodup_iff.2 hh.distinct
  unfold purpose
  rw [Option.map_eq_some_iff, ← hh.alive.mem_iff]
  constructor
  · rintro ⟨⟨id', k'⟩, hfind, rfl⟩
    have hid := List.find?_some hfind
    obtain rfl : id' = id := of_decide_eq_true hid
    exact List.mem_of_find?_eq_some hfind
  · intro hmem
    cases hfind : h.alive.find? (fun p => decide (p.1 = id)) with
    | none => exact absurd (decide_eq_true rfl) (List.find?_eq_none.1 hfind _ hmem)
    | some p =>
      have hp := List.mem_of_find?_eq_some hfind
      have hid := List.find?_some hfind
      exact ⟨p, rfl, congrArg Prod.snd (List.inj_on_of_nodup_map hdistinct hp hmem (of_decide_eq_true hid))⟩

end Handles
