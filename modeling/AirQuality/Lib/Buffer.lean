import Mathlib.Data.List.Basic

/-!
# Arrays written from the start

An array of fixed size, and the index of its next cell to be written. A write past the end has no result, so that a program that
writes a list (`puts`) has one exactly if the list fits, and then has changed nothing behind it (`puts_eq`).
-/

namespace Buffer

variable {α : Type*}

/-- An array and the index of the next cell. -/
structure Writer (α : Type*) where
  cells : List α
  next : Nat
  next_le : next ≤ cells.length

namespace Writer

/-- Before the first write. -/
def start (cells : List α) : Writer α := ⟨cells, 0, Nat.zero_le _⟩

/-- What has been written. -/
def written (w : Writer α) : List α := w.cells.take w.next

/-- What the rest of the array holds. -/
def free (w : Writer α) : List α := w.cells.drop w.next

/-- `out[o++] = a` -/
def put (w : Writer α) (a : α) : Option (Writer α) :=
  if h : w.next < w.cells.length then
    some { cells := w.cells.set w.next a, next := w.next + 1, next_le := by rw [List.length_set]; exact h }
  else none

/-- One write after the other. -/
def puts (w : Writer α) (as : List α) : Option (Writer α) := as.foldlM put w

@[simp] theorem written_start (cells : List α) : (start cells).written = [] := rfl

@[simp] theorem free_start (cells : List α) : (start cells).free = cells := rfl

theorem written_append_free (w : Writer α) : w.written ++ w.free = w.cells := List.take_append_drop w.next w.cells

/-- A write has no result at the end of the array; before it, it takes the first cell that is free. -/
theorem put_cases (w : Writer α) (a : α) :
    w.free = [] ∧ w.put a = none ∨
      ∃ old rest w', w.free = old :: rest ∧ w.put a = some w' ∧ w'.written = w.written ++ [a] ∧ w'.free = rest := by
  by_cases h : w.next < w.cells.length
  · refine .inr ⟨w.cells[w.next], w.cells.drop (w.next + 1), _, List.drop_eq_getElem_cons h, dif_pos h, ?_, ?_⟩
    · change (w.cells.set w.next a).take (w.next + 1) = _
      rw [List.set_eq_take_append_cons_drop, if_pos h, List.take_append, List.length_take_of_le w.next_le, List.take_take,
        Nat.min_eq_right (Nat.le_succ _), Nat.add_sub_cancel_left]
      rfl
    · rw [free, List.drop_set_of_lt (Nat.lt_succ_self _)]
  · exact .inl ⟨List.drop_eq_nil_of_le (Nat.not_lt.1 h), dif_neg h⟩

@[simp] theorem puts_nil (w : Writer α) : w.puts [] = some w := rfl

@[simp] theorem puts_cons (w : Writer α) (a : α) (as : List α) : w.puts (a :: as) = (w.put a).bind (·.puts as) := rfl

theorem puts_append (w : Writer α) (as bs : List α) : w.puts (as ++ bs) = (w.puts as).bind (·.puts bs) := List.foldlM_append

/-- A list that fits is written, and nothing behind it changes; one that does not fit has no result. -/
theorem puts_eq (w : Writer α) (as : List α) :
    (w.puts as).map cells =
      if as.length ≤ w.free.length then some (w.written ++ as ++ w.free.drop as.length) else none := by
  induction as generalizing w with
  | nil => simp [written_append_free]
  | cons a as ih =>
    rw [puts_cons]
    rcases w.put_cases a with ⟨hfree, hput⟩ | ⟨old, rest, w', hfree, hput, hwritten, hrest⟩
    · rw [hput, hfree, if_neg (by simp)]
      rfl
    · rw [hput, Option.bind_some, ih, hwritten, hrest, hfree]
      simp

end Writer

end Buffer
