import Mathlib.Data.List.Basic

/-!
# Comma-separated values

The format of RFC 4180 over an arbitrary alphabet with four marks. A record is fields between commas, a file is records between
line breaks, and a field that holds a mark stands in quotes, with its quotes doubled. The reader takes any other symbol as text. It
gives back what was written (`read_write`), whatever the fields hold, unless the last record is a single empty field: a file may
end in a line break, and that record would be taken for what follows it.
-/

namespace Csv

variable {α : Type*}

/-- The symbols that are not text: comma, quote, and the two of a line break. -/
structure Marks (α : Type*) where
  comma : α
  quote : α
  cr : α
  lf : α
  distinct : [comma, quote, cr, lf].Nodup

section

variable {m : Marks α}

theorem Marks.quote_ne_comma : m.quote ≠ m.comma := by
  have h := m.distinct
  simp only [List.nodup_cons, List.mem_cons, not_or] at h
  exact Ne.symm h.1.1

theorem Marks.cr_ne_comma : m.cr ≠ m.comma := by
  have h := m.distinct
  simp only [List.nodup_cons, List.mem_cons, not_or] at h
  exact Ne.symm h.1.2.1

theorem Marks.comma_ne_quote : m.comma ≠ m.quote := Ne.symm m.quote_ne_comma

theorem Marks.cr_ne_quote : m.cr ≠ m.quote := by
  have h := m.distinct
  simp only [List.nodup_cons, List.mem_cons, not_or] at h
  exact Ne.symm h.2.1.1

end

variable [DecidableEq α] (m : Marks α)

/-- The symbol is one of the marks. -/
def Marks.Is (c : α) : Prop := c = m.comma ∨ c = m.quote ∨ c = m.cr ∨ c = m.lf

instance (c : α) : Decidable (m.Is c) := inferInstanceAs (Decidable (_ ∨ _))

/-- A field holds no mark. -/
def Plain (field : List α) : Prop := ∀ c ∈ field, ¬m.Is c

instance (field : List α) : Decidable (Plain m field) := inferInstanceAs (Decidable (∀ c ∈ field, ¬m.Is c))

/-! ## The writer -/

/-- A field with its quotes doubled. -/
def doubleQuotes (field : List α) : List α := field.flatMap fun c => if c = m.quote then [m.quote, m.quote] else [c]

/-- A field is written in quotes if it holds a mark. -/
def writeField (field : List α) : List α := if Plain m field then field else m.quote :: (doubleQuotes m field ++ [m.quote])

def writeRecord (record : List (List α)) : List α := [m.comma].intercalate (record.map (writeField m))

def write (records : List (List (List α))) : List α := [m.cr, m.lf].intercalate (records.map (writeRecord m))

/-! ## The reader -/

/-- Where the reader is: before a field, in one without quotes, in one with quotes, behind a quote in one with quotes, or behind the
first symbol of a line break. -/
inductive Mode where
  | start
  | bare
  | quoted
  | closing
  | lineBreak
deriving DecidableEq

/-- The records of a file, from a mode, with what has been read of a field and of its record; `none` if it is not well formed. -/
def readFrom : Mode → List α → List (List α) → List α → Option (List (List (List α)))
  | .start, _, [], [] => some []
  | .start, field, record, [] => some [record ++ [field]]
  | .bare, field, record, [] => some [record ++ [field]]
  | .closing, field, record, [] => some [record ++ [field]]
  | .quoted, _, _, [] => none
  | .lineBreak, _, _, [] => none
  | .start, field, record, c :: cs =>
    if c = m.comma then readFrom .start [] (record ++ [field]) cs
    else if c = m.cr then readFrom .lineBreak field record cs
    else if c = m.quote then readFrom .quoted [] record cs
    else if c = m.lf then none
    else readFrom .bare (field ++ [c]) record cs
  | .bare, field, record, c :: cs =>
    if c = m.comma then readFrom .start [] (record ++ [field]) cs
    else if c = m.cr then readFrom .lineBreak field record cs
    else if c = m.quote ∨ c = m.lf then none
    else readFrom .bare (field ++ [c]) record cs
  | .quoted, field, record, c :: cs =>
    if c = m.quote then readFrom .closing field record cs else readFrom .quoted (field ++ [c]) record cs
  | .closing, field, record, c :: cs =>
    if c = m.quote then readFrom .quoted (field ++ [m.quote]) record cs
    else if c = m.comma then readFrom .start [] (record ++ [field]) cs
    else if c = m.cr then readFrom .lineBreak field record cs
    else none
  | .lineBreak, field, record, c :: cs =>
    if c = m.lf then (readFrom .start [] [] cs).map ((record ++ [field]) :: ·) else none

/-- The records of a file. -/
def read (file : List α) : Option (List (List (List α))) := readFrom m .start [] [] file

/-! ## Reading what was written -/

/-- Where the reader is behind a field that was written. -/
def behind (field : List α) : Mode := if field = [] then .start else if Plain m field then .bare else .closing

theorem readFrom_bare {field : List α} (h : Plain m field) (acc : List α) (record : List (List α)) (rest : List α) :
    readFrom m .bare acc record (field ++ rest) = readFrom m .bare (acc ++ field) record rest := by
  induction field generalizing acc with
  | nil => rw [List.append_nil, List.nil_append]
  | cons c field ih =>
    obtain ⟨hcomma, hquote, hcr, hlf⟩ : c ≠ m.comma ∧ c ≠ m.quote ∧ c ≠ m.cr ∧ c ≠ m.lf := by
      simpa [Marks.Is] using h c List.mem_cons_self
    rw [List.cons_append, readFrom, if_neg hcomma, if_neg hcr, if_neg (not_or.2 ⟨hquote, hlf⟩),
      ih (fun d hd => h d (List.mem_cons_of_mem c hd)), List.append_assoc, List.singleton_append]

theorem readFrom_quoted (field acc : List α) (record : List (List α)) (rest : List α) :
    readFrom m .quoted acc record (doubleQuotes m field ++ m.quote :: rest) = readFrom m .closing (acc ++ field) record rest := by
  induction field generalizing acc with
  | nil => simp [doubleQuotes, readFrom]
  | cons c field ih =>
    rw [doubleQuotes, List.flatMap_cons, ← doubleQuotes, List.append_assoc]
    by_cases hc : c = m.quote
    · -- two quotes stand for one
      rw [if_pos hc, List.cons_append, List.cons_append, List.nil_append, readFrom, if_pos rfl, readFrom, if_pos rfl, ih, hc,
        List.append_assoc, List.singleton_append]
    · rw [if_neg hc, List.singleton_append, readFrom, if_neg hc, ih, List.append_assoc, List.singleton_append]

/-- A field that was written is read as a whole. -/
theorem readFrom_writeField (field : List α) (record : List (List α)) (rest : List α) :
    readFrom m .start [] record (writeField m field ++ rest) = readFrom m (behind m field) field record rest := by
  rw [writeField, behind]
  cases field with
  | nil => simp [Plain]
  | cons c field =>
    rw [if_neg (List.cons_ne_nil c field)]
    split_ifs with h
    · obtain ⟨hcomma, hquote, hcr, hlf⟩ : c ≠ m.comma ∧ c ≠ m.quote ∧ c ≠ m.cr ∧ c ≠ m.lf := by
        simpa [Marks.Is] using h c List.mem_cons_self
      rw [List.cons_append, readFrom, if_neg hcomma, if_neg hcr, if_neg hquote, if_neg hlf,
        readFrom_bare m (fun d hd => h d (List.mem_cons_of_mem c hd)), List.nil_append, List.singleton_append]
    · rw [List.cons_append, List.append_assoc, List.singleton_append, readFrom, if_neg m.quote_ne_comma,
        if_neg (Ne.symm m.cr_ne_quote), if_pos rfl, readFrom_quoted, List.nil_append]

/-- A comma ends the field. -/
theorem readFrom_comma (field : List α) (record : List (List α)) (rest : List α) :
    readFrom m (behind m field) field record (m.comma :: rest) = readFrom m .start [] (record ++ [field]) rest := by
  rw [behind]
  split_ifs <;> simp [readFrom, m.comma_ne_quote]

/-- A line break ends the record. -/
theorem readFrom_break (field : List α) (record : List (List α)) (rest : List α) :
    readFrom m (behind m field) field record (m.cr :: m.lf :: rest) =
      (readFrom m .start [] [] rest).map ((record ++ [field]) :: ·) := by
  rw [behind]
  split_ifs <;> simp [readFrom, m.cr_ne_comma, m.cr_ne_quote]

/-- The end of the file ends the record, unless nothing stands behind a line break. -/
theorem readFrom_nil {field : List α} {record : List (List α)} (h : record ++ [field] ≠ [[]]) :
    readFrom m (behind m field) field record [] = some [record ++ [field]] := by
  rw [behind]
  split_ifs with hempty
  · cases record with
    | nil => exact absurd (by rw [hempty]; rfl) h
    | cons f record => simp [readFrom]
  · rw [readFrom]
  · rw [readFrom]

/-- A record that was written is read up to the end of its last field. -/
theorem readFrom_writeRecord {record : List (List α)} (hne : record ≠ []) :
    ∃ init last, record = init ++ [last] ∧ ∀ done rest,
      readFrom m .start [] done (writeRecord m record ++ rest) = readFrom m (behind m last) last (done ++ init) rest := by
  induction record with
  | nil => exact absurd rfl hne
  | cons f record ih =>
    cases record with
    | nil => exact ⟨[], f, rfl, fun done rest => by rw [List.append_nil, ← readFrom_writeField]; simp [writeRecord]⟩
    | cons g record =>
      obtain ⟨init, last, heq, hread⟩ := ih (List.cons_ne_nil g record)
      refine ⟨f :: init, last, by rw [heq, List.cons_append], fun done rest => ?_⟩
      have hwrite : writeRecord m (f :: g :: record) = writeField m f ++ m.comma :: writeRecord m (g :: record) := by
        simp [writeRecord]
      rw [hwrite, List.append_assoc, readFrom_writeField, List.cons_append, readFrom_comma, hread, List.append_assoc,
        List.singleton_append]

/-- What was written is read back. -/
theorem read_write {records : List (List (List α))} (hne : ∀ record ∈ records, record ≠ [])
    (hlast : records.getLast? ≠ some [[]]) : read m (write m records) = some records := by
  induction records with
  | nil => simp [read, write, readFrom]
  | cons record records ih =>
    obtain ⟨init, last, rfl, hread⟩ := readFrom_writeRecord m (hne record List.mem_cons_self)
    rw [read]
    cases records with
    | nil =>
      have hend : init ++ [last] ≠ [[]] := by simpa using hlast
      have hwrite : write m [init ++ [last]] = writeRecord m (init ++ [last]) ++ [] := by simp [write]
      rw [hwrite, hread, List.nil_append, readFrom_nil m hend]
    | cons record records =>
      have hwrite : write m ((init ++ [last]) :: record :: records) =
          writeRecord m (init ++ [last]) ++ m.cr :: m.lf :: write m (record :: records) := by
        simp [write]
      have hrest := ih (fun r hr => hne r (List.mem_cons_of_mem _ hr)) (by simpa using hlast)
      rw [read] at hrest
      rw [hwrite, hread, readFrom_break, hrest, List.nil_append, Option.map_some]

end Csv
