import Mathlib.Data.List.DropRight

/-!
# JavaScript strings

What the server code takes from its language for texts: `trim`, `toLowerCase`, `split` and `Number`. Beyond ASCII, `toLowerCase`
follows the Unicode tables, which are a parameter.
-/

namespace AirQuality

/-- White space and line terminators, as `trim` has them. -/
def isJsSpace (c : Char) : Bool :=
  decide (c.toNat ∈ [0x09, 0x0a, 0x0b, 0x0c, 0x0d, 0x20, 0xa0, 0x1680, 0x2028, 0x2029, 0x202f, 0x205f, 0x3000, 0xfeff]) ||
    decide (0x2000 ≤ c.toNat ∧ c.toNat ≤ 0x200a)

/-- `trim` -/
def trim (s : String) : String := String.ofList ((s.toList.dropWhile isJsSpace).rdropWhile isJsSpace)

/-- An upper-case letter of ASCII becomes the lower-case one. -/
def asciiLower (s : String) : String := String.ofList (s.toList.map Char.toLower)

/-- `toLowerCase`: on a text of ASCII its letters, on any other what `unicodeLower` says. -/
def toLowerCase (unicodeLower : String → String) (s : String) : String :=
  if s.toList.all (fun c => decide (c.toNat < 128)) = true then asciiLower s else unicodeLower s

/-- `split`, by one character. -/
def split (sep : Char) : List Char → List (List Char)
  | [] => [[]]
  | c :: cs =>
    if c = sep then [] :: split sep cs
    else
      match split sep cs with
      | [] => [[c]]
      | word :: words => (c :: word) :: words

/-- `Number` of a text of decimal digits, `none` of any other. -/
def numberOfDigits (cs : List Char) : Option Nat :=
  if cs ≠ [] ∧ cs.all Char.isDigit = true then some (Nat.ofDigitChars 10 cs 0) else none

/-- A text without the separator is one word. -/
theorem split_word {sep : Char} {word : List Char} (h : sep ∉ word) : split sep word = [word] := by
  induction word with
  | nil => rfl
  | cons c cs ih =>
    obtain ⟨hc, hcs⟩ := List.ne_and_not_mem_of_not_mem_cons h
    rw [split, if_neg hc.symm, ih hcs]

/-- The first word ends at the first separator. -/
theorem split_cons {sep : Char} {word : List Char} (h : sep ∉ word) (rest : List Char) :
    split sep (word ++ sep :: rest) = word :: split sep rest := by
  induction word with
  | nil => rw [List.nil_append, split, if_pos rfl]
  | cons c cs ih =>
    obtain ⟨hc, hcs⟩ := List.ne_and_not_mem_of_not_mem_cons h
    rw [List.cons_append, split, if_neg hc.symm, ih hcs]

/-- A text that is trimmed has nothing left to trim. -/
@[simp] theorem trim_trim (s : String) : trim (trim s) = trim s := by
  have hdrop : ((s.toList.dropWhile isJsSpace).rdropWhile isJsSpace).dropWhile isJsSpace =
      (s.toList.dropWhile isJsSpace).rdropWhile isJsSpace := by
    refine List.dropWhile_eq_self_iff.2 fun hl => ?_
    -- the first character is the one the first pass stopped at
    have hpre := List.rdropWhile_prefix isJsSpace (s.toList.dropWhile isJsSpace)
    have hlen := Nat.lt_of_lt_of_le hl hpre.length_le
    rw [hpre.getElem hl]
    exact List.dropWhile_get_zero_not isJsSpace _ hlen
  simp only [trim, String.toList_ofList, hdrop, List.rdropWhile_idempotent]

/-- The digits of a number are read as that number. -/
@[simp] theorem numberOfDigits_toDigits (n : Nat) : numberOfDigits (Nat.toDigits 10 n) = some n := by
  have hall : (Nat.toDigits 10 n).all Char.isDigit = true := by
    rw [List.all_eq_true]
    exact fun c hc => Nat.isDigit_of_mem_toDigits (by decide) (by decide) hc
  rw [numberOfDigits, if_pos ⟨Nat.toDigits_ne_nil, hall⟩, Nat.ofDigitChars_ten_toDigits]

/-! ## Device identifiers -/

/-- A lower-case hexadecimal digit. -/
def isLowerHex (c : Char) : Bool :=
  decide ('0'.toNat ≤ c.toNat ∧ c.toNat ≤ '9'.toNat) || decide ('a'.toNat ≤ c.toNat ∧ c.toNat ≤ 'f'.toNat)

/-- A DevEUI as `CreateSensorSchema` leaves it: 16 hexadecimal digits, in lower case. -/
abbrev DevEui := { s : String // s.toList.length = 16 ∧ ∀ c ∈ s.toList, isLowerHex c = true }

/-- No letter of ASCII is upper case. -/
def LowerCase (s : String) : Prop := ∀ c ∈ s.toList, c.isUpper = false

theorem isLowerHex_bounds {c : Char} (h : isLowerHex c = true) :
    48 ≤ c.toNat ∧ c.toNat ≤ 57 ∨ 97 ≤ c.toNat ∧ c.toNat ≤ 102 := by
  simpa [isLowerHex] using h

theorem isUpper_of_isLowerHex {c : Char} (h : isLowerHex c = true) : c.isUpper = false := by
  have hc := isLowerHex_bounds h
  by_contra hupper
  have hbounds : 'A'.val ≤ c.val ∧ c.val ≤ 'Z'.val := of_decide_eq_true (Bool.not_eq_false _ ▸ hupper)
  have h₁ : 65 ≤ c.toNat := hbounds.1
  have h₂ : c.toNat ≤ 90 := hbounds.2
  omega

theorem isJsSpace_of_isLowerHex {c : Char} (h : isLowerHex c = true) : isJsSpace c = false := by
  have hc := isLowerHex_bounds h
  simp only [isJsSpace, List.mem_cons, List.not_mem_nil, or_false, Bool.or_eq_false_iff, decide_eq_false_iff_not]
  omega

theorem devEui_lowerCase (d : DevEui) : LowerCase d.1 := by
  intro c hc
  exact isUpper_of_isLowerHex (d.2.2 c hc)

/-- `trim` leaves a DevEUI as it is. -/
@[simp] theorem trim_devEui (d : DevEui) : trim d.1 = d.1 := by
  have hspace : ∀ c ∈ d.1.toList, ¬isJsSpace c = true := by
    intro c hc
    rw [isJsSpace_of_isLowerHex (d.2.2 c hc)]
    exact Bool.false_ne_true
  have hdrop : d.1.toList.dropWhile isJsSpace = d.1.toList :=
    List.dropWhile_eq_self_iff.2 fun hl => hspace _ (List.getElem_mem hl)
  have hrdrop : d.1.toList.rdropWhile isJsSpace = d.1.toList :=
    List.rdropWhile_eq_self_iff.2 fun hl => hspace _ (List.getLast_mem hl)
  rw [trim, hdrop, hrdrop, String.ofList_toList]

theorem asciiLower_of_lowerCase {s : String} (h : LowerCase s) : asciiLower s = s := by
  have hmap : s.toList.map Char.toLower = s.toList := by
    rw [List.map_congr_left (g := id), List.map_id]
    intro c hc
    exact dif_neg (of_decide_eq_false (h c hc))
  rw [asciiLower, hmap, String.ofList_toList]

/-- `toLowerCase` leaves a DevEUI as it is. -/
@[simp] theorem toLowerCase_devEui (unicodeLower : String → String) (d : DevEui) : toLowerCase unicodeLower d.1 = d.1 := by
  have hascii : d.1.toList.all (fun c => decide (c.toNat < 128)) = true := by
    rw [List.all_eq_true]
    intro c hc
    have := isLowerHex_bounds (d.2.2 c hc)
    rw [decide_eq_true_iff]
    omega
  rw [toLowerCase, if_pos hascii, asciiLower_of_lowerCase (devEui_lowerCase d)]

end AirQuality
