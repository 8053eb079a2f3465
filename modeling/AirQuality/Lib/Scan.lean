import Mathlib.Data.List.Basic

/-!
# Numbers in text, as C prints and scans them

`Scan.nat` and `Scan.int` print a number in decimal, as `%u` and `%d` do, and `Scan.scanInt` scans one: white space is skipped, a
sign may stand first, and the number ends at the first character that is no digit. `Scan.scanHex2` is `%2x`. What is printed is
scanned again, whatever follows that is no digit (`scanInt_int`), and so are numbers one after another with white space behind
each (`scanInts_int`).
-/

namespace Scan

/-- `isspace` -/
def isSpace (c : Char) : Bool := decide (c = ' ') || decide (0x09 ≤ c.toNat ∧ c.toNat ≤ 0x0d)

/-- `%u` -/
def nat (n : Nat) : List Char := Nat.toDigits 10 n

/-- `%d` -/
def int : Int → List Char
  | .ofNat n => nat n
  | .negSucc n => '-' :: nat (n + 1)

/-- The decimal digits at the head of a text, as a number, and what follows them. `none` if there is no digit. -/
def scanDigits (cs : List Char) : Option (Nat × List Char) :=
  if cs.takeWhile Char.isDigit = [] then none
  else some (Nat.ofDigitChars 10 (cs.takeWhile Char.isDigit) 0, cs.dropWhile Char.isDigit)

/-- A number after its white space. -/
def scanSigned : List Char → Option (Int × List Char)
  | '-' :: cs => (scanDigits cs).map (fun (n, rest) => (-(n : Int), rest))
  | '+' :: cs => (scanDigits cs).map (fun (n, rest) => ((n : Int), rest))
  | cs => (scanDigits cs).map (fun (n, rest) => ((n : Int), rest))

/-- `%d`, and `%u`, which takes a sign too: the number, and what follows it. -/
def scanInt (cs : List Char) : Option (Int × List Char) := scanSigned (cs.dropWhile isSpace)

/-- The numbers at the head of a text, `k` of them, `none` if there are fewer. -/
def scanInts : Nat → List Char → Option (List Int)
  | 0, _ => some []
  | k + 1, cs => (scanInt cs).bind (fun (z, rest) => (scanInts k rest).map (z :: ·))

/-- `ULONG_MAX`, of 64 bits. -/
def ulongMax : Nat := 18446744073709551615

/-- `strtoul` in base 10: 0 without a number, the greatest value if it does not fit. -/
def strtoul (cs : List Char) : Nat :=
  match scanInt cs with
  | none => 0
  | some (z, _) => if ulongMax < z.natAbs then ulongMax else (z % (ulongMax + 1)).toNat

/-- The value of a hexadecimal digit. -/
def hexValue (c : Char) : Option Nat :=
  if '0'.toNat ≤ c.toNat ∧ c.toNat ≤ '9'.toNat then some (c.toNat - '0'.toNat)
  else if 'a'.toNat ≤ c.toNat ∧ c.toNat ≤ 'f'.toNat then some (c.toNat - 'a'.toNat + 10)
  else if 'A'.toNat ≤ c.toNat ∧ c.toNat ≤ 'F'.toNat then some (c.toNat - 'A'.toNat + 10)
  else none

/-- The number that an item of at most two characters is. A sign takes a character, and `0x` alone is no number. -/
def hexItem : List Char → Option Int
  | ['0', 'x'] => none
  | ['0', 'X'] => none
  | ['-', c] => (hexValue c).map (fun v => -(v : Int))
  | ['+', c] => (hexValue c).map (fun v => (v : Int))
  | [c, d] => (hexValue c).map (fun v => ((((hexValue d).map (16 * v + ·)).getD v : Nat) : Int))
  | [c] => (hexValue c).map (fun v => (v : Int))
  | _ => none

/-- `%2x` -/
def scanHex2 (cs : List Char) : Option Int := hexItem ((cs.dropWhile isSpace).take 2)

/-- Two lower-case hexadecimal digits. -/
def hex2 (n : Nat) : List Char := [Nat.digitChar (n / 16), Nat.digitChar (n % 16)]

/-! ## What is printed is scanned -/

/-- A text that does not go on with a digit. -/
def NoDigit (cs : List Char) : Prop := ∀ c ∈ cs.head?, c.isDigit = false

theorem noDigit_nil : NoDigit [] := by
  intro c hc
  cases hc

theorem noDigit_cons {c : Char} (h : c.isDigit = false) (cs : List Char) : NoDigit (c :: cs) := by
  intro d hd
  cases hd
  exact h

theorem isDigit_of_mem_nat {n : Nat} {c : Char} (h : c ∈ nat n) : c.isDigit = true :=
  Nat.isDigit_of_mem_toDigits (by decide) (by decide) h

theorem nat_ne_nil (n : Nat) : nat n ≠ [] := Nat.toDigits_ne_nil

/-- The code points of the digits. -/
theorem isDigit_bounds {c : Char} (h : c.isDigit = true) : 48 ≤ c.toNat ∧ c.toNat ≤ 57 := Char.isDigit_iff_toNat.1 h

theorem isSpace_of_isDigit {c : Char} (h : c.isDigit = true) : isSpace c = false := by
  have hc := isDigit_bounds h
  rw [isSpace, Bool.or_eq_false_iff, decide_eq_false_iff_not, decide_eq_false_iff_not]
  constructor
  · rintro rfl
    exact absurd hc (by decide)
  · omega

/-- The digits of a number are scanned up to their end. -/
theorem scanDigits_nat (n : Nat) {rest : List Char} (h : NoDigit rest) :
    scanDigits (nat n ++ rest) = some (n, rest) := by
  have hdigits : ∀ c ∈ nat n, c.isDigit = true := fun c hc => isDigit_of_mem_nat hc
  have hrest : rest.takeWhile Char.isDigit = [] ∧ rest.dropWhile Char.isDigit = rest := by
    cases rest with
    | nil => exact ⟨rfl, rfl⟩
    | cons c cs =>
      have hc : c.isDigit = false := h c rfl
      simp [hc]
  have htake : (nat n ++ rest).takeWhile Char.isDigit = nat n := by
    rw [List.takeWhile_append_of_pos hdigits, hrest.1, List.append_nil]
  have hdrop : (nat n ++ rest).dropWhile Char.isDigit = rest := by
    rw [List.dropWhile_append_of_pos hdigits, hrest.2]
  rw [scanDigits, htake, hdrop, if_neg (nat_ne_nil n), nat, Nat.ofDigitChars_ten_toDigits]

/-- A text that starts with a digit has no sign. -/
theorem scanSigned_of_isDigit {c : Char} (h : c.isDigit = true) (cs : List Char) :
    scanSigned (c :: cs) = (scanDigits (c :: cs)).map (fun (n, rest) => ((n : Int), rest)) := by
  have hc := isDigit_bounds h
  unfold scanSigned
  split
  · rename_i heq
    cases heq
    exact absurd hc (by decide)
  · rename_i heq
    cases heq
    exact absurd hc (by decide)
  · rfl

/-- A number that is printed is scanned again, whatever follows that is no digit. -/
theorem scanInt_int (z : Int) {rest : List Char} (h : NoDigit rest) : scanInt (int z ++ rest) = some (z, rest) := by
  cases z with
  | ofNat n =>
    have hscan := scanDigits_nat n h
    change scanInt (nat n ++ rest) = _
    cases hn : nat n with
    | nil => exact absurd hn (nat_ne_nil n)
    | cons c cs =>
      have hc : c.isDigit = true := isDigit_of_mem_nat (n := n) (by rw [hn]; exact List.mem_cons_self)
      rw [hn] at hscan
      rw [scanInt, List.cons_append, List.dropWhile_cons_of_neg (by simp [isSpace_of_isDigit hc]), scanSigned_of_isDigit hc,
        ← List.cons_append, hscan]
      rfl
  | negSucc n =>
    change (scanDigits (nat (n + 1) ++ rest)).map _ = _
    rw [scanDigits_nat (n + 1) h]
    rfl

/-- A number printed that fits is read back whole. -/
theorem strtoul_nat {n : Nat} (h : n ≤ ulongMax) : strtoul (nat n) = n := by
  have hscan : scanInt (nat n) = some ((n : Int), []) := by
    have hint := scanInt_int (n : Int) noDigit_nil
    rwa [List.append_nil] at hint
  have hfits : ¬ulongMax < (n : Int).natAbs := by
    rw [Int.natAbs_natCast]
    exact Nat.not_lt.2 h
  have hmod : (n : Int) % ((ulongMax : Int) + 1) = n := Int.emod_eq_of_lt (Int.natCast_nonneg n) (by omega)
  simp only [strtoul, hscan, if_neg hfits, hmod, Int.toNat_natCast]

theorem isDigit_of_isSpace {c : Char} (h : isSpace c = true) : c.isDigit = false := by
  by_contra hc
  rw [Bool.not_eq_false] at hc
  rw [isSpace_of_isDigit hc] at h
  cases h

/-- White space before the numbers is skipped. -/
theorem scanInts_space {c : Char} (h : isSpace c = true) (k : Nat) (cs : List Char) :
    scanInts k (c :: cs) = scanInts k cs := by
  cases k with
  | zero => rfl
  | succ k => rw [scanInts, scanInts, scanInt, scanInt, List.dropWhile_cons_of_pos h]

/-- A number that is printed with white space behind it is the first of the numbers scanned. -/
theorem scanInts_int (k : Nat) (z : Int) {c : Char} (h : isSpace c = true) (cs : List Char) :
    scanInts (k + 1) (int z ++ c :: cs) = (scanInts k cs).map (z :: ·) := by
  rw [scanInts, scanInt_int z (noDigit_cons (isDigit_of_isSpace h) cs)]
  change (scanInts k (c :: cs)).map _ = _
  rw [scanInts_space h]

/-! ## Hexadecimal bytes -/

theorem hexItem_hex2 : ∀ n < 256, (hex2 n).dropWhile isSpace = hex2 n ∧ hexItem (hex2 n) = some (n : Int) := by
  decide +kernel

theorem sign_notMem_hex2 : ∀ n < 256, '-' ∉ hex2 n := by
  decide +kernel

/-- A byte that is printed is scanned again. -/
theorem scanHex2_hex2 {n : Nat} (h : n < 256) (rest : List Char) : scanHex2 (hex2 n ++ rest) = some (n : Int) := by
  obtain ⟨hdrop, hitem⟩ := hexItem_hex2 n h
  rw [scanHex2, List.dropWhile_append, hdrop]
  exact hitem

end Scan
