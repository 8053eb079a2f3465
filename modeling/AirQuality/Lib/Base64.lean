import Mathlib.Data.List.FinRange
import Mathlib.Algebra.Ring.Nat

/-!
# Base64

The encoding over an arbitrary alphabet: three bytes make a word of 24 bits, which makes four symbols, and where one or two bytes
are left at the end their symbols are padded to four. The reader is a strict one. It takes nothing but symbols and padding, padding
only at the end, and only if the bits it stands for are zero; so it takes exactly what the writer writes (`decode_eq_some_iff`).
-/

namespace Base64

variable {α : Type*}

/-- A symbol for each value of six bits, and one more that pads. -/
structure Alphabet (α : Type*) where
  symbol : Fin 64 → α
  pad : α
  injective : Function.Injective symbol
  symbol_ne_pad : ∀ i, symbol i ≠ pad

/-- The symbols of the standard alphabet: letters, digits, plus and slash. -/
def standardSymbol (i : Fin 64) : Char :=
  if i.val < 26 then Char.ofNat ('A'.toNat + i.val)
  else if i.val < 52 then Char.ofNat ('a'.toNat + (i.val - 26))
  else if i.val < 62 then Char.ofNat ('0'.toNat + (i.val - 52))
  else if i.val = 62 then '+'
  else '/'

/-- The value of one of these symbols. -/
def standardValue (c : Char) : ℕ :=
  if 'a'.toNat ≤ c.toNat then c.toNat - 'a'.toNat + 26
  else if 'A'.toNat ≤ c.toNat then c.toNat - 'A'.toNat
  else if '0'.toNat ≤ c.toNat then c.toNat - '0'.toNat + 52
  else if c = '+' then 62
  else 63

theorem standardValue_symbol : ∀ i, standardValue (standardSymbol i) = i.val := by decide +kernel

theorem standardSymbol_injective : Function.Injective standardSymbol := by
  intro i j h
  rw [← Fin.val_inj, ← standardValue_symbol i, h, standardValue_symbol j]

/-- The standard alphabet. -/
def standard : Alphabet Char where
  symbol := standardSymbol
  pad := '='
  injective := standardSymbol_injective
  symbol_ne_pad := by decide +kernel

/-! ## Words -/

/-- The word of three bytes, the first one highest. -/
def ofBytes (x y z : UInt8) : ℕ := x.toNat * 2 ^ 16 + y.toNat * 2 ^ 8 + z.toNat

/-- The word of four values of six bits. -/
def ofSextets (a b c d : Fin 64) : ℕ := a.val * 2 ^ 18 + b.val * 2 ^ 12 + c.val * 2 ^ 6 + d.val

/-- The eight bits of a word from bit `k` on. -/
def octet (n k : ℕ) : UInt8 := UInt8.ofNat (n / 2 ^ k)

/-- The six bits of a word from bit `k` on. -/
def sextet (n k : ℕ) : Fin 64 := Fin.ofNat 64 (n / 2 ^ k)

theorem octet_ofBytes (x y z : UInt8) :
    octet (ofBytes x y z) 16 = x ∧ octet (ofBytes x y z) 8 = y ∧ octet (ofBytes x y z) 0 = z := by
  have hx := x.toNat_lt
  have hy := y.toNat_lt
  have hz := z.toNat_lt
  refine ⟨UInt8.toNat_inj.1 ?_, UInt8.toNat_inj.1 ?_, UInt8.toNat_inj.1 ?_⟩ <;>
    · simp only [octet, ofBytes, UInt8.toNat_ofNat']
      omega

theorem sextet_ofSextets (a b c d : Fin 64) :
    sextet (ofSextets a b c d) 18 = a ∧ sextet (ofSextets a b c d) 12 = b ∧ sextet (ofSextets a b c d) 6 = c ∧
      sextet (ofSextets a b c d) 0 = d := by
  refine ⟨Fin.ext ?_, Fin.ext ?_, Fin.ext ?_, Fin.ext ?_⟩ <;>
    · simp only [sextet, ofSextets, Fin.val_ofNat]
      omega

/-- The bytes of a word, by its sextets. -/
theorem octet_ofSextets (a b c d : Fin 64) :
    octet (ofSextets a b c d) 16 = UInt8.ofNat (a.val * 4 + b.val / 16) ∧
      octet (ofSextets a b c d) 8 = UInt8.ofNat (b.val % 16 * 16 + c.val / 4) ∧
      octet (ofSextets a b c d) 0 = UInt8.ofNat (c.val % 4 * 64 + d.val) := by
  refine ⟨UInt8.toNat_inj.1 ?_, UInt8.toNat_inj.1 ?_, UInt8.toNat_inj.1 ?_⟩ <;>
    · simp only [octet, ofSextets, UInt8.toNat_ofNat']
      omega

/-- A word is put together again from its bytes. -/
theorem ofBytes_octet {n : ℕ} (h : n < 2 ^ 24) : ofBytes (octet n 16) (octet n 8) (octet n 0) = n := by
  simp only [ofBytes, octet, UInt8.toNat_ofNat']
  omega

/-- A word is put together again from its sextets. -/
theorem ofSextets_sextet {n : ℕ} (h : n < 2 ^ 24) : ofSextets (sextet n 18) (sextet n 12) (sextet n 6) (sextet n 0) = n := by
  simp only [ofSextets, sextet, Fin.val_ofNat]
  omega

theorem ofBytes_lt (x y z : UInt8) : ofBytes x y z < 2 ^ 24 := by
  have hx := x.toNat_lt
  have hy := y.toNat_lt
  have hz := z.toNat_lt
  simp only [ofBytes]
  omega

theorem ofSextets_lt (a b c d : Fin 64) : ofSextets a b c d < 2 ^ 24 := by
  simp only [ofSextets]
  omega

/-! Where padding stands for a byte, its bits are zero. -/

theorem ofBytes_one (x : UInt8) : ofBytes x 0 0 % 2 ^ 16 = 0 := by
  simp [ofBytes]

theorem ofBytes_two (x y : UInt8) : ofBytes x y 0 % 2 ^ 8 = 0 := by
  simp only [ofBytes, UInt8.toNat_zero]
  omega

theorem ofBytes_octet_one {n : ℕ} (h : n < 2 ^ 24) (hn : n % 2 ^ 16 = 0) : ofBytes (octet n 16) 0 0 = n := by
  simp only [ofBytes, octet, UInt8.toNat_ofNat', UInt8.toNat_zero]
  omega

theorem ofBytes_octet_two {n : ℕ} (h : n < 2 ^ 24) (hn : n % 2 ^ 8 = 0) : ofBytes (octet n 16) (octet n 8) 0 = n := by
  simp only [ofBytes, octet, UInt8.toNat_ofNat', UInt8.toNat_zero]
  omega

theorem ofSextets_two {n : ℕ} (h : n < 2 ^ 24) (hn : n % 2 ^ 16 = 0) : ofSextets (sextet n 18) (sextet n 12) 0 0 = n := by
  simp only [ofSextets, sextet, Fin.val_ofNat, Fin.val_zero]
  omega

theorem ofSextets_three {n : ℕ} (h : n < 2 ^ 24) (hn : n % 2 ^ 8 = 0) :
    ofSextets (sextet n 18) (sextet n 12) (sextet n 6) 0 = n := by
  simp only [ofSextets, sextet, Fin.val_ofNat, Fin.val_zero]
  omega

/-! ## The writer -/

section

variable (A : Alphabet α)

def encode : List UInt8 → List α
  | x :: y :: z :: rest =>
    let n := ofBytes x y z
    A.symbol (sextet n 18) :: A.symbol (sextet n 12) :: A.symbol (sextet n 6) :: A.symbol (sextet n 0) :: encode rest
  | [x, y] =>
    let n := ofBytes x y 0
    [A.symbol (sextet n 18), A.symbol (sextet n 12), A.symbol (sextet n 6), A.pad]
  | [x] =>
    let n := ofBytes x 0 0
    [A.symbol (sextet n 18), A.symbol (sextet n 12), A.pad, A.pad]
  | [] => []

/-- Every three bytes that are begun take four places. -/
theorem length_encode (bs : List UInt8) : (encode A bs).length = 4 * ((bs.length + 2) / 3) := by
  induction bs using encode.induct with
  | case1 x y z rest ih =>
    simp only [encode, List.length_cons, ih]
    omega
  | case2 x y => simp [encode]
  | case3 x => simp [encode]
  | case4 => rfl

/-- Symbols, then as many paddings as bytes are missing at the end. -/
theorem encode_shape (bs : List UInt8) :
    ∃ digits : List (Fin 64), encode A bs = digits.map A.symbol ++ List.replicate ((3 - bs.length % 3) % 3) A.pad := by
  induction bs using encode.induct with
  | case1 x y z rest ih =>
    obtain ⟨digits, hdigits⟩ := ih
    have hmod : (x :: y :: z :: rest).length % 3 = rest.length % 3 := Nat.add_mod_right _ 3
    let n := ofBytes x y z
    exact ⟨sextet n 18 :: sextet n 12 :: sextet n 6 :: sextet n 0 :: digits, by rw [encode, hdigits, hmod]; rfl⟩
  | case2 x y =>
    let n := ofBytes x y 0
    exact ⟨[sextet n 18, sextet n 12, sextet n 6], by simp [encode, n]⟩
  | case3 x =>
    let n := ofBytes x 0 0
    exact ⟨[sextet n 18, sextet n 12], by simp [encode, n]⟩
  | case4 => exact ⟨[], rfl⟩

end

/-! ## The reader -/

section

variable [DecidableEq α] (A : Alphabet α)

/-- The value of a symbol. -/
def Alphabet.value? (c : α) : Option (Fin 64) := (List.finRange 64).find? fun i => A.symbol i = c

/-- The byte before two paddings. -/
def lastByte (n : ℕ) : Option (List UInt8) := if n % 2 ^ 16 = 0 then some [octet n 16] else none

/-- The bytes before one padding. -/
def lastTwoBytes (n : ℕ) : Option (List UInt8) := if n % 2 ^ 8 = 0 then some [octet n 16, octet n 8] else none

theorem lastByte_eq_some_iff {n : ℕ} {bs : List UInt8} : lastByte n = some bs ↔ n % 2 ^ 16 = 0 ∧ bs = [octet n 16] := by
  rw [lastByte, Option.ite_none_right_eq_some, Option.some.injEq, eq_comm (a := bs)]

theorem lastTwoBytes_eq_some_iff {n : ℕ} {bs : List UInt8} :
    lastTwoBytes n = some bs ↔ n % 2 ^ 8 = 0 ∧ bs = [octet n 16, octet n 8] := by
  rw [lastTwoBytes, Option.ite_none_right_eq_some, Option.some.injEq, eq_comm (a := bs)]

def decode : List α → Option (List UInt8)
  | [] => some []
  | a :: b :: c :: d :: rest =>
    if d = A.pad then
      if rest ≠ [] then none
      else if c = A.pad then do lastByte (ofSextets (← A.value? a) (← A.value? b) 0 0)
      else do lastTwoBytes (ofSextets (← A.value? a) (← A.value? b) (← A.value? c) 0)
    else do
      let n := ofSextets (← A.value? a) (← A.value? b) (← A.value? c) (← A.value? d)
      (decode rest).map fun bs => octet n 16 :: octet n 8 :: octet n 0 :: bs
  | _ => none

theorem value?_eq_some_iff {c : α} {i : Fin 64} : A.value? c = some i ↔ A.symbol i = c := by
  constructor
  · intro h
    simpa using List.find?_some h
  · rintro rfl
    obtain ⟨j, hj⟩ : ∃ j, A.value? (A.symbol i) = some j :=
      Option.isSome_iff_exists.1 (List.find?_isSome.2 ⟨i, List.mem_finRange i, by simp⟩)
    have hsymbol : A.symbol j = A.symbol i := by simpa using List.find?_some hj
    rw [hj, A.injective hsymbol]

@[simp] theorem value?_symbol (i : Fin 64) : A.value? (A.symbol i) = some i := (value?_eq_some_iff A).2 rfl

/-- Four symbols are read as three bytes, three as two, and two as one. -/
theorem decode_four (i j k l : Fin 64) (rest : List α) :
    decode A (A.symbol i :: A.symbol j :: A.symbol k :: A.symbol l :: rest) =
      (decode A rest).map fun bs =>
        octet (ofSextets i j k l) 16 :: octet (ofSextets i j k l) 8 :: octet (ofSextets i j k l) 0 :: bs := by
  rw [decode, if_neg (A.symbol_ne_pad l)]
  simp only [value?_symbol, Option.bind_eq_bind, Option.bind_some]

theorem decode_three (i j k : Fin 64) :
    decode A [A.symbol i, A.symbol j, A.symbol k, A.pad] = lastTwoBytes (ofSextets i j k 0) := by
  -- step by step, for by `rfl` the kernel would compute with the powers of two
  rw [decode, if_pos rfl, if_neg (not_not.2 rfl), if_neg (A.symbol_ne_pad k), value?_symbol, value?_symbol, value?_symbol,
    Option.bind_eq_bind, Option.bind_some, Option.bind_some, Option.bind_some]

theorem decode_two (i j : Fin 64) : decode A [A.symbol i, A.symbol j, A.pad, A.pad] = lastByte (ofSextets i j 0 0) := by
  rw [decode, if_pos rfl, if_neg (not_not.2 rfl), if_pos rfl, value?_symbol, value?_symbol, Option.bind_eq_bind, Option.bind_some,
    Option.bind_some]

/-- What was written is read back. -/
theorem decode_encode (bs : List UInt8) : decode A (encode A bs) = some bs := by
  induction bs using encode.induct with
  | case1 x y z rest ih =>
    obtain ⟨hx, hy, hz⟩ := octet_ofBytes x y z
    rw [encode, decode_four, ofSextets_sextet (ofBytes_lt x y z), hx, hy, hz, ih, Option.map_some]
  | case2 x y =>
    obtain ⟨hx, hy, -⟩ := octet_ofBytes x y 0
    rw [encode, decode_three, ofSextets_three (ofBytes_lt x y 0) (ofBytes_two x y), lastTwoBytes_eq_some_iff, hx, hy]
    exact ⟨ofBytes_two x y, rfl⟩
  | case3 x =>
    obtain ⟨hx, -, -⟩ := octet_ofBytes x 0 0
    rw [encode, decode_two, ofSextets_two (ofBytes_lt x 0 0) (ofBytes_one x), lastByte_eq_some_iff, hx]
    exact ⟨ofBytes_one x, rfl⟩
  | case4 => rfl

/-- What is read is what was written: the reader takes nothing else. -/
theorem encode_of_decode {cs : List α} {bs : List UInt8} (h : decode A cs = some bs) : encode A bs = cs := by
  induction cs using decode.induct A generalizing bs with
  | case1 =>
    obtain rfl := Option.some.inj h
    rfl
  | case2 a b c rest hrest =>
    rw [decode, if_pos rfl, if_pos hrest] at h
    cases h
  | case3 a b rest hrest =>
    rw [decode, if_pos rfl, if_neg hrest, if_pos rfl] at h
    simp only [Option.bind_eq_bind, Option.bind_eq_some_iff, value?_eq_some_iff, lastByte_eq_some_iff] at h
    obtain ⟨i, rfl, j, rfl, hzero, rfl⟩ := h
    obtain ⟨hi, hj, -⟩ := sextet_ofSextets i j 0 0
    rw [encode, ofBytes_octet_one (ofSextets_lt i j 0 0) hzero, hi, hj, not_not.1 hrest]
  | case4 a b c rest hrest hc =>
    rw [decode, if_pos rfl, if_neg hrest, if_neg hc] at h
    simp only [Option.bind_eq_bind, Option.bind_eq_some_iff, value?_eq_some_iff, lastTwoBytes_eq_some_iff] at h
    obtain ⟨i, rfl, j, rfl, k, rfl, hzero, rfl⟩ := h
    obtain ⟨hi, hj, hk, -⟩ := sextet_ofSextets i j k 0
    rw [encode, ofBytes_octet_two (ofSextets_lt i j k 0) hzero, hi, hj, hk, not_not.1 hrest]
  | case5 a b c d rest hd ih =>
    simp only [decode, if_neg hd, Option.bind_eq_bind, Option.bind_eq_some_iff, value?_eq_some_iff, Option.map_eq_some_iff] at h
    obtain ⟨i, rfl, j, rfl, k, rfl, l, rfl, more, hmore, rfl⟩ := h
    obtain ⟨hi, hj, hk, hl⟩ := sextet_ofSextets i j k l
    rw [encode, ofBytes_octet (ofSextets_lt i j k l), hi, hj, hk, hl, ih hmore]
  | case6 t hnil hcons =>
    rw [decode] at h
    · cases h
    · exact hnil
    · exact hcons

/-- The reader takes what the writer writes, and nothing else. -/
theorem decode_eq_some_iff {cs : List α} {bs : List UInt8} : decode A cs = some bs ↔ cs = encode A bs := by
  constructor
  · intro h
    exact (encode_of_decode A h).symm
  · rintro rfl
    exact decode_encode A bs

end

end Base64
