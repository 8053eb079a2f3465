import Mathlib.Data.Nat.Bitwise
import Mathlib.Tactic.Ring

/-!
# Sixteen-bit little-endian words

A word is two bytes, the low one first. `Word.low` and `Word.high` are the bytes of a word, and `Word.join` puts them together
again. `Word.at` reads the word that starts at a byte of a list; `Word.bytes` writes one.
-/

namespace Word

/-- The word whose low byte is `lo` and whose high byte is `hi`. -/
def join (lo hi : UInt8) : UInt16 := lo.toUInt16 ||| (hi.toUInt16 <<< 8)

/-- The low byte of a word. -/
def low (v : UInt16) : UInt8 := (v &&& 0xff).toUInt8

/-- The high byte of a word. -/
def high (v : UInt16) : UInt8 := ((v >>> 8) &&& 0xff).toUInt8

/-- The two bytes of a word, low byte first. -/
def bytes (v : UInt16) : List UInt8 := [low v, high v]

/-- The word that starts at byte `i` of a list (missing bytes read as zero). -/
def «at» (bs : List UInt8) (i : Nat) : UInt16 := join (bs.getD i 0) (bs.getD (i + 1) 0)

/-- The value of a word is its low byte and 256 times its high byte. -/
theorem join_toNat (lo hi : UInt8) : (join lo hi).toNat = lo.toNat + 256 * hi.toNat := by
  have hlo := lo.toNat_lt
  have hhi := hi.toNat_lt
  have hshift : hi.toNat <<< 8 % 2 ^ 16 = hi.toNat <<< 8 :=
    Nat.mod_eq_of_lt (by rw [Nat.shiftLeft_eq]; omega)
  have hor : lo.toNat ||| hi.toNat <<< 8 = hi.toNat <<< 8 + lo.toNat := by
    rw [Nat.lor_comm, ← Nat.shiftLeft_add_eq_or_of_lt hlo]
  simp only [join, UInt16.toNat_or, UInt16.toNat_shiftLeft, UInt8.toNat_toUInt16]
  change lo.toNat ||| hi.toNat <<< 8 % 2 ^ 16 = _
  rw [hshift, hor, Nat.shiftLeft_eq]
  ring

theorem low_toNat (v : UInt16) : (low v).toNat = v.toNat % 256 := by
  have h : v.toNat &&& 255 = v.toNat % 2 ^ 8 := Nat.and_two_pow_sub_one_eq_mod v.toNat 8
  simp only [low, UInt16.toNat_toUInt8, UInt16.toNat_and]
  change (v.toNat &&& 255) % 256 = _
  omega

theorem high_toNat (v : UInt16) : (high v).toNat = v.toNat / 256 := by
  have hv := v.toNat_lt
  have hdiv : v.toNat >>> 8 = v.toNat / 256 := Nat.shiftRight_eq_div_pow v.toNat 8
  have h : v.toNat >>> 8 &&& 255 = v.toNat >>> 8 % 2 ^ 8 := Nat.and_two_pow_sub_one_eq_mod _ 8
  simp only [high, UInt16.toNat_toUInt8, UInt16.toNat_and, UInt16.toNat_shiftRight]
  change (v.toNat >>> 8 &&& 255) % 256 = _
  omega

/-- A word is put together again from its bytes. -/
@[simp] theorem join_low_high (v : UInt16) : join (low v) (high v) = v := by
  apply UInt16.toNat_inj.mp
  rw [join_toNat, low_toNat, high_toNat]
  omega

@[simp] theorem low_join (lo hi : UInt8) : low (join lo hi) = lo := by
  have hlo := lo.toNat_lt
  apply UInt8.toNat_inj.mp
  rw [low_toNat, join_toNat]
  omega

@[simp] theorem high_join (lo hi : UInt8) : high (join lo hi) = hi := by
  have hlo := lo.toNat_lt
  have hhi := hi.toNat_lt
  apply UInt8.toNat_inj.mp
  rw [high_toNat, join_toNat]
  omega

/-- The bytes of a word put together are those it was put together from. -/
@[simp] theorem bytes_join (lo hi : UInt8) : bytes (join lo hi) = [lo, hi] := by
  rw [bytes, low_join, high_join]

@[simp] theorem bytes_length (v : UInt16) : (bytes v).length = 2 := rfl

/-- A word read from a list with its first bytes dropped. -/
theorem at_drop (bs : List UInt8) (k i : Nat) : Word.at (bs.drop k) i = Word.at bs (k + i) := by
  simp [Word.at, List.getD_eq_getElem?_getD, List.getElem?_drop, Nat.add_assoc]

/-! ## Words of integers -/

/-- A value of 0 to 65535 is stored whole. -/
theorem ofInt_toNat {z : Int} (h₁ : 0 ≤ z) (h₂ : z ≤ 65535) : ((UInt16.ofInt z).toNat : Int) = z := by
  have hmod : z % 2 ^ 16 = z := Int.emod_eq_of_lt h₁ (by omega)
  rw [UInt16.ofInt, hmod, UInt16.toNat_ofNat']
  omega

/-- Modulo 2^16, a signed value has the bits of the 16-bit integer. -/
theorem ofInt_toInt16 (z : Int) : (UInt16.ofInt z).toInt16 = Int16.ofInt z := by
  apply Int16.toBitVec.inj
  apply BitVec.eq_of_toNat_eq
  rw [Int16.toBitVec_ofInt, BitVec.toNat_ofInt]
  change (UInt16.ofNat (z % 2 ^ 16).toNat).toNat = _
  rw [UInt16.toNat_ofNat']
  omega

/-- A value of -32768 to 32767 is stored whole. -/
theorem ofInt_toInt {z : Int} (h₁ : -32768 ≤ z) (h₂ : z ≤ 32767) : (UInt16.ofInt z).toInt16.toInt = z := by
  rw [ofInt_toInt16, Int16.toInt_ofInt_of_le (by omega) (by omega)]

/-- The word of its own value. -/
@[simp] theorem ofInt_natCast_toNat (v : UInt16) : UInt16.ofInt (v.toNat : Int) = v := by
  have hv := v.toNat_lt
  have h := ofInt_toNat (z := (v.toNat : Int)) (by omega) (by omega)
  exact UInt16.toNat_inj.mp (by exact_mod_cast h)

/-- The word of its own signed value. -/
@[simp] theorem ofInt_toInt16_toInt (v : UInt16) : UInt16.ofInt v.toInt16.toInt = v := by
  have h : (UInt16.ofInt v.toInt16.toInt).toInt16 = v.toInt16 := by rw [ofInt_toInt16, Int16.ofInt_toInt]
  simpa using congrArg Int16.toUInt16 h

end Word
