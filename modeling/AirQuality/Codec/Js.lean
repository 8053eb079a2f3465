import AirQuality.Lib.Word
import Mathlib.Data.Rat.Defs
import Mathlib.Algebra.Order.Field.Rat
import Mathlib.Data.Rat.Cast.Order

/-!
# JavaScript numbers and typed arrays

What the server code takes from its language: numbers (with exact rationals in place of doubles), the integer test, the
comparisons, the conversion to 16 bits that `DataView` setters make, and the little-endian getters of `DataView`.
-/

namespace AirQuality

/-- A JavaScript number. `-0` is not told apart from `0`. -/
inductive JsNumber where
  | nan
  | infinity (negative : Bool)
  | finite (q : ℚ)
deriving DecidableEq

namespace JsNumber

/-- The number of an integer. -/
def ofInt (z : ℤ) : JsNumber := .finite z

/-- `Number.isInteger` -/
def isInteger : JsNumber → Bool
  | .finite q => q.den == 1
  | _ => false

/-- The operator `<`, false as soon as one side is `NaN`. -/
def lt : JsNumber → JsNumber → Bool
  | .nan, _ => false
  | _, .nan => false
  | .infinity true, .infinity true => false
  | .infinity true, _ => true
  | .infinity false, _ => false
  | .finite _, .infinity negative => !negative
  | .finite a, .finite b => decide (a < b)

/-- `ToUint16`: the number truncated toward zero, modulo 2^16. The setters of `DataView` store these bits, signed or not. -/
def toUint16 : JsNumber → UInt16
  | .finite q => UInt16.ofInt (q.num.tdiv q.den)
  | _ => 0

/-- `ToUint8` -/
def toUint8 : JsNumber → UInt8
  | .finite q => UInt8.ofInt (q.num.tdiv q.den)
  | _ => 0

theorem isInteger_iff (v : JsNumber) : v.isInteger = true ↔ ∃ z : ℤ, v = ofInt z := by
  cases v with
  | nan => simp [isInteger, ofInt]
  | infinity negative => simp [isInteger, ofInt]
  | finite q =>
    simp only [isInteger, beq_iff_eq, ofInt, finite.injEq]
    constructor
    · intro h
      exact ⟨q.num, ((Rat.den_eq_one_iff q).1 h).symm⟩
    · rintro ⟨z, rfl⟩
      simp

@[simp] theorem ofInt_lt_ofInt (a b : ℤ) : lt (ofInt a) (ofInt b) = decide (a < b) := by
  simp [lt, ofInt]

theorem ofInt_injective : Function.Injective ofInt := by
  intro a b h
  simpa [ofInt] using h

@[simp] theorem toUint16_ofInt (z : ℤ) : toUint16 (ofInt z) = UInt16.ofInt z := by
  simp [toUint16, ofInt]

end JsNumber

/-- `view.getUint16(offset, true)` -/
def getUint16 (view : List UInt8) (offset : Nat) : ℤ := (Word.at view offset).toNat

/-- `view.getInt16(offset, true)` -/
def getInt16 (view : List UInt8) (offset : Nat) : ℤ := (Word.at view offset).toInt16.toInt

/-- An unsigned word written after one byte is read back. -/
theorem getUint16_ofInt {z : ℤ} (h₁ : 0 ≤ z) (h₂ : z ≤ 65535) (b : UInt8) :
    getUint16 (b :: Word.bytes (UInt16.ofInt z)) 1 = z := by
  have hword : Word.at (b :: Word.bytes (UInt16.ofInt z)) 1 = UInt16.ofInt z := by simp [Word.at, Word.bytes]
  rw [getUint16, hword, Word.ofInt_toNat h₁ h₂]

/-- A signed word written after one byte is read back. -/
theorem getInt16_ofInt {z : ℤ} (h₁ : -32768 ≤ z) (h₂ : z ≤ 32767) (b : UInt8) :
    getInt16 (b :: Word.bytes (UInt16.ofInt z)) 1 = z := by
  have hword : Word.at (b :: Word.bytes (UInt16.ofInt z)) 1 = UInt16.ofInt z := by simp [Word.at, Word.bytes]
  rw [getInt16, hword, Word.ofInt_toInt h₁ h₂]

end AirQuality
