import AirQuality.Firmware.Sim
import AirQuality.Lib.Buffer

/-!
# Base64 on arrays

`base64_encode` of `firmware/sim/main.c` again, with the index it reads at and the array it writes to: a read or a write outside of
an array has no result. Indices are natural numbers: for `size_t` to wrap, the output would have to be longer than any array.
-/

namespace AirQuality

open Buffer

/-- The loop of `base64_encode`, from `i`: where it ends, and `out`. -/
def base64Loop (input : List UInt8) (i : Nat) (out : Writer Char) : Option (Nat × Writer Char) :=
  if i + 2 < input.length then do
    let n := ((← input[i]?).toNat <<< 16) ||| ((← input[i + 1]?).toNat <<< 8) ||| (← input[i + 2]?).toNat
    let out ← out.put (b64Char ((n >>> 18) &&& 0x3f))
    let out ← out.put (b64Char ((n >>> 12) &&& 0x3f))
    let out ← out.put (b64Char ((n >>> 6) &&& 0x3f))
    let out ← out.put (b64Char (n &&& 0x3f))
    base64Loop input (i + 3) out
  else some (i, out)
termination_by input.length - i

/-- What `base64_encode` does behind its loop, but for the terminating zero. -/
def base64Tail (input : List UInt8) (i : Nat) (out : Writer Char) : Option (Writer Char) :=
  if i < input.length then do
    let n := (← input[i]?).toNat <<< 16
    let n ← (if i + 1 < input.length then input[i + 1]?.map fun b => n ||| (b.toNat <<< 8) else some n)
    let out ← out.put (b64Char ((n >>> 18) &&& 0x3f))
    let out ← out.put (b64Char ((n >>> 12) &&& 0x3f))
    let out ← out.put (if i + 1 < input.length then b64Char ((n >>> 6) &&& 0x3f) else '=')
    out.put '='
  else some out

/-- `base64_encode`: what the array `out` holds afterwards, `none` if it read or wrote outside of an array. -/
def base64EncodeTo (input : List UInt8) (out : List Char) : Option (List Char) := do
  let (i, out) ← base64Loop input 0 (.start out)
  let out ← base64Tail input i out
  let out ← out.put '\x00'
  return out.cells

/-- The text that `%s` prints of an array. -/
def cString (array : List Char) : List Char := array.takeWhile (· ≠ '\x00')

/-! ## The arrays and the encoding -/

/-- From `i`, the loop and what follows it write the encoding of what is left. -/
theorem base64Loop_tail (input : List UInt8) (i : Nat) (out : Writer Char) :
    ((base64Loop input i out).bind fun p => base64Tail input p.1 p.2) = out.puts (base64Encode (input.drop i)) := by
  induction i, out using base64Loop.induct input with
  | case1 i out h ih =>
    have hdrop : input.drop i = input[i] :: input[i + 1] :: input[i + 2] :: input.drop (i + 3) := by
      rw [List.drop_eq_getElem_cons (by omega), List.drop_eq_getElem_cons (by omega), List.drop_eq_getElem_cons h]
    rw [base64Loop, if_pos h, hdrop, base64Encode, List.getElem?_eq_getElem (by omega), List.getElem?_eq_getElem (by omega),
      List.getElem?_eq_getElem h]
    simp only [Option.bind_eq_bind, Option.bind_some, Option.bind_assoc, Writer.puts_cons, ih]
  | case2 i out h =>
    rw [base64Loop, if_neg h, Option.bind_some, base64Tail]
    by_cases h₁ : i + 1 < input.length
    · -- two bytes are left
      have hdrop : input.drop i = [input[i], input[i + 1]] := by
        rw [List.drop_eq_getElem_cons (by omega), List.drop_eq_getElem_cons h₁, List.drop_eq_nil_of_le (by omega)]
      have h₀ : i < input.length := by omega
      rw [hdrop, base64Encode, if_pos h₀, List.getElem?_eq_getElem h₀, List.getElem?_eq_getElem h₁]
      simp only [if_pos h₁, Option.bind_eq_bind, Option.bind_some, Option.map_some, Writer.puts_cons, Writer.puts_nil,
        Option.bind_fun_some]
    · by_cases h₀ : i < input.length
      · -- one byte is left
        have hdrop : input.drop i = [input[i]] := by
          rw [List.drop_eq_getElem_cons h₀, List.drop_eq_nil_of_le (by omega)]
        rw [hdrop, base64Encode, if_pos h₀, List.getElem?_eq_getElem h₀]
        simp only [if_neg h₁, Option.bind_eq_bind, Option.bind_some, Writer.puts_cons, Writer.puts_nil, Option.bind_fun_some]
      · rw [if_neg h₀, List.drop_eq_nil_of_le (by omega)]
        rfl

/-- `base64_encode` writes the encoding and a zero, and changes nothing behind them; it leaves its arrays if the output does not
hold them. -/
theorem base64EncodeTo_eq (input : List UInt8) (out : List Char) :
    base64EncodeTo input out = if (base64Encode input).length < out.length then
      some (base64Encode input ++ '\x00' :: out.drop ((base64Encode input).length + 1)) else none := by
  have hputs : base64EncodeTo input out = ((Writer.start out).puts (base64Encode input ++ ['\x00'])).map Writer.cells := by
    have htail := base64Loop_tail input 0 (.start out)
    rw [List.drop_zero] at htail
    rw [Writer.puts_append, ← htail, Option.bind_assoc, base64EncodeTo]
    simp only [Option.bind_eq_bind, Option.pure_def, Writer.puts_cons, Writer.puts_nil, Option.bind_fun_some, Option.map_eq_bind,
      Option.bind_assoc, Function.comp_def]
  rw [hputs, Writer.puts_eq, Writer.written_start, Writer.free_start, List.length_append, List.length_singleton]
  simp only [Nat.succ_le_iff, List.nil_append, List.append_assoc, List.cons_append]

end AirQuality
