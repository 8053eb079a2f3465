import Mathlib.Data.List.Basic

/-!
# Base64 as `Buffer.from` reads it

Node's decoder is lenient: it takes the standard and the URL-safe alphabet, skips every other character, stops at the first
`=`, and drops bits that do not fill a byte. It reads a text unit by unit, in UTF-16, and of each unit the low byte only.
-/

namespace AirQuality

/-- The six bits of a character of either alphabet. -/
def base64Value (c : Char) : Option Nat :=
  if 'A'.toNat ≤ c.toNat ∧ c.toNat ≤ 'Z'.toNat then some (c.toNat - 'A'.toNat)
  else if 'a'.toNat ≤ c.toNat ∧ c.toNat ≤ 'z'.toNat then some (c.toNat - 'a'.toNat + 26)
  else if '0'.toNat ≤ c.toNat ∧ c.toNat ≤ '9'.toNat then some (c.toNat - '0'.toNat + 52)
  else if c = '+' ∨ c = '-' then some 62
  else if c = '/' ∨ c = '_' then some 63
  else none

/-- The digits of a base64 text, up to its padding. -/
def base64Digits (chars : List Char) : List Nat := (chars.takeWhile (· ≠ '=')).filterMap base64Value

/-- The bytes of base64 digits, four at a time. -/
def base64Bytes : List Nat → List UInt8
  | a :: b :: c :: d :: rest =>
    UInt8.ofNat (a * 4 + b / 16) :: UInt8.ofNat (b % 16 * 16 + c / 4) :: UInt8.ofNat (c % 4 * 64 + d) :: base64Bytes rest
  | [a, b, c] => [UInt8.ofNat (a * 4 + b / 16), UInt8.ofNat (b % 16 * 16 + c / 4)]
  | [a, b] => [UInt8.ofNat (a * 4 + b / 16)]
  | _ => []

/-- The units of a character in UTF-16. -/
def utf16Units (c : Char) : List Nat :=
  if c.toNat < 0x10000 then [c.toNat]
  else [0xD800 + (c.toNat - 0x10000) / 0x400, 0xDC00 + (c.toNat - 0x10000) % 0x400]

/-- What the decoder sees of a character. -/
def lowBytes (c : Char) : List Char := (utf16Units c).map (fun unit => Char.ofNat (unit % 256))

/-- `Buffer.from(data, 'base64')` -/
def bufferFromBase64 (data : String) : List UInt8 := base64Bytes (base64Digits (data.toList.flatMap lowBytes))

theorem lowBytes_of_lt {c : Char} (h : c.toNat < 256) : lowBytes c = [c] := by
  unfold lowBytes utf16Units
  rw [if_pos (Nat.lt_trans h (by decide)), List.map_singleton, Nat.mod_eq_of_lt h, Char.ofNat_toNat]

/-- A text in Latin-1 is read as it is. -/
theorem flatMap_lowBytes {cs : List Char} (h : ∀ c ∈ cs, c.toNat < 256) : cs.flatMap lowBytes = cs := by
  induction cs with
  | nil => rfl
  | cons c cs ih =>
    obtain ⟨hc, hcs⟩ := List.forall_mem_cons.1 h
    rw [List.flatMap_cons, lowBytes_of_lt hc, ih hcs, List.singleton_append]

example : bufferFromBase64 "AQEB WA\nIAAAAA" = [1, 1, 1, 0x58, 2, 0, 0, 0, 0] := by decide

example : bufferFromBase64 "\u0141QEB" = [1, 1, 1] := by decide

end AirQuality
