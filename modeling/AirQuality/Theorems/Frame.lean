import AirQuality.Firmware.Pms
import Mathlib.Data.List.DropRight

/-!
# Frames of the particulate sensor

What `esp32_read_pm_frame` makes of the bytes of the UART: it takes a bounded number of them, reports only a well-formed frame that
stands among them, and finds the frame behind a prefix exactly if it does not take the frame's first byte for the second byte of a
preamble.
-/

namespace AirQuality

open Stream'

variable {uart : Seq UInt8} {out : ℚ × ℚ}

/-! ## One attempt -/

theorem pmHunt_timeout {attempts n : Nat} (h : uart.get? n = none) :
    pmHunt uart out (attempts + 1) n = { result := (-1, out), read := n } := by
  simp [pmHunt, pmsReadByte, h]

/-- A byte that does not start a preamble is passed over. -/
theorem pmHunt_skip {attempts n : Nat} {b : UInt8} (h : uart.get? n = some b) (hb : b ≠ 0x42) :
    pmHunt uart out (attempts + 1) n = pmHunt uart out attempts (n + 1) := by
  simp [pmHunt, pmsReadByte, h, hb]

theorem pmHunt_timeout_second {attempts n : Nat} (h₁ : uart.get? n = some 0x42) (h₂ : uart.get? (n + 1) = none) :
    pmHunt uart out (attempts + 1) n = { result := (-1, out), read := n + 1 } := by
  simp [pmHunt, pmsReadByte, h₁, h₂]

/-- A byte that starts a preamble is passed over together with the one behind it, when that is not its second byte. -/
theorem pmHunt_skip_two {attempts n : Nat} {c : UInt8} (h₁ : uart.get? n = some 0x42) (h₂ : uart.get? (n + 1) = some c)
    (hc : c ≠ 0x4D) : pmHunt uart out (attempts + 1) n = pmHunt uart out attempts (n + 2) := by
  simp [pmHunt, pmsReadByte, h₁, h₂, hc]

/-- What stands in 32 bytes that start with a preamble. -/
theorem take_block {n : Nat} {b c : UInt8} (hb : uart.get? n = some b) (hc : uart.get? (n + 1) = some c) (k : Nat) :
    (uart.drop n).take (k + 2) = b :: c :: (uart.drop (n + 2)).take k := by
  apply List.ext_getElem?
  intro i
  rcases i with _ | _ | i
  · simp [hb]
  · simp [hc]
  · simp only [Seq.getElem?_take, Seq.drop_get?, List.getElem?_cons_succ]
    have hlt : i + 1 + 1 < k + 2 ↔ i < k := by omega
    have hindex : n + (i + 1 + 1) = n + 2 + i := by omega
    simp only [hlt, hindex]

/-- Behind a preamble the next 30 bytes are taken as the rest of a frame. -/
theorem pmHunt_preamble {n : Nat} (h₁ : uart.get? n = some 0x42) (h₂ : uart.get? (n + 1) = some 0x4D)
    (out : ℚ × ℚ) (attempts : Nat) :
    pmHunt uart out (attempts + 1) n =
      let frame := (uart.drop n).take 32
      if frame.length ≠ 32 then { result := (-1, out), read := n + frame.length }
      else if frameWord frame 2 ≠ 28 ∨ frameSum frame ≠ frameWord frame 30 then pmHunt uart out attempts (n + 32)
      else { result := (0, (frameWord frame 12).toNat, (frameWord frame 14).toNat), read := n + 32 } := by
  have hblock := take_block h₁ h₂ 30
  simp only [pmHunt, pmsReadByte, h₁, h₂, hblock, pmsFrameLen, List.length_cons]
  by_cases hlen : ((uart.drop (n + 2)).take 30).length = 30
  · by_cases hword : frameWord (0x42 :: 0x4D :: (uart.drop (n + 2)).take 30) 2 = 28
    · by_cases hsum : frameSum (0x42 :: 0x4D :: (uart.drop (n + 2)).take 30) =
          frameWord (0x42 :: 0x4D :: (uart.drop (n + 2)).take 30) 30
      · simp [hlen, hword, hsum]
      · simp [hlen, hword, hsum]
    · simp [hlen, hword]
  · simp [hlen]
    omega

/-- The bytes that pass the checks of the hunt are a well-formed frame. -/
theorem frame_checks_iff {bytes : List UInt8} :
    (frameWord bytes 2 = 28 ∧ frameSum bytes = frameWord bytes 30) ↔
      bigEndian bytes 2 = 28 ∧ bigEndian bytes 30 = ((bytes.take 30).map UInt8.toNat).sum := by
  rw [← frameWord_toNat, ← frameWord_toNat, ← frameSum_toNat, UInt16.toNat_inj, @eq_comm _ (frameSum bytes)]
  exact and_congr_left' UInt16.toNat_inj.symm

theorem frameWord_cast (bytes : List UInt8) (i : Nat) : ((frameWord bytes i).toNat : ℚ) = (bigEndian bytes i : ℚ) := by
  rw [frameWord_toNat]

/-- A well-formed frame is reported. -/
theorem pmHunt_frame {f : PmFrame} {n : Nat} (h : (uart.drop n).take 32 = f.bytes) (attempts : Nat) :
    pmHunt uart out (attempts + 1) n = { result := (0, f.words), read := n + 32 } := by
  have hbyte (i : Nat) (hi : i < 32) : uart.get? (n + i) = f.bytes[i]? := by
    rw [← h, Seq.getElem?_take, if_pos hi, Seq.drop_get?]
  have hstart (i : Nat) (hi : i < 2) : f.bytes[i]? = ([0x42, 0x4D] : List UInt8)[i]? := by
    rw [← f.preamble, List.getElem?_take, if_pos hi]
  have h₁ : uart.get? n = some 0x42 := (hbyte 0 (by omega)).trans (hstart 0 (by omega))
  have h₂ : uart.get? (n + 1) = some 0x4D := (hbyte 1 (by omega)).trans (hstart 1 (by omega))
  have hchecks := frame_checks_iff.2 ⟨f.lengthField, f.checksum⟩
  rw [pmHunt_preamble h₁ h₂, h]
  simp only [f.length_eq, hchecks.1, hchecks.2, frameWord_cast, PmFrame.words]
  simp

/-- What one attempt of the hunt can do: give up, go on one, two or 32 bytes further, or report the well-formed frame it stands
before. -/
theorem pmHunt_step (uart : Seq UInt8) (out : ℚ × ℚ) (attempts n : Nat) :
    (∃ k ≤ 32, pmHunt uart out (attempts + 1) n = { result := (-1, out), read := n + k }) ∨
    (∃ k ≤ 32, pmHunt uart out (attempts + 1) n = pmHunt uart out attempts (n + k)) ∨
    (∃ f : PmFrame, (uart.drop n).take 32 = f.bytes ∧
      pmHunt uart out (attempts + 1) n = { result := (0, f.words), read := n + 32 }) := by
  cases h₁ : uart.get? n with
  | none => exact .inl ⟨0, by omega, pmHunt_timeout h₁⟩
  | some b =>
    by_cases hb : b = 0x42
    swap
    · exact .inr (.inl ⟨1, by omega, pmHunt_skip h₁ hb⟩)
    subst hb
    cases h₂ : uart.get? (n + 1) with
    | none => exact .inl ⟨1, by omega, pmHunt_timeout_second h₁ h₂⟩
    | some c =>
      by_cases hc : c = 0x4D
      swap
      · exact .inr (.inl ⟨2, by omega, pmHunt_skip_two h₁ h₂ hc⟩)
      subst hc
      have hblock := take_block h₁ h₂ 30
      have hhunt := pmHunt_preamble h₁ h₂ out attempts
      have hle : ((uart.drop n).take 32).length ≤ 32 := Seq.length_take_le
      generalize hframe : (uart.drop n).take 32 = frame at hblock hhunt hle
      dsimp only at hhunt
      split_ifs at hhunt with hlen hchecks
      · exact .inl ⟨frame.length, hle, hhunt⟩
      · exact .inr (.inl ⟨32, le_rfl, hhunt⟩)
      · rw [not_or, not_not, not_not, frame_checks_iff] at hchecks
        let f : PmFrame :=
          { bytes := frame
            length_eq := not_not.1 hlen
            preamble := by rw [hblock]; rfl
            lengthField := hchecks.1
            checksum := hchecks.2 }
        exact .inr (.inr ⟨f, rfl, by rw [hhunt]; simp only [frameWord_cast]; rfl⟩)

/-! ## Only well-formed frames -/

/-- From byte `n` on the hunt takes at most 32 bytes for each attempt; it fails and leaves the outputs alone, or it reports a
well-formed frame that stands among the bytes it took. -/
theorem pmHunt_sound (uart : Seq UInt8) (out : ℚ × ℚ) (attempts n : Nat) :
    (pmHunt uart out attempts n).read ≤ n + 32 * attempts ∧
    ((pmHunt uart out attempts n).result = (-1, out) ∨
      ∃ (f : PmFrame) (i : Nat), n ≤ i ∧ i + 32 ≤ (pmHunt uart out attempts n).read ∧ (uart.drop i).take 32 = f.bytes ∧
        (pmHunt uart out attempts n).result = (0, f.words)) := by
  induction attempts generalizing n with
  | zero => exact ⟨by simp [pmHunt], .inl rfl⟩
  | succ attempts ih =>
    rcases pmHunt_step uart out attempts n with ⟨k, hk, h⟩ | ⟨k, hk, h⟩ | ⟨f, hf, h⟩
    · rw [h]
      exact ⟨by simp only; omega, .inl rfl⟩
    · rw [h]
      obtain ⟨hread, hres⟩ := ih (n + k)
      refine ⟨by omega, hres.imp_right ?_⟩
      rintro ⟨f, i, hi, hrest⟩
      exact ⟨f, i, by omega, hrest⟩
    · rw [h]
      exact ⟨by simp only; omega, .inr ⟨f, n, le_rfl, le_rfl, hf, rfl⟩⟩

/-- `esp32_read_pm_frame` takes at most 128 times 32 bytes. It returns 0 only with the words of a well-formed frame that stands
among them, and -1 with the outputs untouched. -/
theorem pm_frame_sound (uart : Seq UInt8) (out : ℚ × ℚ) :
    (esp32ReadPmFrame uart out).read ≤ 128 * 32 ∧
    ((esp32ReadPmFrame uart out).result.1 = 0 →
      ∃ (f : PmFrame) (i : Nat), i + 32 ≤ (esp32ReadPmFrame uart out).read ∧ (uart.drop i).take 32 = f.bytes ∧
        (esp32ReadPmFrame uart out).result.2 = f.words) ∧
    ((esp32ReadPmFrame uart out).result.1 ≠ 0 →
      (esp32ReadPmFrame uart out).result.1 = -1 ∧ (esp32ReadPmFrame uart out).result.2 = out) := by
  obtain ⟨hread, hres⟩ := pmHunt_sound uart out 128 0
  have hframe : esp32ReadPmFrame uart out = pmHunt uart out 128 0 := rfl
  rw [hframe]
  refine ⟨by omega, fun hzero => ?_, fun hne => ?_⟩
  · rcases hres with h | ⟨f, i, -, hi, hblock, h⟩
    · rw [h] at hzero
      exact absurd hzero (by simp)
    · exact ⟨f, i, hi, hblock, by rw [h]⟩
  · rcases hres with h | ⟨f, i, -, -, -, h⟩
    · rw [h]
      exact ⟨rfl, rfl⟩
    · rw [h] at hne
      exact absurd rfl hne

/-! ## Finding a frame behind a prefix -/

/-- The number of 0x42 bytes at the end of a prefix. -/
def trailingStarts (p : List UInt8) : Nat := (p.rtakeWhile (· == 0x42)).length

/-- A byte in front of a prefix counts only if it and all bytes behind it are 0x42. -/
theorem trailingStarts_cons (b : UInt8) (p : List UInt8) :
    trailingStarts (b :: p) = trailingStarts p + if (p.all (· == 0x42) && b == 0x42) = true then 1 else 0 := by
  have hall : (p.reverse.takeWhile (· == 0x42)).length = p.length ↔ p.all (· == 0x42) = true := by
    have hself : p.reverse.takeWhile (· == 0x42) = p.reverse ↔ p.all (· == 0x42) = true := by
      simp [List.takeWhile_eq_self_iff]
    rw [← p.length_reverse, ← hself]
    exact ⟨fun h => (List.takeWhile_prefix _).eq_of_length h, fun h => congrArg List.length h⟩
  simp only [trailingStarts, List.rtakeWhile, List.reverse_cons, List.takeWhile_append, List.length_reverse]
  by_cases hp : p.all (· == 0x42) = true
  · rw [if_pos (hall.2 hp), hall.2 hp, hp, Bool.true_and]
    by_cases hb : b = 0x42
    · simp [hb]
    · simp [hb]
  · rw [if_neg (hall.not.2 hp), Bool.eq_false_iff.2 hp, Bool.false_and]
    simp

theorem trailingStarts_cons_of_ne {b : UInt8} (hb : b ≠ 0x42) (p : List UInt8) :
    trailingStarts (b :: p) = trailingStarts p := by
  simp [trailingStarts_cons, hb]

theorem even_trailingStarts_cons_cons (b : UInt8) (p : List UInt8) :
    Even (trailingStarts (0x42 :: b :: p)) ↔ Even (trailingStarts p) := by
  have hswap : ((b :: p).all (· == 0x42) && (0x42 : UInt8) == 0x42) = (p.all (· == 0x42) && b == 0x42) := by
    rw [List.all_cons, beq_self_eq_true, Bool.and_true, Bool.and_comm]
  rw [trailingStarts_cons, trailingStarts_cons, hswap]
  by_cases h : (p.all (· == 0x42) && b == 0x42) = true
  · rw [if_pos h, Nat.even_add_one, Nat.even_add_one, not_not]
  · rw [if_neg h, Nat.add_zero]

/-- The bytes of a list stand in the sequence from byte `n` on. -/
def Stands (uart : Seq UInt8) (n : Nat) (bytes : List UInt8) : Prop := ∀ i < bytes.length, uart.get? (n + i) = bytes[i]?

theorem stands_cons {n : Nat} {b : UInt8} {bytes : List UInt8} :
    Stands uart n (b :: bytes) ↔ uart.get? n = some b ∧ Stands uart (n + 1) bytes := by
  constructor
  · intro h
    refine ⟨h 0 (by simp), fun i hi => ?_⟩
    have hnext := h (i + 1) (by simpa using hi)
    rw [List.getElem?_cons_succ] at hnext
    rw [← hnext, Nat.add_assoc, Nat.add_comm 1 i]
  · rintro ⟨hb, h⟩ (_ | i) hi
    · exact hb
    · rw [List.getElem?_cons_succ, ← h i (by simpa using hi), Nat.add_assoc, Nat.add_comm 1 i]

/-- The hunt passes over a prefix without a preamble, one attempt a byte at most; and over a byte 0x42 behind it too, if an odd number
of 0x42 bytes ends the prefix. -/
theorem pmHunt_prefix (out : ℚ × ℚ) {p : List UInt8} {n attempts : Nat} (hp : ¬[0x42, 0x4D] <:+: p)
    (hstands : Stands uart n (p ++ [0x42])) (hlen : p.length ≤ attempts) :
    ∃ left, attempts ≤ left + p.length ∧
      pmHunt uart out attempts n =
        pmHunt uart out left (n + p.length + if Even (trailingStarts p) then 0 else 1) := by
  induction p using List.twoStepInduction generalizing n attempts with
  | nil => exact ⟨attempts, by simp, by simp [trailingStarts]⟩
  | singleton b =>
    obtain ⟨attempts, rfl⟩ := Nat.exists_eq_add_of_le' hlen
    obtain ⟨hb, hnext, -⟩ := stands_cons.1 hstands |>.imp_right stands_cons.1
    by_cases hstart : b = 0x42
    · subst hstart
      exact ⟨attempts, by simp, pmHunt_skip_two hb hnext (by decide)⟩
    · refine ⟨attempts, by simp, ?_⟩
      rw [trailingStarts_cons_of_ne hstart]
      exact pmHunt_skip hb hstart
  | cons_cons b c p ih₂ ih₁ =>
    obtain ⟨attempts, rfl⟩ := Nat.exists_eq_add_of_le' (Nat.one_le_of_lt hlen)
    obtain ⟨hb, hrest⟩ := stands_cons.1 hstands
    obtain ⟨hc, hrest₂⟩ := stands_cons.1 hrest
    have htail₁ : ¬[0x42, 0x4D] <:+: c :: p := fun h => hp (h.trans (List.infix_cons List.infix_rfl))
    have htail₂ : ¬[0x42, 0x4D] <:+: p := fun h => htail₁ (h.trans (List.infix_cons List.infix_rfl))
    by_cases hstart : b = 0x42
    · subst hstart
      have hsecond : c ≠ 0x4D := by
        rintro rfl
        exact hp (List.IsPrefix.isInfix ⟨p, rfl⟩)
      obtain ⟨left, hleft, h⟩ := ih₂ htail₂ hrest₂ (Nat.le_of_succ_le (Nat.le_of_succ_le_succ hlen))
      refine ⟨left, by simp; omega, ?_⟩
      rw [pmHunt_skip_two hb hc hsecond, h]
      simp only [even_trailingStarts_cons_cons, List.length_cons]
      congr 1
      omega
    · obtain ⟨left, hleft, h⟩ := ih₁ c htail₁ hrest (Nat.le_of_succ_le_succ hlen)
      refine ⟨left, by simp at hleft ⊢; omega, ?_⟩
      rw [pmHunt_skip hb hstart, h, trailingStarts_cons_of_ne hstart]
      simp only [List.length_cons]
      congr 1
      omega

theorem get?_ofList_append (bytes : List UInt8) (rest : Seq UInt8) {i : Nat} (hi : i < bytes.length) :
    ((Seq.ofList bytes).append rest).get? i = bytes[i]? := by
  induction bytes generalizing i with
  | nil => exact absurd hi (Nat.not_lt_zero i)
  | cons b bytes ih =>
    rw [Seq.ofList_cons, Seq.cons_append]
    cases i with
    | zero => rfl
    | succ i => exact ih (by simpa using hi)

/-- A frame starts with the first byte of a preamble. -/
theorem PmFrame.head (f : PmFrame) : f.bytes[0]? = some 0x42 := by
  have h : (f.bytes.take 2)[0]? = f.bytes[0]? := by rw [List.getElem?_take, if_pos (by omega)]
  rw [← h, f.preamble]
  rfl

/-- The hunt stands before a frame, or behind its first byte, once it has passed over the prefix. -/
theorem pmHunt_behind (out : ℚ × ℚ) {p : List UInt8} (f : PmFrame) (hlen : p.length ≤ 64) (hp : ¬[0x42, 0x4D] <:+: p) (rest : Seq UInt8) :
    ∃ left, 64 ≤ left ∧
      esp32ReadPmFrame ((Seq.ofList (p ++ f.bytes)).append rest) out =
        pmHunt ((Seq.ofList (p ++ f.bytes)).append rest) out left
          (p.length + if Even (trailingStarts p) then 0 else 1) := by
  have hstands : Stands ((Seq.ofList (p ++ f.bytes)).append rest) 0 (p ++ [0x42]) := by
    intro i hi
    rw [List.length_append, List.length_singleton] at hi
    have hbound : i < (p ++ f.bytes).length := by
      rw [List.length_append, f.length_eq]
      omega
    rw [Nat.zero_add, get?_ofList_append _ _ hbound]
    by_cases hin : i < p.length
    · rw [List.getElem?_append_left hin, List.getElem?_append_left hin]
    · have heq : i = p.length := by omega
      rw [List.getElem?_append_right (by omega), List.getElem?_append_right (by omega), heq, Nat.sub_self, f.head]
      rfl
  obtain ⟨left, hleft, h⟩ := pmHunt_prefix out hp hstands (Nat.le_trans hlen (by decide : 64 ≤ 128))
  rw [Nat.zero_add] at h
  exact ⟨left, by omega, h⟩

/-- `esp32_read_pm_frame` finds a well-formed frame behind a prefix of at most 64 bytes without a preamble, whatever follows, exactly
if the number of 0x42 bytes that end the prefix is even: else the last of them and the first byte of the frame are passed over
together. -/
theorem frame_found_iff (p : List UInt8) (f : PmFrame) (hlen : p.length ≤ 64) (hp : ¬[0x42, 0x4D] <:+: p) :
    (∀ (rest : Seq UInt8) (out : ℚ × ℚ),
      (esp32ReadPmFrame ((Seq.ofList (p ++ f.bytes)).append rest) out).result = (0, f.words)) ↔
      Even (trailingStarts p) := by
  constructor
  · intro hfound
    by_contra hodd
    obtain ⟨left, -, h⟩ := pmHunt_behind (0, 0) f hlen hp Seq.nil
    have hres := hfound Seq.nil (0, 0)
    rw [h, if_neg hodd, Seq.append_nil] at hres
    rcases (pmHunt_sound _ _ left (p.length + 1)).2 with hfail | ⟨g, i, hi, -, hblock, -⟩
    · rw [hfail] at hres
      exact absurd (congrArg Prod.fst hres) (by simp)
    · -- a second frame would end behind the last byte
      have hlast : g.bytes[31]? = none := by
        rw [← hblock, Seq.getElem?_take, if_pos (by omega), Seq.drop_get?, Seq.ofList_get?, List.getElem?_eq_none]
        rw [List.length_append, f.length_eq]
        omega
      rw [List.getElem?_eq_none_iff, g.length_eq] at hlast
      omega
  · intro heven rest out
    obtain ⟨left, hleft, h⟩ := pmHunt_behind out f hlen hp rest
    obtain ⟨left, rfl⟩ := Nat.exists_eq_add_of_le' (Nat.one_le_of_lt hleft)
    have hblock : (((Seq.ofList (p ++ f.bytes)).append rest).drop p.length).take 32 = f.bytes := by
      apply List.ext_getElem?
      intro i
      rw [Seq.getElem?_take, Seq.drop_get?]
      by_cases hi : i < 32
      · rw [if_pos hi, get?_ofList_append _ _ (by rw [List.length_append, f.length_eq]; omega),
          List.getElem?_append_right (by omega), Nat.add_sub_cancel_left]
      · rw [if_neg hi, List.getElem?_eq_none (by rw [f.length_eq]; omega)]
    rw [h, if_pos heven]
    exact congrArg PmCall.result (pmHunt_frame hblock left)

/-- A frame with PM2.5 of 12 µg/m³ and PM10 of 20 µg/m³. -/
def sampleFrame : PmFrame where
  bytes :=
    [0x42, 0x4D, 0x00, 0x1C, 0x00, 0x00, 0x00, 0x00, 0x00, 0x00, 0x00, 0x00, 0x00, 0x0C, 0x00, 0x14,
      0x00, 0x00, 0x00, 0x00, 0x00, 0x00, 0x00, 0x00, 0x00, 0x00, 0x00, 0x00, 0x00, 0x00, 0x00, 0xCB]
  length_eq := by decide
  preamble := by decide
  lengthField := by decide
  checksum := by decide

theorem frame_found_iff_noise :
    (∀ (rest : Seq UInt8) (out : ℚ × ℚ),
      (esp32ReadPmFrame ((Seq.ofList ([0x17] ++ sampleFrame.bytes)).append rest) out).result = (0, sampleFrame.words)) ↔
      Even (trailingStarts [0x17]) :=
  frame_found_iff [0x17] sampleFrame (by decide) (by decide)

/-- Behind a single 0x42 the frame is not found. -/
theorem frame_found_false :
    ¬∀ (p : List UInt8) (f : PmFrame), p.length ≤ 64 → ¬[0x42, 0x4D] <:+: p → ∀ (rest : Seq UInt8) (out : ℚ × ℚ),
      (esp32ReadPmFrame ((Seq.ofList (p ++ f.bytes)).append rest) out).result = (0, f.words) := by
  intro h
  have hfound := h [0x42] sampleFrame (by decide) (by decide) Seq.nil (0, 0)
  rw [Seq.append_nil] at hfound
  have hlost : (esp32ReadPmFrame (Seq.ofList ([0x42] ++ sampleFrame.bytes)) (0, 0)).result.1 = -1 := by
    decide +kernel
  rw [hfound] at hlost
  exact absurd hlost (by decide)

/-! ## The group of a reading -/

/-- A reading whose particulate group is present carries the words of a well-formed frame that came over the UART in this call. -/
theorem pm_group_is_frame (uart : PmsUart) (ready : Bool) (out : ℚ × ℚ) (hal : AqSensorHal)
    (h : (aqSample { hal with readPm := (esp32ReadPm uart ready out).1.result }).2.present &&& aqPresentPm ≠ 0) :
    ∃ (f : PmFrame) (i : Nat), (uart.fresh.drop i).take 32 = f.bytes ∧
      ((aqSample { hal with readPm := (esp32ReadPm uart ready out).1.result }).2.pm25,
        (aqSample { hal with readPm := (esp32ReadPm uart ready out).1.result }).2.pm10) = f.words := by
  have hrc : (esp32ReadPm uart ready out).1.result.1 = 0 := by
    by_contra hne
    refine h ?_
    unfold aqSample
    by_cases henv : hal.readEnv.1 = 0
    · simp [hne, henv, aqPresentPm, aqPresentEnv]
      rfl
    · simp [hne, henv, aqPresentPm]
  have hframe : (esp32ReadPm uart ready out).1 = esp32ReadPmFrame uart.fresh out := by
    rw [esp32ReadPm_call] at hrc ⊢
    split_ifs at hrc ⊢
    · exact absurd hrc (by simp)
    · rfl
  obtain ⟨-, hsound, -⟩ := pm_frame_sound uart.fresh out
  rw [hframe] at hrc ⊢
  obtain ⟨f, i, -, hblock, hwords⟩ := hsound hrc
  refine ⟨f, i, hblock, ?_⟩
  rw [← hwords]
  unfold aqSample
  simp [hrc]

end AirQuality
