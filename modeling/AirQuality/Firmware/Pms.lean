import AirQuality.Firmware.Payload
import Mathlib.Data.Seq.Basic

/-!
# The PMS7003 driver

`firmware/adapters/esp32/sensors_esp32.c`, the part for the particulate sensor. What the UART delivers is a sequence of bytes,
finite or infinite: a read past its end is a timeout. A reader stands before a byte of the sequence.
-/

namespace AirQuality

open Stream'

/-- `AQ_PMS_FRAME_LEN` -/
def pmsFrameLen : Nat := 32

/-- The command frames of `pms_sleep` and `pms_wake`. -/
def pmsSleep : List UInt8 := [0x42, 0x4D, 0xE4, 0x00, 0x00, 0x01, 0x73]
def pmsWake : List UInt8 := [0x42, 0x4D, 0xE4, 0x00, 0x01, 0x01, 0x74]

/-- `pms_read_byte`, before byte `n`. -/
def pmsReadByte (uart : Seq UInt8) (n : Nat) : Option UInt8 := uart.get? n

/-- `(uint16_t)((frame[i] << 8) | frame[i + 1])`: the words of a frame have the high byte first. -/
def frameWord (frame : List UInt8) (i : Nat) : UInt16 := Word.join (frame.getD (i + 1) 0) (frame.getD i 0)

/-- The loop that sums the bytes before the checksum, in `uint16_t`. -/
def frameSum (frame : List UInt8) : UInt16 :=
  (frame.take (pmsFrameLen - 2)).foldl (fun sum b => sum + b.toUInt16) 0

/-- What one call leaves: its return code, `*pm25` and `*pm10`, and the number of bytes taken from the UART. -/
structure PmCall where
  result : Int × ℚ × ℚ
  read : Nat
deriving DecidableEq

/-- The hunt of `esp32_read_pm_frame`, with `attempts` left and before byte `n`; `out` is what `*pm25` and `*pm10` hold. -/
def pmHunt (uart : Seq UInt8) (out : ℚ × ℚ) : (attempts n : Nat) → PmCall
  | 0, n => { result := (-1, out), read := n }
  | attempts + 1, n =>
    match pmsReadByte uart n with
    | none => { result := (-1, out), read := n }
    | some b =>
      if b ≠ 0x42 then pmHunt uart out attempts (n + 1)
      else
        match pmsReadByte uart (n + 1) with
        | none => { result := (-1, out), read := n + 1 }
        | some b =>
          if b ≠ 0x4D then pmHunt uart out attempts (n + 2)
          else
            let body := (uart.drop (n + 2)).take (pmsFrameLen - 2)
            let frame := 0x42 :: 0x4D :: body
            if body.length ≠ pmsFrameLen - 2 then { result := (-1, out), read := n + 2 + body.length }
            -- desync: keep hunting behind the block
            else if frameWord frame 2 ≠ 28 then pmHunt uart out attempts (n + pmsFrameLen)
            else if frameSum frame ≠ frameWord frame 30 then pmHunt uart out attempts (n + pmsFrameLen)
            else { result := (0, (frameWord frame 12).toNat, (frameWord frame 14).toNat), read := n + pmsFrameLen }

/-- `esp32_read_pm_frame` -/
def esp32ReadPmFrame (uart : Seq UInt8) (out : ℚ × ℚ) : PmCall := pmHunt uart out (pmsFrameLen * 4) 0

/-- What the world answers during one call of `esp32_read_pm`: whether each of the three set-up calls of `pms_init` works, and the
bytes that arrive after the flush. -/
structure PmsUart where
  install : Bool
  config : Bool
  pin : Bool
  fresh : Seq UInt8

/-- `pms_init`: its return code, and `s_pms_ready` after it. -/
def pmsInit (uart : PmsUart) (ready : Bool) : Int × Bool :=
  if ready then (0, true)
  else if !uart.install then (-1, false)
  else if !uart.config then (-1, false)
  else if !uart.pin then (-1, false)
  else (0, true)

/-- `esp32_read_pm`: what `esp32_read_pm_frame` leaves, `s_pms_ready`, and the commands sent to the sensor. -/
def esp32ReadPm (uart : PmsUart) (ready : Bool) (out : ℚ × ℚ) : PmCall × Bool × List (List UInt8) :=
  let (rc, ready) := pmsInit uart ready
  if rc ≠ 0 then ({ result := (-1, out), read := 0 }, ready, [])
  else (esp32ReadPmFrame uart.fresh out, ready, [pmsWake, pmsSleep])

/-- Once the UART is set up, the call is one hunt for a frame. -/
theorem esp32ReadPm_call (uart : PmsUart) (ready : Bool) (out : ℚ × ℚ) :
    (esp32ReadPm uart ready out).1 =
      if (pmsInit uart ready).1 ≠ 0 then { result := (-1, out), read := 0 } else esp32ReadPmFrame uart.fresh out := by
  simp only [esp32ReadPm]
  split_ifs
  · rfl
  · rfl

/-! ## Well-formed frames -/

/-- The number at byte `i`, high byte first. -/
def bigEndian (bytes : List UInt8) (i : Nat) : Nat := 256 * (bytes.getD i 0).toNat + (bytes.getD (i + 1) 0).toNat

/-- A well-formed frame: the preamble, 28 as length field, and the sum of the bytes before it as checksum. -/
structure PmFrame where
  bytes : List UInt8
  length_eq : bytes.length = 32
  preamble : bytes.take 2 = [0x42, 0x4D]
  lengthField : bigEndian bytes 2 = 28
  checksum : bigEndian bytes 30 = ((bytes.take 30).map UInt8.toNat).sum

/-- The words a frame reports: PM2.5 and PM10, atmospheric. -/
def PmFrame.words (f : PmFrame) : ℚ × ℚ := (bigEndian f.bytes 12, bigEndian f.bytes 14)

theorem frameWord_toNat (bytes : List UInt8) (i : Nat) : (frameWord bytes i).toNat = bigEndian bytes i := by
  rw [frameWord, Word.join_toNat, bigEndian, Nat.add_comm]

/-- The sum of up to 257 bytes does not wrap in `uint16_t`. -/
theorem foldl_sum_toNat (bytes : List UInt8) (start : UInt16) (h : start.toNat + 255 * bytes.length < 65536) :
    (bytes.foldl (fun sum b => sum + b.toUInt16) start).toNat = start.toNat + (bytes.map UInt8.toNat).sum := by
  induction bytes generalizing start with
  | nil => rfl
  | cons b bytes ih =>
    have hb := b.toNat_lt
    rw [List.length_cons] at h
    have hstep : (start + b.toUInt16).toNat = start.toNat + b.toNat := by
      rw [UInt16.toNat_add, UInt8.toNat_toUInt16]
      exact Nat.mod_eq_of_lt (by omega)
    rw [List.foldl_cons, ih _ (by omega), hstep, List.map_cons, List.sum_cons, Nat.add_assoc]

theorem frameSum_toNat (bytes : List UInt8) : (frameSum bytes).toNat = ((bytes.take 30).map UInt8.toNat).sum := by
  have hlen : (bytes.take 30).length ≤ 30 := by simp
  have hsum := foldl_sum_toNat (bytes.take 30) 0 (by change 0 + _ < _; omega)
  rw [UInt16.toNat_zero, Nat.zero_add] at hsum
  exact hsum

end AirQuality
