import AirQuality.Codec.Base64
import AirQuality.Codec.Text
import AirQuality.Firmware.Main
import AirQuality.Lib.Base64
import AirQuality.Lib.Scan
import Mathlib.Logic.Function.Basic

/-!
# The node firmware on the host

`firmware/sim/main.c`: the core of the firmware as a program, which runs one wake or delivers one downlink and keeps the state of
the node in a text file; and the two calls that `services/simulator/src/index.ts` makes of it. What the simulated sensors answer
and whether the file can be written come from outside. Texts are ASCII.
-/

namespace AirQuality

/-! ## The state file -/

/-- The files of the host, by path; `none` for a path that cannot be opened for reading. -/
abbrev Files := String → Option (List Char)

/-- How writing a file goes: it is written, it cannot be opened, or closing it fails with something left in it. -/
inductive FileWrite where
  | done
  | notOpened
  | notClosed (left : List Char)

/-- What `save_state` prints: one line, "<interval> <pm> <temp> <pending> <last_cmd> <last_result>". -/
def stateText (st : AqNodeState) : List Char :=
  Scan.int (st.cfg.sampleIntervalS.toNat : Int) ++ ' ' :: (Scan.int st.cfg.pmOffsetX10.toInt ++
    ' ' :: (Scan.int st.cfg.tempOffsetX100.toInt ++ ' ' :: (Scan.int (st.reportPending.toNat : Int) ++
    ' ' :: (Scan.int (st.lastCmd.toNat : Int) ++ ' ' :: (Scan.int (st.lastResult.toNat : Int) ++ ['\n'])))))

/-- `load_state`: `none` for a cold boot, without a file or with one that does not parse. -/
def loadState (file : Option (List Char)) : Option AqNodeState :=
  match file.bind (Scan.scanInts 6) with
  | some [interval, pm, temp, pending, cmd, result] =>
    let cfg : AqConfig :=
      { sampleIntervalS := UInt16.ofInt interval, pmOffsetX10 := Int16.ofInt pm, tempOffsetX100 := Int16.ofInt temp }
    some { aqStateInit (some cfg) with -- range-checks, like a load from NVS
      reportPending := UInt8.ofInt pending
      lastCmd := UInt8.ofInt cmd
      lastResult := UInt8.ofInt result }
  | _ => none

/-- `save_state`: the files afterwards, and 0 or -1. -/
def saveState (write : FileWrite) (files : Files) (path : String) (st : AqNodeState) : Files × Int :=
  match write with
  | .done => (Function.update files path (some (stateText st)), 0)
  | .notOpened => (files, -1)
  | .notClosed left => (Function.update files path (some left), -1)

/-! ## Base64 and hexadecimal -/

/-- `B64` -/
def b64 : List Char := "ABCDEFGHIJKLMNOPQRSTUVWXYZabcdefghijklmnopqrstuvwxyz0123456789+/".toList

/-- `B64[i]` -/
def b64Char (i : Nat) : Char := b64.getD i '\x00'

/-- `base64_encode` -/
def base64Encode : List UInt8 → List Char
  | x :: y :: z :: rest =>
    let n := (x.toNat <<< 16) ||| (y.toNat <<< 8) ||| z.toNat
    b64Char ((n >>> 18) &&& 0x3f) :: b64Char ((n >>> 12) &&& 0x3f) :: b64Char ((n >>> 6) &&& 0x3f) ::
      b64Char (n &&& 0x3f) :: base64Encode rest
  | [x, y] =>
    let n := (x.toNat <<< 16) ||| (y.toNat <<< 8)
    [b64Char ((n >>> 18) &&& 0x3f), b64Char ((n >>> 12) &&& 0x3f), b64Char ((n >>> 6) &&& 0x3f), '=']
  | [x] =>
    let n := x.toNat <<< 16
    [b64Char ((n >>> 18) &&& 0x3f), b64Char ((n >>> 12) &&& 0x3f), '=', '=']
  | [] => []

/-- The loop of `parse_hex`: one `%2x` at every second character. -/
def parseHexFrom : List Char → Option (List UInt8)
  | c :: d :: rest =>
    (Scan.scanHex2 (c :: d :: rest)).bind (fun byte => (parseHexFrom rest).map (UInt8.ofInt byte :: ·))
  | _ => some []

/-- `parse_hex`: `none` when it returns -1. -/
def parseHex (hex : List Char) (max : Nat) : Option (List UInt8) :=
  if hex.length % 2 ≠ 0 ∨ max < hex.length / 2 then none else parseHexFrom hex

/-! ## The program -/

/-- How a run of the program ends: its exit code and what it printed. -/
structure SimExit where
  code : Nat
  stdout : List Char
  stderr : List Char
deriving DecidableEq

/-- What the host answers during one run of the program: the simulated sensors, and the file it writes. -/
structure SimHost where
  hal : AqSensorHal
  write : FileWrite

/-- What `main` takes from its command line. The other options only reach the simulated sensors. -/
structure SimArgs where
  boot : Bool
  statePath : Option String
  downlink : Option String
  fport : UInt8
deriving DecidableEq

/-- The second loop of `main`: the options with a value, in pairs. -/
def SimArgs.readPairs (a : SimArgs) : List String → SimArgs
  | name :: value :: rest =>
    SimArgs.readPairs
      (if name = "--state" then { a with statePath := some value }
      else if name = "--downlink" then { a with downlink := some value }
      else if name = "--fport" then { a with fport := UInt8.ofNat (Scan.strtoul value.toList) }
      else a) rest
  | _ => a

/-- The command line of `main`. `--boot`, the only flag without a value, is dropped first so that the pairs line up. -/
def simArgs (argv : List String) : SimArgs :=
  SimArgs.readPairs
    { boot := argv.contains "--boot", statePath := none, downlink := none, fport := aqDownlinkFport }
    (argv.erase "--boot")

/-- The error of a state file that cannot be written. -/
def cannotWrite (path : String) : SimExit := ⟨1, [], "cannot write ".toList ++ path.toList ++ ['\n']⟩

/-- What a wake with a state file prints: "<fport> <base64 payload> <sleep seconds>". -/
def wakeLine (frame : Frame) (sleepS : Nat) : List Char :=
  Scan.nat frame.fport.toNat ++ ' ' :: (base64Encode frame.payload ++ ' ' :: (Scan.nat sleepS ++ ['\n']))

/-- What a delivered downlink prints: "<result> <interval> <pm offset x10> <temp offset x100> <sleep seconds>". -/
def downlinkLine (st : AqNodeState) : List Char :=
  Scan.nat st.lastResult.toNat ++ ' ' :: (Scan.nat st.cfg.sampleIntervalS.toNat ++
    ' ' :: (Scan.int st.cfg.pmOffsetX10.toInt ++ ' ' :: (Scan.int st.cfg.tempOffsetX100.toInt ++
    ' ' :: (Scan.nat (aqStateSleepS st) ++ ['\n']))))

/-- `deliver_downlink` -/
def deliverDownlink (write : FileWrite) (files : Files) (statePath : String) (hex : List Char) (fport : UInt8) :
    Files × SimExit :=
  let st := (loadState (files statePath)).getD (aqStateInit none)
  match parseHex hex 242 with
  | none => (files, ⟨1, [], "malformed --downlink hex\n".toList⟩)
  | some buf =>
    let st := (aqStateOnDownlink st fport (some buf)).2
    let (files, rc) := saveState write files statePath st
    if rc ≠ 0 then (files, cannotWrite statePath)
    else (files, ⟨0, downlinkLine st, []⟩)

/-- The state a wake starts from, given what was loaded, and whether its boot is a cold one. -/
def simBoot (boot : Bool) : Option AqNodeState → Bool × AqNodeState
  | none => (true, aqStateInit none)
  | some st =>
    if boot = true then (true, aqStateInit (some st.cfg)) -- keep the stored config (NVS), lose the rest (RTC RAM)
    else (false, st)

/-- The same choice `main.cpp` makes: a pending report replaces the reading, if there is a state file. The frame, and the state
afterwards. -/
def simUplink (stateful coldBoot : Bool) (hal : AqSensorHal) (st : AqNodeState) : Frame × AqNodeState :=
  if (stateful && aqStateReportDue st) = true then
    ({ fport := aqReportFport, payload := aqConfigReportEncode st }, aqStateReportDone st)
  else
    ({ fport := aqDataFport, payload := aqPayloadEncode (aqConfigCalibrate st.cfg (aqSample hal).2) },
      if coldBoot = true then aqStateRequestReport st else st)

/-- `main` of `sim/main.c`: the files afterwards, and how it ends. -/
def simMain (host : SimHost) (argv : List String) (files : Files) : Files × SimExit :=
  let a := simArgs argv
  match a.downlink, a.statePath with
  | some _, none => (files, ⟨1, [], "--downlink needs --state\n".toList⟩)
  | some hex, some path => deliverDownlink host.write files path hex.toList a.fport
  | none, none =>
    let (coldBoot, st) := simBoot a.boot none
    let (frame, _) := simUplink false coldBoot host.hal st
    (files, ⟨0, base64Encode frame.payload ++ ['\n'], []⟩)
  | none, some path =>
    let (coldBoot, st) := simBoot a.boot (loadState (files path))
    let (frame, st) := simUplink true coldBoot host.hal st
    let (files, rc) := saveState host.write files path st
    if rc ≠ 0 then (files, cannotWrite path)
    else (files, ⟨0, wakeLine frame (aqStateSleepS st), []⟩)

/-! ## The calls of the traffic simulator -/

/-- A value on the command line: any text but the flag without a value. -/
abbrev ArgValue := { s : String // s ≠ "--boot" }

/-- The values of the options of the simulated sensors in one wake. -/
structure SensorArgs where
  baselinePm25 : ArgValue
  hour : ArgValue
  fcnt : ArgValue
  seed : ArgValue

/-- The interface `Wake`: what one wake of the node firmware sends, and how long it then sleeps. -/
structure FirmwareWake where
  fPort : Nat
  payload : List UInt8
  sleepS : Nat
deriving DecidableEq

/-- The command line of `wakeFirmware`. -/
def wakeArgs (stateFile : ArgValue) (boot : Bool) (a : SensorArgs) : List String :=
  ["--state", stateFile.1] ++ (if boot = true then ["--boot"] else []) ++
    ["--baseline-pm25", a.baselinePm25.1, "--hour", a.hour.1, "--fcnt", a.fcnt.1, "--seed", a.seed.1]

/-- `data.toString('hex')` -/
def toHex (data : List UInt8) : List Char := data.flatMap (fun b => Scan.hex2 b.toNat)

/-- The command line of `deliverDownlink` in `index.ts`. -/
def downlinkArgs (stateFile : ArgValue) (fPort : UInt8) (data : List UInt8) : List String :=
  ["--state", stateFile.1, "--downlink", String.ofList (toHex data), "--fport", String.ofList (Scan.nat fPort.toNat)]

/-- `runFirmware`, and the words of the line it returns. -/
def firmwareWords (stdout : List Char) : List (List Char) := split ' ' (trim (String.ofList stdout)).toList

/-- What `wakeFirmware` makes of the line printed. -/
def readWake (stdout : List Char) : Option FirmwareWake :=
  match firmwareWords stdout with
  | fPort :: payload :: sleepS :: _ => do
    let fPort ← numberOfDigits fPort
    let sleepS ← numberOfDigits sleepS
    some { fPort, payload := bufferFromBase64 (String.ofList payload), sleepS }
  | _ => none

/-- The sleep time in what `deliverDownlink` in `index.ts` makes of the line printed. -/
def readSleep (stdout : List Char) : Option Nat :=
  match firmwareWords stdout with
  | _ :: _ :: _ :: _ :: sleepS :: _ => numberOfDigits sleepS
  | _ => none

/-! ## A node run on the host -/

/-- A node on the host: its files, and whether its power was cut since its last wake. -/
structure SimNode where
  files : Files
  cut : Bool

/-- One wake: one run of the program, and another for the downlink that came back, if one did. The files afterwards, and what was
sent, with the final sleep time. -/
def simWake (stateFile : ArgValue) (s : SimNode) (w : WakeInput) (a : SensorArgs) : Files × Option FirmwareWake :=
  let host : SimHost := { hal := w.hal, write := .done }
  let (files, exit) := simMain host (wakeArgs stateFile s.cut a) s.files
  match w.radio.down with
  | none => (files, readWake exit.stdout)
  | some down =>
    let (files, delivered) := simMain host (downlinkArgs stateFile down.fport down.data) files
    (files, do
      let wake ← readWake exit.stdout
      let sleepS ← readSleep delivered.stdout
      some { wake with sleepS })

/-- The node on the host as a machine: the first wake after a power cut is run with `--boot`. -/
def simMachine (stateFile : ArgValue) : Machine SimNode (NodeEvent × SensorArgs) (Option (Option FirmwareWake)) where
  step s
    | (.wake w, a) => ({ files := (simWake stateFile s w a).1, cut := false }, some (simWake stateFile s w a).2)
    | (.powerCut, _) => ({ s with cut := true }, none)

/-! ## The encoding is the standard one -/

theorem b64Char_eq : ∀ i : Fin 64, b64Char i = Base64.standard.symbol i := by decide +kernel

/-- A digit that is written is the symbol of six bits of the word. -/
theorem b64Char_sextet (n k : Nat) : b64Char ((n >>> k) &&& 0x3f) = Base64.standard.symbol (Base64.sextet n k) := by
  have hbits : (n >>> k) &&& 0x3f = n / 2 ^ k % 64 := by
    rw [Nat.shiftRight_eq_div_pow]
    exact Nat.and_two_pow_sub_one_eq_mod _ 6
  rw [← b64Char_eq, hbits]
  rfl

theorem b64Char_last (n : Nat) : b64Char (n &&& 0x3f) = Base64.standard.symbol (Base64.sextet n 0) := b64Char_sextet n 0

/-- The word of three bytes, the first one highest. -/
theorem word_eq (x y z : UInt8) : (x.toNat <<< 16) ||| (y.toNat <<< 8) ||| z.toNat = Base64.ofBytes x y z := by
  have hy := y.toNat_lt
  have hz := z.toNat_lt
  have hxy : x.toNat <<< 16 ||| y.toNat <<< 8 = x.toNat <<< 16 + y.toNat <<< 8 := by
    rw [← Nat.shiftLeft_add_eq_or_of_lt]
    rw [Nat.shiftLeft_eq]
    omega
  have hsum : x.toNat <<< 16 + y.toNat <<< 8 = (x.toNat * 256 + y.toNat) <<< 8 := by
    simp only [Nat.shiftLeft_eq]
    ring
  rw [hxy, hsum, ← Nat.shiftLeft_add_eq_or_of_lt hz, Nat.shiftLeft_eq, Base64.ofBytes]
  ring

theorem base64Encode_eq (bs : List UInt8) : base64Encode bs = Base64.encode Base64.standard bs := by
  induction bs using base64Encode.induct with
  | case1 x y z rest ih =>
    rw [base64Encode, Base64.encode, word_eq, b64Char_sextet, b64Char_sextet, b64Char_sextet, b64Char_last, ih]
  | case2 x y =>
    have hword : x.toNat <<< 16 ||| y.toNat <<< 8 = Base64.ofBytes x y 0 := by simpa using word_eq x y 0
    rw [base64Encode, Base64.encode, hword, b64Char_sextet, b64Char_sextet, b64Char_sextet]
    rfl
  | case3 x =>
    have hword : x.toNat <<< 16 = Base64.ofBytes x 0 0 := by simpa using word_eq x 0 0
    rw [base64Encode, Base64.encode, hword, b64Char_sextet, b64Char_sextet]
    rfl
  | case4 => rfl

/-- A character that is no symbol, and no padding, is not written. -/
theorem notMem_base64Encode {c : Char} (hsymbol : ∀ i, Base64.standard.symbol i ≠ c) (hpad : '=' ≠ c) (bs : List UInt8) :
    c ∉ base64Encode bs := by
  obtain ⟨digits, hdigits⟩ := Base64.encode_shape Base64.standard bs
  rw [base64Encode_eq, hdigits, List.mem_append, List.mem_map, List.mem_replicate]
  rintro (⟨i, -, hi⟩ | ⟨-, hc⟩)
  · exact hsymbol i hi
  · exact hpad hc.symm

/-- The encoding is one word. -/
theorem space_notMem_base64Encode (bs : List UInt8) : ' ' ∉ base64Encode bs :=
  notMem_base64Encode (by decide +kernel) (by decide) bs

/-! ## Base64 is read back -/

/-- A symbol is read as its value, and does not end the text. -/
theorem base64Value_symbol : ∀ i : Fin 64,
    base64Value (Base64.standard.symbol i) = some i.val ∧ Base64.standard.symbol i ≠ '=' := by
  decide +kernel

theorem base64Digits_symbol (i : Fin 64) (cs : List Char) :
    base64Digits (Base64.standard.symbol i :: cs) = i.val :: base64Digits cs := by
  obtain ⟨hvalue, hpad⟩ := base64Value_symbol i
  rw [base64Digits, List.takeWhile_cons_of_pos (by simpa using hpad), List.filterMap_cons_some hvalue]
  rfl

theorem base64Digits_pad (cs : List Char) : base64Digits (Base64.standard.pad :: cs) = [] := rfl

/-- The bytes of four digits are those of their word, and the bytes of fewer those of a word that ends in zeros. -/
theorem base64Bytes_four (a b c d : Fin 64) (digits : List Nat) :
    base64Bytes (a.val :: b.val :: c.val :: d.val :: digits) = Base64.octet (Base64.ofSextets a b c d) 16 ::
      Base64.octet (Base64.ofSextets a b c d) 8 :: Base64.octet (Base64.ofSextets a b c d) 0 :: base64Bytes digits := by
  obtain ⟨h₁, h₂, h₃⟩ := Base64.octet_ofSextets a b c d
  rw [base64Bytes, h₁, h₂, h₃]

theorem base64Bytes_three (a b c : Fin 64) :
    base64Bytes [a.val, b.val, c.val] = [Base64.octet (Base64.ofSextets a b c 0) 16, Base64.octet (Base64.ofSextets a b c 0) 8] := by
  obtain ⟨h₁, h₂, -⟩ := Base64.octet_ofSextets a b c 0
  rw [base64Bytes, h₁, h₂]

theorem base64Bytes_two (a b : Fin 64) : base64Bytes [a.val, b.val] = [Base64.octet (Base64.ofSextets a b 0 0) 16] := by
  obtain ⟨h₁, -, -⟩ := Base64.octet_ofSextets a b 0 0
  rw [base64Bytes, h₁]

/-- What is encoded is read back. -/
theorem base64Bytes_base64Encode (bs : List UInt8) : base64Bytes (base64Digits (base64Encode bs)) = bs := by
  rw [base64Encode_eq]
  induction bs using Base64.encode.induct with
  | case1 x y z rest ih =>
    obtain ⟨hx, hy, hz⟩ := Base64.octet_ofBytes x y z
    rw [Base64.encode, base64Digits_symbol, base64Digits_symbol, base64Digits_symbol, base64Digits_symbol, base64Bytes_four,
      Base64.ofSextets_sextet (Base64.ofBytes_lt x y z), hx, hy, hz, ih]
  | case2 x y =>
    obtain ⟨hx, hy, -⟩ := Base64.octet_ofBytes x y 0
    rw [Base64.encode, base64Digits_symbol, base64Digits_symbol, base64Digits_symbol, base64Digits_pad, base64Bytes_three,
      Base64.ofSextets_three (Base64.ofBytes_lt x y 0) (Base64.ofBytes_two x y), hx, hy]
  | case3 x =>
    obtain ⟨hx, -, -⟩ := Base64.octet_ofBytes x 0 0
    rw [Base64.encode, base64Digits_symbol, base64Digits_symbol, base64Digits_pad, base64Bytes_two,
      Base64.ofSextets_two (Base64.ofBytes_lt x 0 0) (Base64.ofBytes_one x), hx]
  | case4 => rfl

/-- The encoding is in Latin-1. -/
theorem lt_of_mem_base64Encode {bs : List UInt8} {c : Char} (h : c ∈ base64Encode bs) : c.toNat < 256 := by
  have hsymbol : ∀ i, (Base64.standard.symbol i).toNat < 256 := by decide +kernel
  obtain ⟨digits, hdigits⟩ := Base64.encode_shape Base64.standard bs
  rw [base64Encode_eq, hdigits, List.mem_append, List.mem_map, List.mem_replicate] at h
  rcases h with ⟨i, -, rfl⟩ | ⟨-, rfl⟩
  · exact hsymbol i
  · decide

@[simp] theorem bufferFromBase64_base64Encode (bs : List UInt8) : bufferFromBase64 (String.ofList (base64Encode bs)) = bs := by
  rw [bufferFromBase64, String.toList_ofList, flatMap_lowBytes (fun _ => lt_of_mem_base64Encode), base64Bytes_base64Encode]

/-! ## What is printed is read back -/

/-- A line is trimmed to what stands before its end, if that starts and ends with a number. -/
theorem trim_line (a b : Nat) (mid : List Char) :
    trim (String.ofList (Nat.toDigits 10 a ++ (mid ++ (Nat.toDigits 10 b ++ ['\n'])))) =
      String.ofList (Nat.toDigits 10 a ++ (mid ++ Nat.toDigits 10 b)) := by
  have hspace : ∀ n, ∀ c ∈ Nat.toDigits 10 n, ¬isJsSpace c = true := by
    intro n c hc
    have hdigit := Char.isDigit_iff_toNat.1 (Nat.isDigit_of_mem_toDigits (by decide) (by decide) hc)
    change 48 ≤ c.toNat ∧ c.toNat ≤ 57 at hdigit
    simp only [isJsSpace, List.mem_cons, List.not_mem_nil, or_false, Bool.or_eq_true, decide_eq_true_eq]
    omega
  have hline : Nat.toDigits 10 a ++ (mid ++ (Nat.toDigits 10 b ++ ['\n'])) =
      Nat.toDigits 10 a ++ (mid ++ Nat.toDigits 10 b) ++ ['\n'] := by simp
  have hdrop : (Nat.toDigits 10 a ++ (mid ++ (Nat.toDigits 10 b ++ ['\n']))).dropWhile isJsSpace =
      Nat.toDigits 10 a ++ (mid ++ (Nat.toDigits 10 b ++ ['\n'])) := by
    cases ha : Nat.toDigits 10 a with
    | nil => exact absurd ha Nat.toDigits_ne_nil
    | cons c cs => exact List.dropWhile_cons_of_neg (hspace a c (by rw [ha]; exact List.mem_cons_self))
  have hrdrop : (Nat.toDigits 10 a ++ (mid ++ Nat.toDigits 10 b)).rdropWhile isJsSpace =
      Nat.toDigits 10 a ++ (mid ++ Nat.toDigits 10 b) := by
    refine List.rdropWhile_eq_self_iff.2 fun hl => hspace b _ ?_
    rw [List.getLast_append_of_right_ne_nil _ _ (List.append_ne_nil_of_right_ne_nil _ Nat.toDigits_ne_nil),
      List.getLast_append_of_right_ne_nil _ _ Nat.toDigits_ne_nil]
    exact List.getLast_mem _
  rw [trim, String.toList_ofList, hdrop, hline, List.rdropWhile_concat_pos _ _ _ (by decide), hrdrop]

/-- A digit or a sign is no blank. -/
theorem space_notMem_nat (n : Nat) : ' ' ∉ Scan.nat n := by
  intro h
  exact absurd (Scan.isDigit_of_mem_nat h) (by decide)

theorem space_notMem_int (z : Int) : ' ' ∉ Scan.int z := by
  cases z with
  | ofNat n => exact space_notMem_nat n
  | negSucc n => exact List.not_mem_cons_of_ne_of_not_mem (by decide) (space_notMem_nat (n + 1))

/-- The words of a line that starts and ends with a number. -/
theorem firmwareWords_line (a b : Nat) (mid : List Char) :
    firmwareWords (Scan.nat a ++ ' ' :: (mid ++ ' ' :: (Scan.nat b ++ ['\n']))) =
      Scan.nat a :: split ' ' (mid ++ ' ' :: Scan.nat b) := by
  have htrim := trim_line a b (' ' :: (mid ++ [' ']))
  simp only [List.cons_append, List.append_assoc, List.nil_append] at htrim
  rw [firmwareWords, Scan.nat, Scan.nat, htrim, String.toList_ofList]
  exact split_cons (space_notMem_nat a) _

/-- What a wake prints is read back. -/
theorem readWake_wakeLine (frame : Frame) (sleepS : Nat) :
    readWake (wakeLine frame sleepS) = some ⟨frame.fport.toNat, frame.payload, sleepS⟩ := by
  have hwords : firmwareWords (wakeLine frame sleepS) =
      [Scan.nat frame.fport.toNat, base64Encode frame.payload, Scan.nat sleepS] := by
    rw [wakeLine, firmwareWords_line, split_cons (space_notMem_base64Encode frame.payload), split_word (space_notMem_nat sleepS)]
  simp [readWake, hwords, Scan.nat]

/-- The sleep time a delivered downlink prints is read back. -/
theorem readSleep_downlinkLine (st : AqNodeState) : readSleep (downlinkLine st) = some (aqStateSleepS st) := by
  have hline : downlinkLine st = Scan.nat st.lastResult.toNat ++ ' ' ::
      ((Scan.nat st.cfg.sampleIntervalS.toNat ++ ' ' :: (Scan.int st.cfg.pmOffsetX10.toInt ++
        ' ' :: Scan.int st.cfg.tempOffsetX100.toInt)) ++ ' ' :: (Scan.nat (aqStateSleepS st) ++ ['\n'])) := by
    simp [downlinkLine]
  have hwords : firmwareWords (downlinkLine st) =
      [Scan.nat st.lastResult.toNat, Scan.nat st.cfg.sampleIntervalS.toNat, Scan.int st.cfg.pmOffsetX10.toInt,
        Scan.int st.cfg.tempOffsetX100.toInt, Scan.nat (aqStateSleepS st)] := by
    rw [hline, firmwareWords_line, List.append_assoc, List.cons_append, List.append_assoc, List.cons_append,
      split_cons (space_notMem_nat _), split_cons (space_notMem_int _), split_cons (space_notMem_int _),
      split_word (space_notMem_nat _)]
  simp [readSleep, hwords, Scan.nat]

/-! ## The command line is read back -/

theorem uint8_ofInt_toNat (b : UInt8) : UInt8.ofInt (b.toNat : Int) = b := by
  have hb := b.toNat_lt
  have hmod : (b.toNat : Int) % 2 ^ 8 = b.toNat := by omega
  rw [UInt8.ofInt, hmod, Int.toNat_natCast, UInt8.ofNat_toNat]

/-- The bytes of a downlink are read back, as many as the buffer holds. -/
theorem parseHexFrom_toHex (data : List UInt8) : parseHexFrom (toHex data) = some data := by
  induction data with
  | nil => rfl
  | cons b data ih =>
    have hscan := Scan.scanHex2_hex2 b.toNat_lt (toHex data)
    change parseHexFrom (Scan.hex2 b.toNat ++ toHex data) = _
    rw [Scan.hex2, List.cons_append, List.cons_append, List.nil_append] at hscan ⊢
    rw [parseHexFrom, hscan, ih]
    simp [uint8_ofInt_toNat]

theorem parseHex_toHex {data : List UInt8} (h : data.length ≤ 242) : parseHex (toHex data) 242 = some data := by
  have hlength : (toHex data).length = 2 * data.length := by
    simp [toHex, Scan.hex2, List.length_flatMap, Nat.mul_comm]
  rw [parseHex, if_neg (by omega), parseHexFrom_toHex]

/-- Without the flag the pairs are the whole command line. -/
theorem simArgs_of_notMem {argv : List String} (h : "--boot" ∉ argv) :
    simArgs argv = SimArgs.readPairs ⟨false, none, none, aqDownlinkFport⟩ argv := by
  have hcontains : argv.contains "--boot" = false := by simpa using h
  rw [simArgs, hcontains, List.erase_of_not_mem h]

/-- `main` reads the command line of a wake as it is meant. -/
theorem simArgs_wakeArgs (stateFile : ArgValue) (boot : Bool) (a : SensorArgs) :
    simArgs (wakeArgs stateFile boot a) = ⟨boot, some stateFile.1, none, aqDownlinkFport⟩ := by
  cases boot with
  | false =>
    have hflag : "--boot" ∉ wakeArgs stateFile false a := by
      simp [wakeArgs, stateFile.2.symm, a.baselinePm25.2.symm, a.hour.2.symm, a.fcnt.2.symm, a.seed.2.symm]
    rw [simArgs_of_notMem hflag]
    simp [wakeArgs, SimArgs.readPairs]
  | true => simp [simArgs, wakeArgs, SimArgs.readPairs, stateFile.2]

/-- `main` reads the command line of a downlink as it is meant. -/
theorem simArgs_downlinkArgs (stateFile : ArgValue) (fPort : UInt8) (data : List UInt8) :
    simArgs (downlinkArgs stateFile fPort data) =
      ⟨false, some stateFile.1, some (String.ofList (toHex data)), fPort⟩ := by
  -- the flag starts with two signs; the hex digits and the port are none
  have hhex : "--boot" ≠ String.ofList (toHex data) := by
    intro heq
    have hmem : '-' ∈ toHex data := by
      rw [← String.toList_ofList (l := toHex data), ← heq]
      decide
    obtain ⟨b, -, hb⟩ := List.mem_flatMap.1 hmem
    exact Scan.sign_notMem_hex2 b.toNat b.toNat_lt hb
  have hport : "--boot" ≠ String.ofList (Scan.nat fPort.toNat) := by
    intro heq
    have hmem : 'b' ∈ Scan.nat fPort.toNat := by
      rw [← String.toList_ofList (l := Scan.nat fPort.toNat), ← heq]
      decide
    exact absurd (Scan.isDigit_of_mem_nat hmem) (by decide)
  have hflag : "--boot" ∉ downlinkArgs stateFile fPort data := by
    simp [downlinkArgs, stateFile.2.symm, hhex, hport]
  have hfport : UInt8.ofNat (Scan.strtoul (Scan.nat fPort.toNat)) = fPort := by
    have hlt := fPort.toNat_lt
    rw [Scan.strtoul_nat (le_trans hlt.le (by decide)), UInt8.ofNat_toNat]
  rw [simArgs_of_notMem hflag]
  simp [downlinkArgs, SimArgs.readPairs, hfport]

/-- The text of a state whose config is in range is loaded as that state. -/
theorem loadState_stateText {st : AqNodeState} (h : aqConfigValid st.cfg = true) : loadState (some (stateText st)) = some st := by
  have hscan : Scan.scanInts 6 (stateText st) = some [(st.cfg.sampleIntervalS.toNat : Int), st.cfg.pmOffsetX10.toInt,
      st.cfg.tempOffsetX100.toInt, (st.reportPending.toNat : Int), (st.lastCmd.toNat : Int), (st.lastResult.toNat : Int)] := by
    have hblank : Scan.isSpace ' ' = true := rfl
    have hend : Scan.isSpace '\n' = true := rfl
    rw [stateText, Scan.scanInts_int 5 _ hblank, Scan.scanInts_int 4 _ hblank, Scan.scanInts_int 3 _ hblank,
      Scan.scanInts_int 2 _ hblank, Scan.scanInts_int 1 _ hblank, Scan.scanInts_int 0 _ hend]
    rfl
  simp only [loadState, Option.bind_some, hscan]
  rw [Word.ofInt_natCast_toNat, Int16.ofInt_toInt, Int16.ofInt_toInt, uint8_ofInt_toNat, uint8_ofInt_toNat, uint8_ofInt_toNat,
    aqStateInit_cfg_of_valid h]

end AirQuality
