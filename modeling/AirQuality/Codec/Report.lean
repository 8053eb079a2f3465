import AirQuality.Codec.Downlink

/-!
# The config report on the server

`packages/telemetry-codec/src/index.ts`, lines 188 to 254: the decoder and the encoder of the nine bytes with which a node
tells the server which settings are active.
-/

namespace AirQuality

def configReportFport : ℤ := 11
def configReportLength : Nat := 9
def configReportVersion : UInt8 := 1

/-- `ConfigResult`: the result of the last config downlink, as the node reports it. -/
inductive ConfigResult where
  | none
  | applied
  | outOfRange
  | malformed
deriving DecidableEq

/-- The byte of a result. -/
def ConfigResult.toByte : ConfigResult → UInt8
  | .none => 0
  | .applied => 1
  | .outOfRange => 2
  | .malformed => 3

/-- The result of a byte, if it is not above `ConfigResult.Malformed`. -/
def ConfigResult.ofByte? (b : UInt8) : Option ConfigResult :=
  if b = 0 then some .none
  else if b = 1 then some .applied
  else if b = 2 then some .outOfRange
  else if b = 3 then some .malformed
  else Option.none

structure ConfigReport where
  version : UInt8
  lastResult : ConfigResult
  /-- Opcode of the last config downlink, 0 = none since boot. -/
  lastCommand : UInt8
  intervalS : ℤ
  pmOffsetX10 : ℤ
  tempOffsetX100 : ℤ
deriving DecidableEq

def decodeConfigReport (bytes : List UInt8) : Except CodecError ConfigReport :=
  if bytes.length < configReportLength then .error (.reportTooShort bytes.length)
  else
    let version := bytes.getD 0 0
    if version ≠ configReportVersion then .error (.unsupportedReportVersion version.toNat)
    else
      match ConfigResult.ofByte? (bytes.getD 1 0) with
      | Option.none => .error (.unknownConfigResult (bytes.getD 1 0).toNat)
      | some lastResult => .ok {
          version
          lastResult
          lastCommand := bytes.getD 2 0
          intervalS := getUint16 bytes 3
          pmOffsetX10 := getInt16 bytes 5
          tempOffsetX100 := getInt16 bytes 7 }

/-- `encodeConfigReport`: the version of the argument is not read. -/
def encodeConfigReport (r : ConfigReport) : List UInt8 :=
  [configReportVersion, r.lastResult.toByte, r.lastCommand] ++
  Word.bytes (UInt16.ofInt r.intervalS) ++
  Word.bytes (UInt16.ofInt r.pmOffsetX10) ++
  Word.bytes (UInt16.ofInt r.tempOffsetX100)

/-! ## Round trips -/

theorem toByte_of_ofByte? {b : UInt8} {r : ConfigResult} (h : ConfigResult.ofByte? b = some r) : r.toByte = b := by
  unfold ConfigResult.ofByte? at h
  split_ifs at h with h₀ h₁ h₂ h₃ <;> obtain rfl := Option.some.inj h
  · exact h₀.symm
  · exact h₁.symm
  · exact h₂.symm
  · exact h₃.symm

/-- The bytes of a result are those up to 3. -/
theorem ofByte?_isSome_iff (b : UInt8) : (∃ r, ConfigResult.ofByte? b = some r) ↔ b ≤ 3 := by
  constructor
  · rintro ⟨r, hr⟩
    rw [← toByte_of_ofByte? hr]
    cases r <;> decide
  · intro h
    have hlt : b.toNat ≤ 3 := h
    unfold ConfigResult.ofByte?
    split_ifs with h₀ h₁ h₂ h₃
    · exact ⟨_, rfl⟩
    · exact ⟨_, rfl⟩
    · exact ⟨_, rfl⟩
    · exact ⟨_, rfl⟩
    · simp only [← UInt8.toNat_inj, UInt8.reduceToNat] at h₀ h₁ h₂ h₃
      omega

/-- The report that bytes carry, with the result their second byte stands for. -/
def reportOfBytes (bytes : List UInt8) (lastResult : ConfigResult) : ConfigReport where
  version := configReportVersion
  lastResult := lastResult
  lastCommand := bytes.getD 2 0
  intervalS := getUint16 bytes 3
  pmOffsetX10 := getInt16 bytes 5
  tempOffsetX100 := getInt16 bytes 7

/-- Decoding fails on fewer than nine bytes. -/
theorem decodeConfigReport_short {bytes : List UInt8} (h : bytes.length < configReportLength) :
    decodeConfigReport bytes = .error (.reportTooShort bytes.length) := if_pos h

/-- What nine bytes or more decode to, if they do. -/
theorem decodeConfigReport_ok_iff {bytes : List UInt8} (hlength : configReportLength ≤ bytes.length) (r : ConfigReport) :
    decodeConfigReport bytes = .ok r ↔
      bytes.getD 0 0 = configReportVersion ∧
        ∃ lastResult, ConfigResult.ofByte? (bytes.getD 1 0) = some lastResult ∧ r = reportOfBytes bytes lastResult := by
  unfold decodeConfigReport
  rw [if_neg (Nat.not_lt.2 hlength)]
  dsimp only
  by_cases hversion : bytes.getD 0 0 = configReportVersion
  · rw [if_neg (not_not.2 hversion), hversion]
    cases hresult : ConfigResult.ofByte? (bytes.getD 1 0) with
    | none => simp
    | some result =>
      constructor
      · intro h
        exact ⟨rfl, result, rfl, (Except.ok.inj h).symm⟩
      · intro h
        obtain ⟨-, result', hresult', rfl⟩ := h
        obtain rfl := Option.some.inj hresult'
        rfl
  · rw [if_pos hversion]
    exact iff_of_false nofun (fun h => hversion h.1)

/-- Nine bytes or more decode exactly if the version is 1 and the result is one of the four. -/
theorem decodeConfigReport_isOk_iff {bytes : List UInt8} (hlength : configReportLength ≤ bytes.length) :
    (∃ r, decodeConfigReport bytes = .ok r) ↔ bytes.getD 0 0 = 1 ∧ bytes.getD 1 0 ≤ 3 := by
  rw [← ofByte?_isSome_iff]
  simp only [decodeConfigReport_ok_iff hlength]
  constructor
  · intro h
    obtain ⟨-, hversion, result, hresult, -⟩ := h
    exact ⟨hversion, result, hresult⟩
  · intro h
    obtain ⟨hversion, result, hresult⟩ := h
    exact ⟨_, hversion, result, hresult, rfl⟩

theorem decodeConfigReport_length {bytes : List UInt8} {r : ConfigReport} (h : decodeConfigReport bytes = .ok r) :
    configReportLength ≤ bytes.length := by
  by_contra hlt
  rw [decodeConfigReport_short (Nat.lt_of_not_le hlt)] at h
  cases h

/-- A decoded report encodes to the bytes it was decoded from. -/
theorem encodeConfigReport_of_decode {bytes : List UInt8} {r : ConfigReport} (h : decodeConfigReport bytes = .ok r) :
    encodeConfigReport r = bytes.take 9 := by
  have hlength := decodeConfigReport_length h
  obtain ⟨hversion, result, hresult, rfl⟩ := (decodeConfigReport_ok_iff hlength r).1 h
  have hbyte := toByte_of_ofByte? hresult
  rw [encodeConfigReport, reportOfBytes, hbyte, ← hversion]
  match bytes, hlength with
  | b₀ :: b₁ :: b₂ :: b₃ :: b₄ :: b₅ :: b₆ :: b₇ :: b₈ :: bytes, _ => simp [getUint16, getInt16, Word.at]

end AirQuality
