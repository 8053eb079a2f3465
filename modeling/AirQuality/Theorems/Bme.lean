import AirQuality.Firmware.Bme

/-!
# The environment sensor

What the coefficients of the BME280 are after `bme_load_calibration`, and when `esp32_read_env` reports a reading that the sensor
had not finished.
-/

namespace AirQuality

open Exchange

/-! ## The trimming coefficients -/

/-- The value of a `w`-bit two's-complement number with the bits of `n`. -/
def twosComplement (w n : Nat) : ℤ := (BitVec.ofNat w n).toInt

/-- The little-endian number in the registers `a` and `a + 1`. -/
def BmeRegs.word (regs : BmeRegs) (a : UInt8) : Nat := (regs a).toNat + 256 * (regs (a + 1)).toNat

/-- Each coefficient has the value of its register field. -/
structure CalibFields (regs : BmeRegs) (c : BmeCalib) : Prop where
  t1 : c.t1.toNat = regs.word 0x88
  t2 : c.t2.toInt = twosComplement 16 (regs.word 0x8A)
  t3 : c.t3.toInt = twosComplement 16 (regs.word 0x8C)
  p1 : c.p1.toNat = regs.word 0x8E
  p2 : c.p2.toInt = twosComplement 16 (regs.word 0x90)
  p3 : c.p3.toInt = twosComplement 16 (regs.word 0x92)
  p4 : c.p4.toInt = twosComplement 16 (regs.word 0x94)
  p5 : c.p5.toInt = twosComplement 16 (regs.word 0x96)
  p6 : c.p6.toInt = twosComplement 16 (regs.word 0x98)
  p7 : c.p7.toInt = twosComplement 16 (regs.word 0x9A)
  p8 : c.p8.toInt = twosComplement 16 (regs.word 0x9C)
  p9 : c.p9.toInt = twosComplement 16 (regs.word 0x9E)
  h1 : c.h1.toNat = (regs 0xA1).toNat
  h2 : c.h2.toInt = twosComplement 16 (regs.word 0xE1)
  h3 : c.h3.toNat = (regs 0xE3).toNat
  h4 : c.h4.toInt = twosComplement 12 (16 * (regs 0xE4).toNat + (regs 0xE5).toNat % 16)
  h5 : c.h5.toInt = twosComplement 12 (16 * (regs 0xE6).toNat + (regs 0xE5).toNat / 16)
  h6 : c.h6.toInt = twosComplement 8 (regs 0xE7).toNat

/-- A byte with a nibble below it. -/
theorem nibble_toNat (hi lo : UInt8) (hlo : lo.toNat < 16) :
    ((hi.toUInt16 <<< 4) ||| lo.toUInt16).toNat = 16 * hi.toNat + lo.toNat := by
  have hhi := hi.toNat_lt
  have hshift : hi.toNat <<< 4 % 2 ^ 16 = hi.toNat <<< 4 :=
    Nat.mod_eq_of_lt (by rw [Nat.shiftLeft_eq]; omega)
  simp only [UInt16.toNat_or, UInt16.toNat_shiftLeft, UInt8.toNat_toUInt16]
  change hi.toNat <<< 4 % 2 ^ 16 ||| lo.toNat = _
  rw [hshift, ← Nat.shiftLeft_add_eq_or_of_lt hlo, Nat.shiftLeft_eq]
  ring

/-- A word of less than 2^15 is kept by the conversion to a signed one. -/
theorem toInt16_toInt_of_lt {v : UInt16} (h : v.toNat < 2 ^ 15) : v.toInt16.toInt = v.toNat := by
  have hword := Word.ofInt_toInt (z := (v.toNat : ℤ)) (by omega) (by omega)
  rwa [Word.ofInt_natCast_toNat] at hword

theorem word_toInt16 (v : UInt16) : v.toInt16.toInt = twosComplement 16 v.toNat := by
  rw [twosComplement, UInt16.toNat, BitVec.ofNat_toNat, BitVec.setWidth_eq]
  rfl

theorem byte_toInt8 (v : UInt8) : v.toInt8.toInt = twosComplement 8 v.toNat := by
  rw [twosComplement, UInt8.toNat, BitVec.ofNat_toNat, BitVec.setWidth_eq]
  rfl

/-- Twelve bits read as an unsigned number are the two's-complement number exactly if the sign bit is clear. -/
theorem twosComplement_twelve_iff {hi n : Nat} (hhi : hi < 256) (hn : n < 16) :
    ((16 * hi + n : Nat) : ℤ) = twosComplement 12 (16 * hi + n) ↔ hi < 128 := by
  rw [twosComplement, BitVec.toInt_eq_toNat_cond, BitVec.toNat_ofNat]
  omega

/-- A word of a block is the word of the registers at its address. -/
theorem block_word (regs : BmeRegs) {reg a : UInt8} {len i : Nat} (h : i + 1 < len) (ha : reg + UInt8.ofNat i = a) :
    (Word.at (regs.block reg len) i).toNat = regs.word a := by
  have hnext : reg + UInt8.ofNat (i + 1) = a + 1 := by
    rw [UInt8.ofNat_add, ← UInt8.add_assoc, ha]
    rfl
  rw [Word.at, block_getD regs (by omega), block_getD regs h, Word.join_toNat, ha, hnext, BmeRegs.word]

theorem block_signedWord (regs : BmeRegs) {reg a : UInt8} {len i : Nat} (h : i + 1 < len) (ha : reg + UInt8.ofNat i = a) :
    (Word.at (regs.block reg len) i).toInt16.toInt = twosComplement 16 (regs.word a) := by
  rw [word_toInt16, block_word regs h ha]

/-- A twelve-bit coefficient has the value of its field exactly if the sign bit of the field is clear. -/
theorem nibble_field_iff (hi lo : UInt8) (hlo : lo.toNat < 16) :
    ((hi.toUInt16 <<< 4) ||| lo.toUInt16).toInt16.toInt = twosComplement 12 (16 * hi.toNat + lo.toNat) ↔ hi < 0x80 := by
  have hhi := hi.toNat_lt
  have hnat := nibble_toNat hi lo hlo
  rw [toInt16_toInt_of_lt (by omega), hnat, twosComplement_twelve_iff hhi hlo]
  rfl

/-- The coefficients of a chip have the values of their fields exactly if the sign bits of `H4` and of `H5` are clear. -/
theorem load_fields_iff (regs : BmeRegs) (c : BmeCalib) :
    CalibFields regs (c.load (regs.block bmeRegCalib00 26) (regs.block bmeRegCalib26 7)) ↔
      regs 0xE4 < 0x80 ∧ regs 0xE6 < 0x80 := by
  have hlow : (regs 0xE5 &&& 0x0F).toNat = (regs 0xE5).toNat % 16 := Nat.and_two_pow_sub_one_eq_mod _ 4
  have hhigh : (regs 0xE5 >>> 4).toNat = (regs 0xE5).toNat / 16 := Nat.shiftRight_eq_div_pow _ 4
  have hbyte := (regs 0xE5).toNat_lt
  have h4 := nibble_field_iff (regs 0xE4) (regs 0xE5 &&& 0x0F) (by omega)
  have h5 := nibble_field_iff (regs 0xE6) (regs 0xE5 >>> 4) (by omega)
  rw [hlow] at h4
  rw [hhigh] at h5
  constructor
  · intro h
    exact ⟨h4.1 h.h4, h5.1 h.h5⟩
  · rintro ⟨hs4, hs5⟩
    exact
      { t1 := block_word regs (by omega) rfl
        t2 := block_signedWord regs (by omega) rfl
        t3 := block_signedWord regs (by omega) rfl
        p1 := block_word regs (by omega) rfl
        p2 := block_signedWord regs (by omega) rfl
        p3 := block_signedWord regs (by omega) rfl
        p4 := block_signedWord regs (by omega) rfl
        p5 := block_signedWord regs (by omega) rfl
        p6 := block_signedWord regs (by omega) rfl
        p7 := block_signedWord regs (by omega) rfl
        p8 := block_signedWord regs (by omega) rfl
        p9 := block_signedWord regs (by omega) rfl
        h1 := rfl
        h2 := block_signedWord regs (by omega) rfl
        h3 := rfl
        h4 := h4.2 hs4
        h5 := h5.2 hs5
        h6 := byte_toInt8 (regs 0xE7) }

/-- After `bme_load_calibration` the coefficients have the values of their register fields exactly if the sign bits of `H4`, in
register 0xE4, and of `H5`, in 0xE6, are clear: the two are never sign-extended. -/
theorem calibration_fields_iff (bus : BmeBus) (regs : BmeRegs) (t : Trace BmeDriver BmeAccess BmeRegs)
    (h₁ : bus.answer t.log.length = some regs) (h₂ : bus.answer (t.log.length + 1) = some regs) :
    CalibFields regs (exec (bmeLoadCalibration bus) t).2.state.calib ↔ regs 0xE4 < 0x80 ∧ regs 0xE6 < 0x80 := by
  have hload : Succeeds (bmeLoadCalibration bus) t () _ := bmeLoadCalibration_succeeds.2 ⟨regs, regs, h₁, h₂, rfl⟩
  unfold Succeeds at hload
  rw [hload]
  exact load_fields_iff regs t.state.calib

/-- A chip whose registers hold zeros, except for `H4` = -16 in 0xE4. -/
def negativeH4 : BmeRegs := fun a => if a = 0xE4 then 0xFF else 0

/-- A driver that has not read anything. -/
def BmeDriver.powerUp : BmeDriver :=
  { calib :=
      { t1 := 0, t2 := 0, t3 := 0, p1 := 0, p2 := 0, p3 := 0, p4 := 0, p5 := 0, p6 := 0, p7 := 0, p8 := 0, p9 := 0
        h1 := 0, h2 := 0, h3 := 0, h4 := 0, h5 := 0, h6 := 0, tFine := 0 }
    ready := false }

/-- A bus on which every access finds the same registers. -/
def BmeBus.steady (regs : BmeRegs) : BmeBus := { handle := true, addDevice := true, answer := fun _ => some regs }

/-- The calibration registers of a chip: `T3` = -1000, `P6` = -7, `H4` = 313 and `H5` = 50 among others. -/
def calibratedRegs : BmeRegs := fun a =>
  let first : List UInt8 := [0x70, 0x6B, 0x43, 0x67, 0x18, 0xFC, 0x7D, 0x8E, 0x43, 0xD6, 0xD0, 0x0B, 0x27, 0x0B, 0x8C, 0x00, 0xF9, 0xFF,
    0x8C, 0x3C, 0xF8, 0xC6, 0x70, 0x17, 0x00, 0x4B]
  let second : List UInt8 := [0x72, 0x01, 0x00, 0x13, 0x29, 0x03, 0x1E]
  if a < 0xE1 then first.getD (a.toNat - 0x88) 0 else second.getD (a.toNat - 0xE1) 0

theorem calibration_fields_iff_calibrated :
    CalibFields calibratedRegs
      (exec (bmeLoadCalibration (BmeBus.steady calibratedRegs)) { state := BmeDriver.powerUp, log := [] }).2.state.calib :=
  (calibration_fields_iff (BmeBus.steady calibratedRegs) calibratedRegs { state := BmeDriver.powerUp, log := [] } rfl rfl).2
    ⟨by decide, by decide⟩

/-- `H4` = -16 is read as 4080. -/
theorem calibration_fields_false :
    ¬∀ (bus : BmeBus) (regs : BmeRegs) (t : Trace BmeDriver BmeAccess BmeRegs), bus.answer t.log.length = some regs →
      bus.answer (t.log.length + 1) = some regs → CalibFields regs (exec (bmeLoadCalibration bus) t).2.state.calib := by
  intro h
  have hfield := (h (BmeBus.steady negativeH4) negativeH4 { state := BmeDriver.powerUp, log := [] } rfl rfl).h4
  revert hfield
  decide

/-! ## Readings the sensor had not finished -/

/-- The measuring bit of the status register is set. -/
def BmeRegs.Measuring (regs : BmeRegs) : Prop := regs bmeRegStatus &&& 0x08 ≠ 0

instance (regs : BmeRegs) : Decidable regs.Measuring := inferInstanceAs (Decidable (_ ≠ _))

/-- An access that read the status and saw the measuring bit clear. -/
def ShowsIdle (e : BmeAccess × Option BmeRegs) : Prop :=
  e.1 = .read bmeRegStatus 1 ∧ ∃ regs, e.2 = some regs ∧ ¬regs.Measuring

/-- After the forced-mode trigger and before the read of the data registers, a status read showed the measuring bit clear. -/
def SawIdle (log : List (BmeAccess × Option BmeRegs)) : Prop :=
  ∃ before trigger between data after, log = before ++ trigger :: (between ++ data :: after) ∧
    trigger.1 = .write bmeRegCtrlMeas bmeForced ∧ data.1 = .read bmeRegPressMsb 8 ∧ ∃ e ∈ between, ShowsIdle e

/-- No stale reading is reported as good: a call that returns 0 had every access answered and saw the measurement end, and any
other call returns -1, so that `aq_sample` marks the environment group absent. -/
structure NoStaleReading (call : EnvCall) : Prop where
  good : call.result.1 = 0 → (∀ e ∈ call.log, e.2 ≠ none) ∧ SawIdle call.log
  bad : ¬((∀ e ∈ call.log, e.2 ≠ none) ∧ SawIdle call.log) →
    call.result.1 = -1 ∧ ∀ hal : AqSensorHal, (aqSample { hal with readEnv := call.result }).2.present &&& aqPresentEnv = 0

/-- The accesses `bme_init` makes: none once the driver is ready. -/
def BmeDriver.initAccesses (d : BmeDriver) : Nat := if d.ready then 0 else 5

/-- The sensor is there and answers every access, but all fifty status reads find it still measuring. -/
structure StaysBusy (bus : BmeBus) (d : BmeDriver) : Prop where
  init : d.ready = false →
    bus.handle = true ∧ bus.addDevice = true ∧ ∀ regs, bus.answer 0 = some regs → regs bmeRegId = bmeChipId
  answered : ∀ i < d.initAccesses + 52, bus.answer i ≠ none
  busy : ∀ i < 50, ∀ regs, bus.answer (d.initAccesses + 1 + i) = some regs → regs.Measuring

/-- A status read that found the registers `regs`. -/
def statusRead (regs : BmeRegs) : BmeAccess × Option BmeRegs := (.read bmeRegStatus 1, some regs)

theorem statusRead_showsIdle (regs : BmeRegs) : ShowsIdle (statusRead regs) ↔ ¬regs.Measuring := by
  simp [ShowsIdle, statusRead]

/-- The wait ends after a status read that shows the measuring bit clear, or after all `n` showed it set. -/
theorem bmeWait_statuses {bus : BmeBus} {n : Nat} {t t' : Trace BmeDriver BmeAccess BmeRegs} {u : Unit}
    (h : Succeeds (bmeWait bus n) t u t') :
    ∃ rs : List BmeRegs, t' = { t with log := t.log ++ rs.map statusRead } ∧
      ((∃ regs ∈ rs, ¬regs.Measuring) ∨ (rs.length = n ∧ ∀ regs ∈ rs, regs.Measuring)) := by
  induction n generalizing t with
  | zero =>
    obtain ⟨-, rfl⟩ := succeeds_pure.1 h
    exact ⟨[], by simp, .inr ⟨rfl, by simp⟩⟩
  | succ n ih =>
    simp only [bmeWait, succeeds_bind, bmeRead_succeeds] at h
    obtain ⟨_, _, ⟨regs, -, rfl, rfl⟩, h⟩ := h
    rw [block_one] at h
    split_ifs at h with hidle
    · obtain ⟨-, rfl⟩ := succeeds_pure.1 h
      exact ⟨[regs], rfl, .inl ⟨regs, by simp, not_not.2 hidle⟩⟩
    · obtain ⟨rs, rfl, hrs⟩ := ih h
      refine ⟨regs :: rs, by simp [statusRead], ?_⟩
      rcases hrs with ⟨regs', hmem, hregs'⟩ | ⟨hlen, hall⟩
      · exact .inl ⟨regs', List.mem_cons_of_mem _ hmem, hregs'⟩
      · exact .inr ⟨by rw [List.length_cons, hlen], List.forall_mem_cons.2 ⟨hidle, hall⟩⟩

/-- A sensor that stays busy for all `n` status reads does not stop the wait from getting through. -/
theorem bmeWait_busy {bus : BmeBus} {n : Nat} {t : Trace BmeDriver BmeAccess BmeRegs}
    (h : ∀ i < n, ∃ regs, bus.answer (t.log.length + i) = some regs ∧ regs.Measuring) :
    ∃ rs : List BmeRegs, Succeeds (bmeWait bus n) t () { t with log := t.log ++ rs.map statusRead } ∧ rs.length = n ∧
      ∀ regs ∈ rs, regs.Measuring := by
  induction n generalizing t with
  | zero => exact ⟨[], by simp [bmeWait], rfl, by simp⟩
  | succ n ih =>
    obtain ⟨regs, hans, hbusy⟩ := h 0 (by omega)
    have hnext : ∀ i < n, ∃ r, bus.answer ((t.log ++ [statusRead regs]).length + i) = some r ∧ r.Measuring := by
      intro i hi
      have hlater := h (i + 1) (by omega)
      rw [List.length_append, List.length_singleton, Nat.add_assoc, Nat.add_comm 1 i]
      exact hlater
    obtain ⟨rs, hrs, hlen, hall⟩ := ih (t := { t with log := t.log ++ [statusRead regs] }) hnext
    refine ⟨regs :: rs, ?_, by rw [List.length_cons, hlen], List.forall_mem_cons.2 ⟨hbusy, hall⟩⟩
    simp only [bmeWait, succeeds_bind, bmeRead_succeeds]
    refine ⟨_, _, ⟨regs, hans, rfl, rfl⟩, ?_⟩
    rw [block_one, if_neg hbusy]
    simpa [statusRead] using hrs

/-- What `bme_init` needs to get through. -/
theorem bmeInit_needs {bus : BmeBus} {d : BmeDriver} {t' : Trace BmeDriver BmeAccess BmeRegs} {u : Unit}
    (h : Succeeds (bmeInit bus) { state := d, log := [] } u t') :
    t'.log.length = d.initAccesses ∧ (d.ready = false →
      bus.handle = true ∧ bus.addDevice = true ∧ ∀ regs, bus.answer 0 = some regs → regs bmeRegId = bmeChipId) := by
  cases hready : d.ready with
  | true =>
    rw [bmeInit_succeeds_ready hready] at h
    subst h
    exact ⟨by simp [BmeDriver.initAccesses, hready], by simp⟩
  | false =>
    rw [bmeInit_succeeds_cold hready] at h
    obtain ⟨hhandle, hdevice, r₀, r₁, r₂, r₃, r₄, ⟨h₀, hid⟩, -, -, -, -, rfl⟩ := h
    refine ⟨by simp [BmeDriver.initAccesses, hready], fun _ => ⟨hhandle, hdevice, fun regs hregs => ?_⟩⟩
    rw [← Option.some.inj (h₀.symm.trans hregs)]
    exact hid

/-- A sensor that is there and answers is initialised, and its status is not read for that. -/
theorem bmeInit_answered {bus : BmeBus} {d : BmeDriver}
    (hinit : d.ready = false →
      bus.handle = true ∧ bus.addDevice = true ∧ ∀ regs, bus.answer 0 = some regs → regs bmeRegId = bmeChipId)
    (hans : ∀ i < d.initAccesses, bus.answer i ≠ none) :
    ∃ t', Succeeds (bmeInit bus) { state := d, log := [] } () t' ∧ t'.log.length = d.initAccesses ∧
      ∀ e ∈ t'.log, ¬ShowsIdle e := by
  cases hready : d.ready with
  | true => exact ⟨_, (bmeInit_succeeds_ready hready).2 rfl, by simp [BmeDriver.initAccesses, hready], by simp⟩
  | false =>
    obtain ⟨hhandle, hdevice, hid⟩ := hinit hready
    have hfive : d.initAccesses = 5 := by simp [BmeDriver.initAccesses, hready]
    rw [hfive] at hans
    obtain ⟨r₀, h₀⟩ := Option.ne_none_iff_exists'.1 (hans 0 (by omega))
    obtain ⟨r₁, h₁⟩ := Option.ne_none_iff_exists'.1 (hans 1 (by omega))
    obtain ⟨r₂, h₂⟩ := Option.ne_none_iff_exists'.1 (hans 2 (by omega))
    obtain ⟨r₃, h₃⟩ := Option.ne_none_iff_exists'.1 (hans 3 (by omega))
    obtain ⟨r₄, h₄⟩ := Option.ne_none_iff_exists'.1 (hans 4 (by omega))
    refine ⟨_, (bmeInit_succeeds_cold hready).2
      ⟨hhandle, hdevice, r₀, r₁, r₂, r₃, r₄, ⟨h₀, hid r₀ h₀⟩, h₁, h₂, h₃, h₄, rfl⟩, by simp [hfive], ?_⟩
    simp [ShowsIdle, bmeRegId, bmeRegCalib00, bmeRegCalib26, bmeRegStatus]

/-- A measurement that gets through: the log is the initialisation, the trigger, the status reads and the data, and either a status
read showed the measuring bit clear, or all fifty showed it set. -/
theorem bmeMeasure_shape {bus : BmeBus} {d : BmeDriver} {data : List UInt8} {t' : Trace BmeDriver BmeAccess BmeRegs}
    (h : Succeeds (bmeMeasure bus) { state := d, log := [] } data t') :
    ∃ before trigger final, ∃ rs : List BmeRegs, t'.log = before ++ trigger :: (rs.map statusRead ++ [final]) ∧
      before.length = d.initAccesses ∧ trigger.1 = .write bmeRegCtrlMeas bmeForced ∧ final.1 = .read bmeRegPressMsb 8 ∧
      (d.ready = false →
        bus.handle = true ∧ bus.addDevice = true ∧ ∀ regs, bus.answer 0 = some regs → regs bmeRegId = bmeChipId) ∧
      ((∃ regs ∈ rs, ¬regs.Measuring) ∨ (rs.length = 50 ∧ ∀ regs ∈ rs, regs.Measuring)) := by
  simp only [bmeMeasure, succeeds_bind, bmeWriteReg_succeeds, bmeRead_succeeds] at h
  obtain ⟨_, t₀, hinit, _, _, ⟨r, -, rfl⟩, _, _, hwait, r', -, -, rfl⟩ := h
  obtain ⟨rs, rfl, hrs⟩ := bmeWait_statuses hwait
  obtain ⟨hlen, hneeds⟩ := bmeInit_needs hinit
  exact ⟨t₀.log, (.write bmeRegCtrlMeas bmeForced, some r), (.read bmeRegPressMsb 8, some r'), rs, by simp, hlen, rfl, rfl,
    hneeds, hrs⟩

/-- A sensor that stays busy is read all the same. -/
theorem bmeMeasure_staysBusy {bus : BmeBus} {d : BmeDriver} (h : StaysBusy bus d) :
    ∃ data t', Succeeds (bmeMeasure bus) { state := d, log := [] } data t' ∧ ∀ e ∈ t'.log, ¬ShowsIdle e := by
  obtain ⟨t₀, hinit, hlen, hquiet⟩ := bmeInit_answered h.init fun i hi => h.answered i (by omega)
  have hans (i : Nat) (hi : i < 52) : ∃ regs, bus.answer (t₀.log.length + i) = some regs :=
    Option.ne_none_iff_exists'.1 (h.answered _ (by omega))
  obtain ⟨r, hr⟩ := hans 0 (by omega)
  obtain ⟨r', hr'⟩ := hans 51 (by omega)
  have hbusy : ∀ i < 50, ∃ regs,
      bus.answer ((t₀.log ++ [(BmeAccess.write bmeRegCtrlMeas bmeForced, some r)]).length + i) = some regs ∧
        regs.Measuring := by
    intro i hi
    obtain ⟨regs, hregs⟩ := hans (1 + i) (by omega)
    rw [← Nat.add_assoc] at hregs
    refine ⟨regs, by simpa using hregs, h.busy i hi regs ?_⟩
    rw [← hlen]
    exact hregs
  obtain ⟨rs, hwait, hrs, hall⟩ :=
    bmeWait_busy (t := { t₀ with log := t₀.log ++ [(.write bmeRegCtrlMeas bmeForced, some r)] }) hbusy
  have hrun : Succeeds (bmeMeasure bus) { state := d, log := [] } (r'.block bmeRegPressMsb 8)
      { t₀ with
        log := t₀.log ++ [(.write bmeRegCtrlMeas bmeForced, some r)] ++ rs.map statusRead ++
          [(.read bmeRegPressMsb 8, some r')] } := by
    simp only [bmeMeasure, succeeds_bind, bmeWriteReg_succeeds, bmeRead_succeeds]
    exact ⟨(), t₀, hinit, (), _, ⟨r, hr, rfl⟩, (), _, hwait, r', by simpa [hrs, Nat.add_assoc] using hr', rfl, rfl⟩
  refine ⟨_, _, hrun, ?_⟩
  intro e he
  simp only [List.append_assoc, List.mem_append, List.mem_map, List.mem_singleton] at he
  rcases he with he | rfl | ⟨regs, hregs, rfl⟩ | rfl
  · exact hquiet e he
  · simp [ShowsIdle]
  · exact (statusRead_showsIdle regs).not.2 (not_not.2 (hall regs hregs))
  · simp [ShowsIdle, bmeRegPressMsb, bmeRegStatus]

/-- A reading that is taken with a failed environment driver has its group absent. -/
theorem aqSample_env_absent (hal : AqSensorHal) {env : Int × ℚ × ℚ × ℚ} (h : env.1 ≠ 0) :
    (aqSample { hal with readEnv := env }).2.present &&& aqPresentEnv = 0 := by
  unfold aqSample
  by_cases hpm : hal.readPm.1 = 0
  · simp [hpm, h, aqPresentPm, aqPresentEnv]
    rfl
  · simp [hpm, h, aqPresentEnv]

theorem esp32ReadEnv_cases (bus : BmeBus) (d : BmeDriver) (out : ℚ × ℚ × ℚ) :
    ((esp32ReadEnv bus d out).result = (-1, out) ∧ ∀ data t', ¬Succeeds (bmeMeasure bus) { state := d, log := [] } data t') ∨
    ((esp32ReadEnv bus d out).result.1 = 0 ∧
      ∃ data t', Succeeds (bmeMeasure bus) { state := d, log := [] } data t' ∧ (esp32ReadEnv bus d out).log = t'.log) := by
  unfold esp32ReadEnv Succeeds
  rcases exec (bmeMeasure bus) { state := d, log := [] } with ⟨_ | data, t⟩
  · exact .inl ⟨rfl, by simp⟩
  · exact .inr ⟨rfl, data, t, rfl, rfl⟩

/-- A log without a status read that shows the measuring bit clear. -/
theorem not_sawIdle {log : List (BmeAccess × Option BmeRegs)} (h : ∀ e ∈ log, ¬ShowsIdle e) : ¬SawIdle log := by
  rintro ⟨before, trigger, between, data, after, rfl, -, -, e, he, hidle⟩
  exact h e (by simp [he]) hidle

/-- A call that returns 0 saw the measurement end, or the sensor stayed busy throughout. -/
theorem sawIdle_or_staysBusy {bus : BmeBus} {d : BmeDriver} {data : List UInt8} {t' : Trace BmeDriver BmeAccess BmeRegs}
    (h : Succeeds (bmeMeasure bus) { state := d, log := [] } data t') : SawIdle t'.log ∨ StaysBusy bus d := by
  obtain ⟨before, trigger, final, rs, hlog, hlen, htrigger, hfinal, hinit, hrs⟩ := bmeMeasure_shape h
  rcases hrs with ⟨regs, hmem, hidle⟩ | ⟨hfifty, hall⟩
  · exact .inl ⟨before, trigger, rs.map statusRead, final, [], hlog, htrigger, hfinal, statusRead regs,
      List.mem_map_of_mem hmem, (statusRead_showsIdle regs).2 hidle⟩
  · have hlength : t'.log.length = d.initAccesses + 52 := by
      simp [hlog, hlen, hfifty]
    refine .inr ⟨hinit, fun i hi => ?_, fun i hi regs hregs => ?_⟩
    · obtain ⟨e, hentry⟩ : ∃ e, t'.log[i]? = some e := ⟨_, List.getElem?_eq_getElem (by omega)⟩
      obtain ⟨hans, hsome⟩ := (bmeMeasure_guarded bus).answered h hentry
      exact hans ▸ hsome
    · have hentry : t'.log[d.initAccesses + 1 + i]? = some (statusRead (rs.get ⟨i, by omega⟩)) := by
        rw [hlog, List.getElem?_append_right (by omega), hlen]
        have hindex : d.initAccesses + 1 + i - d.initAccesses = i + 1 := by omega
        rw [hindex, List.getElem?_cons_succ, List.getElem?_append_left (by rw [List.length_map]; omega)]
        simp [hfifty, hi]
      have hans := ((bmeMeasure_guarded bus).answered h hentry).1
      rw [hregs] at hans
      rw [← Option.some.inj hans]
      exact hall _ (List.get_mem _ _)

/-- A sensor that stays busy is read after fifty status reads, and its old values come back with 0. -/
theorem staysBusy_stale {bus : BmeBus} {d : BmeDriver} (hbusy : StaysBusy bus d) (out : ℚ × ℚ × ℚ) :
    ¬NoStaleReading (esp32ReadEnv bus d out) := by
  intro h
  obtain ⟨data, t', hrun, hquiet⟩ := bmeMeasure_staysBusy hbusy
  rcases esp32ReadEnv_cases bus d out with ⟨-, hnone⟩ | ⟨hrc, data', t'', hrun', hlog⟩
  · exact hnone data t' hrun
  · have ht : t'' = t' := congrArg Prod.snd (hrun'.symm.trans hrun)
    have hidle := (h.good hrc).2
    rw [hlog, ht] at hidle
    exact not_sawIdle hquiet hidle

/-- No stale environment reading is reported as good exactly if it is not the case that the sensor is there, answers every access
and stays busy through all fifty status reads: the wait then falls through to the data registers. -/
theorem no_stale_reading_iff (bus : BmeBus) (d : BmeDriver) (out : ℚ × ℚ × ℚ) :
    NoStaleReading (esp32ReadEnv bus d out) ↔ ¬StaysBusy bus d := by
  constructor
  · intro h hbusy
    exact staysBusy_stale hbusy out h
  · intro hbusy
    rcases esp32ReadEnv_cases bus d out with ⟨hres, -⟩ | ⟨hrc, data, t', hrun, hlog⟩
    · have hrc : (esp32ReadEnv bus d out).result.1 = -1 := congrArg Prod.fst hres
      have hne : (esp32ReadEnv bus d out).result.1 ≠ 0 := by omega
      exact { good := fun hzero => absurd hzero hne, bad := fun _ => ⟨hrc, fun hal => aqSample_env_absent hal hne⟩ }
    · have hanswered : ∀ e ∈ (esp32ReadEnv bus d out).log, e.2 ≠ none := by
        intro e he
        rw [hlog] at he
        obtain ⟨i, hi⟩ := List.mem_iff_getElem?.1 he
        exact ((bmeMeasure_guarded bus).answered hrun hi).2
      have hidle : SawIdle (esp32ReadEnv bus d out).log := by
        rw [hlog]
        exact (sawIdle_or_staysBusy hrun).resolve_right hbusy
      exact { good := fun _ => ⟨hanswered, hidle⟩, bad := fun hbad => absurd ⟨hanswered, hidle⟩ hbad }

/-- A sensor whose status never shows the measuring bit clear. -/
def stuckRegs : BmeRegs := fun a => if a = bmeRegStatus then 0x08 else 0

/-- A driver that has been initialised. -/
def BmeDriver.initialised : BmeDriver := { BmeDriver.powerUp with ready := true }

/-- A busy sensor behind a driver that has been initialised. -/
theorem stuckRegs_staysBusy : StaysBusy (BmeBus.steady stuckRegs) BmeDriver.initialised where
  init := by simp [BmeDriver.initialised]
  answered := by simp [BmeBus.steady]
  busy := by
    rintro i - regs hregs
    rw [← Option.some.inj hregs]
    decide

theorem no_stale_reading_false :
    ¬∀ (bus : BmeBus) (d : BmeDriver) (out : ℚ × ℚ × ℚ), NoStaleReading (esp32ReadEnv bus d out) :=
  fun h => staysBusy_stale stuckRegs_staysBusy (0, 0, 0) (h _ _ _)

end AirQuality
