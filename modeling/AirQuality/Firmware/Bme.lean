import AirQuality.Firmware.Payload
import AirQuality.Lib.Exchange

/-!
# The BME280 driver

`firmware/adapters/esp32/sensors_esp32.c`, the part for the environment sensor: its trimming coefficients, its initialisation, one
forced-mode measurement, and the compensation of what it measured. The I²C bus is a parameter: for each register access, in order,
the registers it finds or that it failed.
-/

namespace AirQuality

open Exchange

/-- The register addresses `BME280_REG_*` the driver uses. -/
def bmeRegId : UInt8 := 0xD0
def bmeRegCtrlHum : UInt8 := 0xF2
def bmeRegStatus : UInt8 := 0xF3
def bmeRegCtrlMeas : UInt8 := 0xF4
def bmeRegConfig : UInt8 := 0xF5
def bmeRegPressMsb : UInt8 := 0xF7
def bmeRegCalib00 : UInt8 := 0x88
def bmeRegCalib26 : UInt8 := 0xE1

/-- `BME280_CHIP_ID` -/
def bmeChipId : UInt8 := 0x60

/-- `bme280_calib_t` -/
structure BmeCalib where
  t1 : UInt16
  t2 : Int16
  t3 : Int16
  p1 : UInt16
  p2 : Int16
  p3 : Int16
  p4 : Int16
  p5 : Int16
  p6 : Int16
  p7 : Int16
  p8 : Int16
  p9 : Int16
  h1 : UInt8
  h2 : Int16
  h3 : UInt8
  h4 : Int16
  h5 : Int16
  h6 : Int8
  tFine : Int32
deriving DecidableEq

/-- The static variables of the driver: `s_calib` and `s_bme_ready`. -/
structure BmeDriver where
  calib : BmeCalib
  ready : Bool
deriving DecidableEq

/-- The registers of the sensor. -/
abbrev BmeRegs := UInt8 → UInt8

/-- The `len` registers from the address `reg` on. -/
def BmeRegs.block (regs : BmeRegs) (reg : UInt8) (len : Nat) : List UInt8 :=
  (List.range len).map fun i => regs (reg + UInt8.ofNat i)

/-- What goes over the bus: a value to a register, or the read of some registers from an address on. -/
inductive BmeAccess where
  | write (reg val : UInt8)
  | read (reg : UInt8) (len : Nat)
deriving DecidableEq

/-- What the world answers during one call: whether `esp32_i2c_bus` has a bus, whether `i2c_master_bus_add_device` works, and for
each register access the registers at that moment, or `none` if it fails. -/
structure BmeBus where
  handle : Bool
  addDevice : Bool
  answer : Nat → Option BmeRegs

/-- A part of the driver: it gives up, with an error code, at the first access that fails. -/
abbrev BmeRoutine := Routine BmeDriver BmeAccess BmeRegs

/-- `bme_write_reg` -/
def bmeWriteReg (bus : BmeBus) (reg val : UInt8) : BmeRoutine Unit := do
  let _ ← ask bus.answer (.write reg val)

/-- `bme_read` -/
def bmeRead (bus : BmeBus) (reg : UInt8) (len : Nat) : BmeRoutine (List UInt8) := do
  let regs ← ask bus.answer (.read reg len)
  pure (regs.block reg len)

/-- The assignments of `bme_load_calibration`, from the two blocks it reads. -/
def BmeCalib.load (c1 c2 : List UInt8) (calib : BmeCalib) : BmeCalib :=
  { calib with
    t1 := Word.at c1 0
    t2 := (Word.at c1 2).toInt16
    t3 := (Word.at c1 4).toInt16
    p1 := Word.at c1 6
    p2 := (Word.at c1 8).toInt16
    p3 := (Word.at c1 10).toInt16
    p4 := (Word.at c1 12).toInt16
    p5 := (Word.at c1 14).toInt16
    p6 := (Word.at c1 16).toInt16
    p7 := (Word.at c1 18).toInt16
    p8 := (Word.at c1 20).toInt16
    p9 := (Word.at c1 22).toInt16
    -- `c1[24]` is reserved
    h1 := c1.getD 25 0
    h2 := (Word.at c2 0).toInt16
    h3 := c2.getD 2 0
    h4 := (((c2.getD 3 0).toUInt16 <<< 4) ||| (c2.getD 4 0 &&& 0x0F).toUInt16).toInt16
    h5 := (((c2.getD 5 0).toUInt16 <<< 4) ||| (c2.getD 4 0 >>> 4).toUInt16).toInt16
    h6 := (c2.getD 6 0).toInt8 }

/-- `bme_load_calibration` -/
def bmeLoadCalibration (bus : BmeBus) : BmeRoutine Unit := do
  let c1 ← bmeRead bus bmeRegCalib00 26
  let c2 ← bmeRead bus bmeRegCalib26 7
  change fun d => { d with calib := d.calib.load c1 c2 }

/-- `bme_init` -/
def bmeInit (bus : BmeBus) : BmeRoutine Unit := do
  let d ← current
  if d.ready then pure ()
  else if bus.handle && bus.addDevice then do
    let id ← bmeRead bus bmeRegId 1
    if id.getD 0 0 ≠ bmeChipId then failure
    else do
      bmeLoadCalibration bus
      -- must be written before ctrl_meas to take effect
      bmeWriteReg bus bmeRegCtrlHum 0x01
      bmeWriteReg bus bmeRegConfig 0x00
      change fun d => { d with ready := true }
  else failure

/-- `x << n` on the integer types of C. -/
def shl {α : Type} [ShiftLeft α] (x n : α) : α := x <<< n

/-- `x >> n` on the integer types of C: a signed one keeps its sign. -/
def sar {α : Type} [ShiftRight α] (x n : α) : α := x >>> n

/-- `bme_compensate_temp`, with the `t_fine` it leaves. -/
def bmeCompensateTemp (c : BmeCalib) (adcT : Int32) : ℚ × Int32 :=
  let t1 := c.t1.toUInt32.toInt32
  let var1 := sar ((sar adcT 3 - shl t1 1) * c.t2.toInt32) 11
  let var2 := sar (sar ((sar adcT 4 - t1) * (sar adcT 4 - t1)) 12 * c.t3.toInt32) 14
  let tFine := var1 + var2
  let T := sar (tFine * 5 + 128) 8
  (T.toInt / 100, tFine)

/-- `bme_compensate_pressure` -/
def bmeCompensatePressure (c : BmeCalib) (adcP : Int32) : ℚ :=
  let var1 := c.tFine.toInt64 - 128000
  let var2 := var1 * var1 * c.p6.toInt64
  let var2 := var2 + shl (var1 * c.p5.toInt64) 17
  let var2 := var2 + shl c.p4.toInt64 35
  let var1 := sar (var1 * var1 * c.p3.toInt64) 8 + shl (var1 * c.p2.toInt64) 12
  let var1 := sar ((shl 1 47 + var1) * c.p1.toUInt64.toInt64) 33
  if var1 = 0 then 0
  else
    let p := (1048576 - adcP).toInt64
    let p := ((shl p 31 - var2) * 3125) / var1
    let var1 := sar (c.p9.toInt64 * sar p 13 * sar p 13) 25
    let var2 := sar (c.p8.toInt64 * p) 19
    let p := sar (p + var1 + var2) 8 + shl c.p7.toInt64 4
    p.toInt / 256 / 100

/-- `bme_compensate_humidity` -/
def bmeCompensateHumidity (c : BmeCalib) (adcH : Int32) : ℚ :=
  let v := c.tFine - 76800
  let v :=
    sar (shl adcH 14 - shl c.h4.toInt32 20 - c.h5.toInt32 * v + 16384) 15 *
      sar ((sar (sar (v * c.h6.toInt32) 10 * (sar (v * c.h3.toUInt32.toInt32) 11 + 32768)) 10 + 2097152) * c.h2.toInt32 + 8192) 14
  let v := v - sar (sar (sar v 15 * sar v 15) 7 * c.h1.toUInt32.toInt32) 4
  let v := if v < 0 then 0 else v
  let v := if v > 419430400 then 419430400 else v
  (sar v 12).toInt / 1024

/-- The wait of `esp32_read_env`, with `n` reads of the status left: it ends when one shows the measuring bit clear, or when none
is left. -/
def bmeWait (bus : BmeBus) : Nat → BmeRoutine Unit
  | 0 => pure ()
  | n + 1 => do
    let status ← bmeRead bus bmeRegStatus 1
    if status.getD 0 0 &&& 0x08 = 0 then pure () else bmeWait bus n

/-- `(0x01 << 5) | (0x01 << 2) | 0x01`: one forced-mode measurement. -/
def bmeForced : UInt8 := shl 0x01 5 ||| shl 0x01 2 ||| 0x01

/-- The accesses of `esp32_read_env`, up to the data registers. -/
def bmeMeasure (bus : BmeBus) : BmeRoutine (List UInt8) := do
  bmeInit bus
  bmeWriteReg bus bmeRegCtrlMeas bmeForced
  bmeWait bus 50
  bmeRead bus bmeRegPressMsb 8

/-- The compensation at the end of `esp32_read_env`: `*temp_c`, `*humidity`, `*pressure_hpa` and the `t_fine` it leaves. -/
def bmeCompensate (c : BmeCalib) (data : List UInt8) : (ℚ × ℚ × ℚ) × Int32 :=
  let d (i : Nat) : Int32 := (data.getD i 0).toUInt32.toInt32
  let adcP := shl (d 0) 12 ||| shl (d 1) 4 ||| sar (d 2) 4
  let adcT := shl (d 3) 12 ||| shl (d 4) 4 ||| sar (d 5) 4
  let adcH := shl (d 6) 8 ||| d 7
  -- the temperature comes first: it sets t_fine for the other two
  let (tempC, tFine) := bmeCompensateTemp c adcT
  let pressureHpa := bmeCompensatePressure { c with tFine } adcP
  let humidity := bmeCompensateHumidity { c with tFine } adcH
  ((tempC, humidity, pressureHpa), tFine)

/-- What one call of `esp32_read_env` leaves: its return code and outputs, the driver, and the register accesses it made. -/
structure EnvCall where
  result : Int × ℚ × ℚ × ℚ
  driver : BmeDriver
  log : List (BmeAccess × Option BmeRegs)

/-- `esp32_read_env`; `out` is what `*temp_c`, `*humidity` and `*pressure_hpa` hold before. -/
def esp32ReadEnv (bus : BmeBus) (d : BmeDriver) (out : ℚ × ℚ × ℚ) : EnvCall :=
  match exec (bmeMeasure bus) { state := d, log := [] } with
  | (none, t) => { result := (-1, out), driver := t.state, log := t.log }
  | (some data, t) =>
    let (outputs, tFine) := bmeCompensate t.state.calib data
    { result := (0, outputs), driver := { t.state with calib := { t.state.calib with tFine } }, log := t.log }

/-! ## What each routine does when it gets through -/

theorem block_getD (regs : BmeRegs) {reg : UInt8} {len i : Nat} (h : i < len) :
    (regs.block reg len).getD i 0 = regs (reg + UInt8.ofNat i) := by
  simp [BmeRegs.block, List.getD_eq_getElem?_getD, h]

@[simp] theorem block_one (regs : BmeRegs) (reg : UInt8) : (regs.block reg 1).getD 0 0 = regs reg := by
  rw [block_getD regs Nat.zero_lt_one]
  exact congrArg regs (UInt8.add_zero reg)

section

variable {bus : BmeBus} {t t' : Trace BmeDriver BmeAccess BmeRegs} {u : Unit}

theorem bmeWriteReg_succeeds {reg val : UInt8} :
    Succeeds (bmeWriteReg bus reg val) t u t' ↔
      ∃ regs, bus.answer t.log.length = some regs ∧ t' = { t with log := t.log ++ [(.write reg val, some regs)] } := by
  simp only [bmeWriteReg, succeeds_bind, succeeds_ask, succeeds_pure]
  constructor
  · rintro ⟨regs, _, ⟨h, rfl⟩, -, rfl⟩
    exact ⟨regs, h, rfl⟩
  · rintro ⟨regs, h, rfl⟩
    exact ⟨regs, _, ⟨h, rfl⟩, trivial, rfl⟩

theorem bmeRead_succeeds {reg : UInt8} {len : Nat} {data : List UInt8} :
    Succeeds (bmeRead bus reg len) t data t' ↔
      ∃ regs, bus.answer t.log.length = some regs ∧ regs.block reg len = data ∧
        t' = { t with log := t.log ++ [(.read reg len, some regs)] } := by
  simp only [bmeRead, succeeds_bind, succeeds_ask, succeeds_pure]
  constructor
  · rintro ⟨regs, _, ⟨h, rfl⟩, rfl, rfl⟩
    exact ⟨regs, h, rfl, rfl⟩
  · rintro ⟨regs, h, rfl, rfl⟩
    exact ⟨regs, _, ⟨h, rfl⟩, rfl, rfl⟩

/-- The two blocks of the calibration, and the coefficients taken from them. -/
theorem bmeLoadCalibration_succeeds :
    Succeeds (bmeLoadCalibration bus) t u t' ↔
      ∃ regs₁ regs₂, bus.answer t.log.length = some regs₁ ∧ bus.answer (t.log.length + 1) = some regs₂ ∧
        t' = { state := { t.state with calib := t.state.calib.load (regs₁.block bmeRegCalib00 26) (regs₂.block bmeRegCalib26 7) }
               log := t.log ++ [(.read bmeRegCalib00 26, some regs₁), (.read bmeRegCalib26 7, some regs₂)] } := by
  simp only [bmeLoadCalibration, succeeds_bind, bmeRead_succeeds, succeeds_change]
  constructor
  · rintro ⟨_, _, ⟨regs₁, h₁, rfl, rfl⟩, _, _, ⟨regs₂, h₂, rfl, rfl⟩, rfl⟩
    exact ⟨regs₁, regs₂, h₁, by simpa using h₂, by simp⟩
  · rintro ⟨regs₁, regs₂, h₁, h₂, rfl⟩
    exact ⟨_, _, ⟨regs₁, h₁, rfl, rfl⟩, _, _, ⟨regs₂, by simpa using h₂, rfl, rfl⟩, by simp⟩

/-- A driver that is ready is not initialised again. -/
theorem bmeInit_succeeds_ready (h : t.state.ready = true) : Succeeds (bmeInit bus) t u t' ↔ t' = t := by
  simp only [bmeInit, succeeds_bind, succeeds_current]
  constructor
  · rintro ⟨_, _, ⟨rfl, rfl⟩, hpure⟩
    rw [if_pos h, succeeds_pure] at hpure
    exact hpure.2.symm
  · rintro rfl
    refine ⟨_, _, ⟨rfl, rfl⟩, ?_⟩
    rw [if_pos h, succeeds_pure]
    exact ⟨rfl, rfl⟩

/-- The initialisation gets through if the bus and the device are there, the chip has the right id, and all five accesses are
answered. -/
theorem bmeInit_succeeds_cold (h : t.state.ready = false) :
    Succeeds (bmeInit bus) t u t' ↔
      bus.handle = true ∧ bus.addDevice = true ∧ ∃ r₀ r₁ r₂ r₃ r₄,
        (bus.answer t.log.length = some r₀ ∧ r₀ bmeRegId = bmeChipId) ∧
        bus.answer (t.log.length + 1) = some r₁ ∧ bus.answer (t.log.length + 2) = some r₂ ∧
        bus.answer (t.log.length + 3) = some r₃ ∧ bus.answer (t.log.length + 4) = some r₄ ∧
        t' =
          { state := { calib := t.state.calib.load (r₁.block bmeRegCalib00 26) (r₂.block bmeRegCalib26 7), ready := true }
            log := t.log ++ [(.read bmeRegId 1, some r₀), (.read bmeRegCalib00 26, some r₁), (.read bmeRegCalib26 7, some r₂),
              (.write bmeRegCtrlHum 0x01, some r₃), (.write bmeRegConfig 0x00, some r₄)] } := by
  simp only [bmeInit, succeeds_bind, succeeds_current]
  constructor
  · rintro ⟨_, _, ⟨rfl, rfl⟩, hrest⟩
    rw [if_neg (by simp [h])] at hrest
    split_ifs at hrest with hbus
    · simp only [Bool.and_eq_true] at hbus
      simp only [succeeds_bind, bmeRead_succeeds] at hrest
      obtain ⟨_, _, ⟨r₀, h₀, rfl, rfl⟩, hrest⟩ := hrest
      rw [block_one] at hrest
      split_ifs at hrest with hid
      · exact absurd hrest succeeds_failure
      · simp only [succeeds_bind, bmeLoadCalibration_succeeds, bmeWriteReg_succeeds, succeeds_change] at hrest
        obtain ⟨_, _, ⟨r₁, r₂, h₁, h₂, rfl⟩, _, _, ⟨r₃, h₃, rfl⟩, _, _, ⟨r₄, h₄, rfl⟩, rfl⟩ := hrest
        refine ⟨hbus.1, hbus.2, r₀, r₁, r₂, r₃, r₄, ⟨h₀, not_not.1 hid⟩, by simpa using h₁, by simpa using h₂,
          by simpa using h₃, by simpa using h₄, by simp⟩
    · exact absurd hrest succeeds_failure
  · rintro ⟨hhandle, hdevice, r₀, r₁, r₂, r₃, r₄, ⟨h₀, hid⟩, h₁, h₂, h₃, h₄, rfl⟩
    refine ⟨_, _, ⟨rfl, rfl⟩, ?_⟩
    rw [if_neg (by simp [h]), if_pos (by simp [hhandle, hdevice])]
    simp only [succeeds_bind, bmeRead_succeeds]
    refine ⟨_, _, ⟨r₀, h₀, rfl, rfl⟩, ?_⟩
    rw [block_one, if_neg (not_not.2 hid)]
    simp only [succeeds_bind, bmeLoadCalibration_succeeds, bmeWriteReg_succeeds, succeeds_change]
    exact ⟨(), _, ⟨r₁, r₂, by simpa using h₁, by simpa using h₂, rfl⟩, (), _, ⟨r₃, by simpa using h₃, rfl⟩, (), _,
      ⟨r₄, by simpa using h₄, rfl⟩, by simp⟩

end

/-! ## Only answered accesses -/

theorem bmeWriteReg_guarded (bus : BmeBus) (reg val : UInt8) : Guarded bus.answer (bmeWriteReg bus reg val) :=
  guarded_bind (guarded_ask _) fun _ => guarded_pure _

theorem bmeRead_guarded (bus : BmeBus) (reg : UInt8) (len : Nat) : Guarded bus.answer (bmeRead bus reg len) :=
  guarded_bind (guarded_ask _) fun _ => guarded_pure _

theorem bmeLoadCalibration_guarded (bus : BmeBus) : Guarded bus.answer (bmeLoadCalibration bus) :=
  guarded_bind (bmeRead_guarded bus _ _) fun _ => guarded_bind (bmeRead_guarded bus _ _) fun _ => guarded_change _

theorem bmeInit_guarded (bus : BmeBus) : Guarded bus.answer (bmeInit bus) := by
  refine guarded_bind guarded_current fun d => ?_
  split_ifs
  · exact guarded_pure ()
  · refine guarded_bind (bmeRead_guarded bus _ _) fun id => ?_
    split_ifs
    · exact guarded_failure
    · exact guarded_bind (bmeLoadCalibration_guarded bus) fun _ => guarded_bind (bmeWriteReg_guarded bus _ _) fun _ =>
        guarded_bind (bmeWriteReg_guarded bus _ _) fun _ => guarded_change _
  · exact guarded_failure

theorem bmeWait_guarded (bus : BmeBus) (n : Nat) : Guarded bus.answer (bmeWait bus n) := by
  induction n with
  | zero => exact guarded_pure ()
  | succ n ih =>
    refine guarded_bind (bmeRead_guarded bus _ _) fun status => ?_
    split_ifs
    · exact guarded_pure ()
    · exact ih

/-- Every access of a measurement that gets through was answered. -/
theorem bmeMeasure_guarded (bus : BmeBus) : Guarded bus.answer (bmeMeasure bus) :=
  guarded_bind (bmeInit_guarded bus) fun _ => guarded_bind (bmeWriteReg_guarded bus _ _) fun _ =>
    guarded_bind (bmeWait_guarded bus _) fun _ => bmeRead_guarded bus _ _

end AirQuality
