import AirQuality.Firmware.Config

/-!
# The config store in flash

`firmware/adapters/esp32/config_store_esp32.c` over the NVS driver of the board. The driver is not part of the repository: its
answers to one call of the store are an `NvsCall`, and the store's own key is a blob of bytes that is there or not. A blob that
was set but not committed may be on flash or not.
-/

namespace AirQuality

/-- `esp_err_t`, as far as the store tells its values apart. -/
inductive EspErr where
  | ok
  | nvsNoFreePages
  | nvsNewVersionFound
  | nvsNotFound
  | nvsInvalidLength
  | fail
deriving DecidableEq

/-- What the NVS driver answers during one call of `esp32_config_load` or `esp32_config_save`, step by step. -/
structure NvsCall where
  init : EspErr
  erase : EspErr
  /-- The second `nvs_flash_init`, after an erase. -/
  reinit : EspErr
  openErr : EspErr
  /-- `nvs_set_blob`, or `nvs_get_blob` beyond what the stored bytes decide. -/
  blob : EspErr
  commit : EspErr
  /-- A blob set whose commit failed is on flash all the same. -/
  torn : Bool

/-- Every driver call succeeds. -/
def NvsCall.healthy : NvsCall := ⟨.ok, .ok, .ok, .ok, .ok, .ok, false⟩

/-- The flash, as far as the store sees it: the blob committed under its namespace and key. -/
structure Flash where
  blob : Option (List UInt8)
deriving DecidableEq

/-- `RECORD_VERSION` -/
def recordVersion : UInt8 := 1

/-- `RECORD_LEN`: [version][interval u16][pm offset i16][temp offset i16] -/
def recordLen : Nat := 7

/-- `ensure_nvs`: a partition that is full or from another version is erased and started afresh. -/
def ensureNvs (c : NvsCall) (fl : Flash) : Flash × Int :=
  if c.init = .nvsNoFreePages ∨ c.init = .nvsNewVersionFound then
    if c.erase ≠ .ok then (fl, -1)
    else if c.reinit ≠ .ok then ({ blob := none }, -1)
    else ({ blob := none }, 0)
  else if c.init ≠ .ok then (fl, -1)
  else (fl, 0)

/-- `nvs_get_blob` into a buffer of `cap` bytes, once the driver itself answers `err`. -/
def nvsGetBlob (err : EspErr) (fl : Flash) (cap : Nat) : Except EspErr (List UInt8) :=
  match fl.blob with
  | none => .error .nvsNotFound
  | some rec => if err ≠ .ok then .error err else if cap < rec.length then .error .nvsInvalidLength else .ok rec

/-- The record of a config: field by field, with its own version byte. -/
def configRecord (cfg : AqConfig) : List UInt8 :=
  recordVersion :: (Word.bytes cfg.sampleIntervalS ++ Word.bytes cfg.pmOffsetX10.toUInt16 ++
    Word.bytes cfg.tempOffsetX100.toUInt16)

/-- The end of `esp32_config_load`: what it makes of the answer of `nvs_get_blob`. -/
def recordConfig : Except EspErr (List UInt8) → Option AqConfig
  | .error _ => none
  | .ok rec =>
    if rec.length ≠ recordLen ∨ rec.getD 0 0 ≠ recordVersion then none
    else some {
      sampleIntervalS := Word.at rec 1
      pmOffsetX10 := (Word.at rec 3).toInt16
      tempOffsetX100 := (Word.at rec 5).toInt16 }

/-- `esp32_config_load`: the config stored, `none` when it returns -1 (its argument is then left untouched). -/
def esp32ConfigLoad (c : NvsCall) (fl : Flash) : Flash × Option AqConfig :=
  let (fl, rc) := ensureNvs c fl
  if rc ≠ 0 then (fl, none)
  else if c.openErr ≠ .ok then (fl, none) -- namespace not created yet: nothing stored
  else (fl, recordConfig (nvsGetBlob c.blob fl recordLen))

/-- `esp32_config_save`: 0 on success, -1 on failure. -/
def esp32ConfigSave (c : NvsCall) (fl : Flash) (cfg : AqConfig) : Flash × Int :=
  let (fl, rc) := ensureNvs c fl
  if rc ≠ 0 then (fl, -1)
  else if c.openErr ≠ .ok then (fl, -1)
  else if c.blob ≠ .ok then (fl, -1)
  else if c.commit ≠ .ok then (if c.torn then { blob := some (configRecord cfg) } else fl, -1)
  else ({ blob := some (configRecord cfg) }, 0)

/-! ## What a boot finds -/

/-- The driver gives back what is on flash, after erasing an unusable partition if need be. -/
def NvsCall.Works (c : NvsCall) : Prop :=
  (c.init = .ok ∨ (c.init = .nvsNoFreePages ∨ c.init = .nvsNewVersionFound) ∧ c.erase = .ok ∧ c.reinit = .ok) ∧
    c.openErr = .ok ∧ c.blob = .ok

/-- The config a cold boot starts from, given what is on flash. -/
def coldBootConfig (fl : Flash) : AqConfig := (aqStateInit (esp32ConfigLoad .healthy fl).2).cfg

/-- A driver that works on a usable partition reads what a healthy one reads. -/
theorem esp32ConfigLoad_of_usable {c : NvsCall} (h : c.Works) (hinit : c.init = .ok) (fl : Flash) :
    esp32ConfigLoad c fl = esp32ConfigLoad .healthy fl := by
  obtain ⟨-, hopen, hblob⟩ := h
  simp [esp32ConfigLoad, ensureNvs, hinit, hopen, hblob, NvsCall.healthy]

/-- What a load by a driver that works finds is what a healthy load finds on the flash it leaves. -/
theorem esp32ConfigLoad_of_works {c : NvsCall} (h : c.Works) (fl : Flash) :
    (esp32ConfigLoad c fl).2 = (esp32ConfigLoad .healthy (esp32ConfigLoad c fl).1).2 := by
  rcases h.1 with hok | ⟨hbad, herase, hreinit⟩
  · rw [esp32ConfigLoad_of_usable h hok]
    rfl
  · have hload : esp32ConfigLoad c fl = ({ blob := none }, none) := by
      simp [esp32ConfigLoad, ensureNvs, hbad, herase, hreinit, h.2.1, nvsGetBlob, recordConfig]
    rw [hload]
    rfl

/-- A config saved is the config loaded, for every config, negative offsets included. -/
theorem esp32ConfigLoad_record (cfg : AqConfig) :
    (esp32ConfigLoad .healthy { blob := some (configRecord cfg) }).2 = some cfg := by
  have h1 : Word.at (configRecord cfg) 1 = cfg.sampleIntervalS := by simp [configRecord, Word.at, Word.bytes]
  have h3 : Word.at (configRecord cfg) 3 = cfg.pmOffsetX10.toUInt16 := by simp [configRecord, Word.at, Word.bytes]
  have h5 : Word.at (configRecord cfg) 5 = cfg.tempOffsetX100.toUInt16 := by simp [configRecord, Word.at, Word.bytes]
  change some (AqConfig.mk (Word.at (configRecord cfg) 1) (Word.at (configRecord cfg) 3).toInt16
    (Word.at (configRecord cfg) 5).toInt16) = some cfg
  rw [h1, h3, h5, Int16.toInt16_toUInt16, Int16.toInt16_toUInt16]

/-- A save that succeeds leaves the record of the config on flash. -/
theorem esp32ConfigSave_flash {c : NvsCall} {fl : Flash} {cfg : AqConfig} (h : (esp32ConfigSave c fl cfg).2 = 0) :
    (esp32ConfigSave c fl cfg).1 = { blob := some (configRecord cfg) } := by
  revert h
  simp only [esp32ConfigSave]
  split_ifs <;> simp

/-- After a save that succeeds a cold boot starts from the config saved, if it is in range. -/
theorem coldBootConfig_of_save {c : NvsCall} {fl : Flash} {cfg : AqConfig} (hvalid : aqConfigValid cfg = true)
    (h : (esp32ConfigSave c fl cfg).2 = 0) : coldBootConfig (esp32ConfigSave c fl cfg).1 = cfg := by
  rw [esp32ConfigSave_flash h, coldBootConfig, esp32ConfigLoad_record, aqStateInit_cfg_of_valid hvalid]

/-- A driver that works, and commits, lets a save succeed. -/
theorem esp32ConfigSave_of_works {c : NvsCall} (h : c.Works) (hcommit : c.commit = .ok) (fl : Flash) (cfg : AqConfig) :
    (esp32ConfigSave c fl cfg).2 = 0 := by
  obtain ⟨hinit, hopen, hblob⟩ := h
  rcases hinit with hok | ⟨hbad, herase, hreinit⟩
  · simp [esp32ConfigSave, ensureNvs, hok, hopen, hblob, hcommit]
  · simp [esp32ConfigSave, ensureNvs, hbad, herase, hreinit, hopen, hblob, hcommit]

end AirQuality
