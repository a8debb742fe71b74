import ClimateNode.Core.Types
import ClimateNode.Machine.Crc

/-!
# The persistent configuration

`service/storage.c`: the 28-byte image `device_config_t`, its checksum over the 24 bytes before the
`crc32` field, and loading and saving through the platform's flash driver. The driver is a parameter
(`FlashDriver`): both platforms of the repository implement it, and a target may replace it.

A finalised image is valid (`storageValidate_storageFinalize`), and loading returns a valid image
whatever the flash holds (`storageValidate_storageLoad`).
-/

set_option autoImplicit false

namespace ClimateNode.Service

open ClimateNode.Core ClimateNode.Machine

universe u

/-- `device_config_t`. -/
structure DeviceConfig where
  magic : UInt32
  version : UInt16
  size : UInt16
  dewMarginOnCd : Int16
  dewMarginOffCd : Int16
  samplePeriodMs : UInt16
  reserved : Vector UInt8 10
  crc32 : UInt32
  deriving DecidableEq, Repr

/-- `sizeof(device_config_t)`. -/
def sizeofDeviceConfig : UInt16 := 28

/-- A 16-bit field in memory, low byte first. -/
def le16 (x : UInt16) : List UInt8 := [x.toUInt8, (x >>> 8).toUInt8]

/-- A 32-bit field in memory, low byte first. -/
def le32 (x : UInt32) : List UInt8 :=
  [x.toUInt8, (x >>> 8).toUInt8, (x >>> 16).toUInt8, (x >>> 24).toUInt8]

/-- The bytes of an image before the `crc32` field. -/
def configData (cfg : DeviceConfig) : List UInt8 :=
  le32 cfg.magic ++ le16 cfg.version ++ le16 cfg.size ++ le16 cfg.dewMarginOnCd.toUInt16 ++
    le16 cfg.dewMarginOffCd.toUInt16 ++ le16 cfg.samplePeriodMs ++ cfg.reserved.toList

/-- The bytes of an image. -/
def configBytes (cfg : DeviceConfig) : List UInt8 := configData cfg ++ le32 cfg.crc32

/-- `calc_crc32`. -/
def calcCrc32 (bytes : List UInt8) : UInt32 :=
  UInt32.ofBitVec (~~~ crcBytes 0xEDB88320#32 0xFFFFFFFF#32 bytes)

/-- `storage_finalize`. -/
def storageFinalize (cfg : DeviceConfig) : DeviceConfig :=
  let cfg := { cfg with magic := 0xCAFEBABE, version := 1, size := sizeofDeviceConfig }
  { cfg with crc32 := calcCrc32 (configData cfg) }

/-- `storage_load_defaults`; the margins and the period are those of `CONTROLLER_DEFAULTS`. -/
def storageLoadDefaults : DeviceConfig :=
  let cfg : DeviceConfig := {
    magic := 0xCAFEBABE
    version := 1
    size := sizeofDeviceConfig
    dewMarginOnCd := 500
    dewMarginOffCd := 700
    samplePeriodMs := 1000
    reserved := Vector.replicate 10 0
    crc32 := 0 }
  { cfg with crc32 := calcCrc32 (configData cfg) }

/-- `storage_validate`. -/
def storageValidate (cfg : DeviceConfig) : Bool :=
  if cfg.magic ≠ 0xCAFEBABE then false
  else if cfg.size ≠ sizeofDeviceConfig then false
  else cfg.crc32 == calcCrc32 (configData cfg)

/-- The flash functions of a platform: `platform_flash_read_config`, with the image left in the
caller's buffer, and `platform_flash_write_config`. -/
structure FlashDriver (F : Type u) where
  read : F → UInt32 → Err × DeviceConfig
  write : F → UInt32 → DeviceConfig → Err × F

section Driver

variable {F : Type u} (d : FlashDriver F)

/-- `storage_load`: slot 0, then slot 1, then the defaults with `ERR_NOT_READY`. -/
def storageLoad (flash : F) : Err × DeviceConfig :=
  let r0 := d.read flash 0
  if r0.1 = .ok ∧ storageValidate r0.2 then (.ok, r0.2)
  else
    let r1 := d.read flash 1
    if r1.1 = .ok ∧ storageValidate r1.2 then (.ok, r1.2)
    else (.notReady, storageLoadDefaults)

/-- `storage_save`: always slot 0. -/
def storageSave (flash : F) (cfg : DeviceConfig) : Err × F :=
  if !storageValidate cfg then (.invalidArg, flash) else d.write flash 0 cfg

end Driver

/-! ## Valid images -/

/-- The checksum does not cover its own field. -/
theorem configData_crc32 (cfg : DeviceConfig) (crc : UInt32) :
    configData { cfg with crc32 := crc } = configData cfg := rfl

theorem storageValidate_iff (cfg : DeviceConfig) :
    storageValidate cfg = true ↔
      cfg.magic = 0xCAFEBABE ∧ cfg.size = sizeofDeviceConfig ∧
        cfg.crc32 = calcCrc32 (configData cfg) := by
  unfold storageValidate
  split
  · simp_all
  · split
    · simp_all
    · simp_all

/-- A finalised image is valid. -/
@[simp] theorem storageValidate_storageFinalize (cfg : DeviceConfig) :
    storageValidate (storageFinalize cfg) = true := by
  rw [storageValidate_iff, storageFinalize, configData_crc32]
  exact ⟨rfl, rfl, rfl⟩

/-- The default image is valid. -/
@[simp] theorem storageValidate_storageLoadDefaults :
    storageValidate storageLoadDefaults = true := by
  rw [storageValidate_iff, storageLoadDefaults, configData_crc32]
  exact ⟨rfl, rfl, rfl⟩

/-- Loading returns a valid image. -/
theorem storageValidate_storageLoad {F : Type u} (d : FlashDriver F) (flash : F) :
    storageValidate (storageLoad d flash).2 = true := by
  -- slot 0, slot 1 and the defaults
  unfold storageLoad
  by_cases h0 : (d.read flash 0).1 = .ok ∧ storageValidate (d.read flash 0).2 = true
  · rw [if_pos h0]
    exact h0.2
  · rw [if_neg h0]
    by_cases h1 : (d.read flash 1).1 = .ok ∧ storageValidate (d.read flash 1).2 = true
    · rw [if_pos h1]
      exact h1.2
    · rw [if_neg h1]
      exact storageValidate_storageLoadDefaults

/-- Saving a valid image is the write to slot 0. -/
theorem storageSave_of_valid {F : Type u} (d : FlashDriver F) (flash : F) {cfg : DeviceConfig}
    (h : storageValidate cfg = true) : storageSave d flash cfg = d.write flash 0 cfg := by
  simp [storageSave, h]

end ClimateNode.Service
