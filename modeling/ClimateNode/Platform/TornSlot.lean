import ClimateNode.Machine.SlidingWindow
import ClimateNode.Platform.HostFlash

/-!
# A damaged slot

Saves on the emulated flash, and then an interrupted write over slot 0. Every save goes to slot 0
and none to slot 1, so slot 1 still holds what it held before the first save (`hostSlot_saveAll`).
Loading falls back to that image when it is valid, and to the defaults when it is not
(`storageLoad_of_torn`): the slots do not rotate, and no save is the backup of another.
-/

set_option autoImplicit false

namespace ClimateNode.Platforms

open ClimateNode.Core ClimateNode.Service ClimateNode.Machine

/-- The flash after `mock_flash_init`. -/
def mockFlashInit : HostFlash := ⟨Vector.replicate 56 0xFF, 0⟩

/-- The flash after a call of `storage_save` for each of the configurations, in order. A call that
is refused leaves it as it is. -/
def saveAll (flash : HostFlash) (cfgs : List DeviceConfig) : HostFlash :=
  cfgs.foldl (fun flash cfg => (storageSave hostFlash flash cfg).2) flash

/-- An interrupted write has left the bytes `image` in a slot. -/
def tearSlot (flash : HostFlash) (slot : Fin 2) (image : Vector UInt8 28) : HostFlash :=
  { flash with mockFlash := writeSlot flash.mockFlash slot image }

section Saves

variable (flash : HostFlash)

/-- A save keeps slot 1. -/
theorem hostSlot_storageSave (cfg : DeviceConfig) :
    hostSlot (storageSave hostFlash flash cfg).2 1 = hostSlot flash 1 := by
  cases hvalid : storageValidate cfg with
  | false =>
      -- the image is refused before the write
      rw [storageSave, hvalid]
      rfl
  | true =>
      rw [storageSave_of_valid hostFlash flash hvalid]
      exact hostSlot_writeSlot_ne flash _ (by decide) _

/-- So does every history of saves. -/
theorem hostSlot_saveAll (cfgs : List DeviceConfig) :
    hostSlot (saveAll flash cfgs) 1 = hostSlot flash 1 := by
  induction cfgs generalizing flash with
  | nil => rfl
  | cons cfg cfgs ih =>
      calc hostSlot (saveAll flash (cfg :: cfgs)) 1
          = hostSlot (storageSave hostFlash flash cfg).2 1 := ih _
        _ = hostSlot flash 1 := hostSlot_storageSave flash cfg

/-- After damage to slot 0, loading decides by slot 1 alone. -/
theorem storageLoad_tearSlot {image : Vector UInt8 28}
    (h : storageValidate (configOfImage image) = false) :
    storageLoad hostFlash (tearSlot flash 0 image) =
      if storageValidate (configOfImage (hostSlot flash 1)) then
        (.ok, configOfImage (hostSlot flash 1))
      else (.notReady, storageLoadDefaults) := by
  have h0 : hostSlot (tearSlot flash 0 image) 0 = image := hostSlot_writeSlot flash image 0 _
  have h1 : hostSlot (tearSlot flash 0 image) 1 = hostSlot flash 1 :=
    hostSlot_writeSlot_ne flash image (by decide) _
  rw [storageLoad_hostFlash, h0, h1, h, if_neg Bool.false_ne_true]

/-- Erased flash holds no valid image in slot 1. -/
theorem storageValidate_mockFlashInit :
    storageValidate (configOfImage (hostSlot mockFlashInit 1)) = false := by
  apply storageValidate_configOfImage_erased
  rfl

/-- Whatever was saved on erased flash, damage to slot 0 loses it. -/
theorem storageLoad_torn_erased (cfgs : List DeviceConfig) {image : Vector UInt8 28}
    (h : storageValidate (configOfImage image) = false) :
    storageLoad hostFlash (tearSlot (saveAll mockFlashInit cfgs) 0 image) =
      (.notReady, storageLoadDefaults) := by
  rw [storageLoad_tearSlot _ h, hostSlot_saveAll, storageValidate_mockFlashInit,
    if_neg Bool.false_ne_true]

end Saves

/-- After any history of saves and damage to slot 0, loading returns the image that slot 1 held
before the first save, when that is valid, and otherwise `ERR_NOT_READY` with the defaults. On
erased flash it is always the defaults. -/
theorem storageLoad_of_torn (flash : HostFlash) (cfgs : List DeviceConfig)
    (image : Vector UInt8 28) (h : storageValidate (configOfImage image) = false) :
    (storageLoad hostFlash (tearSlot (saveAll flash cfgs) 0 image) =
      if storageValidate (configOfImage (hostSlot flash 1)) then
        (.ok, configOfImage (hostSlot flash 1))
      else (.notReady, storageLoadDefaults)) ∧
    storageLoad hostFlash (tearSlot (saveAll mockFlashInit cfgs) 0 image) =
      (.notReady, storageLoadDefaults) := by
  constructor
  · rw [storageLoad_tearSlot _ h, hostSlot_saveAll]
  · exact storageLoad_torn_erased cfgs h

/-- Two configurations that differ from the defaults. -/
def twoConfigs : List DeviceConfig :=
  [storageFinalize { storageLoadDefaults with dewMarginOnCd := 400 },
    storageFinalize { storageLoadDefaults with dewMarginOnCd := 300 }]

/-- A slot of zeros. -/
theorem storageValidate_zeros :
    storageValidate (configOfImage (Vector.replicate 28 0)) = false := rfl

/-- Both were saved on a flash whose slot 1 holds the default image. -/
theorem torn_twoConfigs_backup :
    let flash : HostFlash :=
      ⟨writeSlot mockFlashInit.mockFlash 1 (configImage storageLoadDefaults), 0⟩
    (storageLoad hostFlash (tearSlot (saveAll flash twoConfigs) 0 (Vector.replicate 28 0)) =
      if storageValidate (configOfImage (hostSlot flash 1)) then
        (.ok, configOfImage (hostSlot flash 1))
      else (.notReady, storageLoadDefaults)) ∧
    storageLoad hostFlash
        (tearSlot (saveAll mockFlashInit twoConfigs) 0 (Vector.replicate 28 0)) =
      (.notReady, storageLoadDefaults) :=
  storageLoad_of_torn _ twoConfigs (Vector.replicate 28 0) storageValidate_zeros

/-- Both were saved on erased flash, and neither is loaded after the damage. -/
theorem torn_twoConfigs_lost :
    ¬ ∀ (cfgs : List DeviceConfig) (image : Vector UInt8 28),
      (∀ cfg ∈ cfgs, storageValidate cfg = true) → 2 ≤ cfgs.length →
      storageValidate (configOfImage image) = false →
      ∃ cfg ∈ lastEntries 2 cfgs,
        storageLoad hostFlash (tearSlot (saveAll mockFlashInit cfgs) 0 image) = (.ok, cfg) := by
  intro h
  have hvalid : ∀ cfg ∈ twoConfigs, storageValidate cfg = true := by
    intro cfg hcfg
    rcases List.mem_pair.1 hcfg with rfl | rfl
    · exact storageValidate_storageFinalize _
    · exact storageValidate_storageFinalize _
  obtain ⟨cfg, -, hload⟩ :=
    h twoConfigs (Vector.replicate 28 0) hvalid (Nat.le_refl 2) storageValidate_zeros
  rw [storageLoad_torn_erased twoConfigs storageValidate_zeros] at hload
  cases hload

end ClimateNode.Platforms
