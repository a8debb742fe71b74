import ClimateNode.Service.StorageImages

/-!
# The flash of the host builds

`platform/host/platform_host.c`: two emulated slots in one array of 56 bytes, read and written by
`memcpy`. A slot of set bits only is reported as missing.

`core/platform_stubs.c`: the default where a platform brings no flash of its own. It finds no image
and stores none.

A write replaces its own slot and no other (`hostSlot_writeSlot`, `hostSlot_writeSlot_ne`). Loading
takes the first slot that holds a valid image (`storageLoad_hostFlash`).
-/

set_option autoImplicit false

namespace ClimateNode.Platforms

open ClimateNode.Core ClimateNode.Service

/-- What a read that finds no image leaves in the caller's buffer. Both callers look at the buffer
only after `ERR_OK`. -/
def untouchedBuffer : DeviceConfig := configOfImage (Vector.replicate 28 0)

/-! ## The emulated slots -/

/-- `g_mock_flash` and `g_mock_write_count`. -/
structure HostFlash where
  mockFlash : Vector UInt8 56
  mockWriteCount : UInt32
  deriving DecidableEq, Repr

/-- The 28 bytes of a slot. -/
def hostSlot (flash : HostFlash) (slot : Fin 2) : Vector UInt8 28 :=
  Vector.ofFn fun i => flash.mockFlash[28 * slot.val + i.val]

/-- `memcpy` of an image over a slot. -/
def writeSlot (mockFlash : Vector UInt8 56) (slot : Fin 2) (image : Vector UInt8 28) :
    Vector UInt8 56 :=
  Vector.ofFn fun i =>
    if h : 28 * slot.val ≤ i.val ∧ i.val - 28 * slot.val < 28 then image[i.val - 28 * slot.val]
    else mockFlash[i]

/-- `platform_flash_read_config` and `platform_flash_write_config`. -/
def hostFlash : FlashDriver HostFlash where
  read flash slotIndex :=
    if h : slotIndex.toNat < 2 then
      let image := hostSlot flash ⟨slotIndex.toNat, h⟩
      let empty := image.toList.all fun byte => byte == 0xFF
      if empty then (.notFound, untouchedBuffer) else (.ok, configOfImage image)
    else (.invalidArg, untouchedBuffer)
  write flash slotIndex cfg :=
    if h : slotIndex.toNat < 2 then
      (.ok, {
        mockFlash := writeSlot flash.mockFlash ⟨slotIndex.toNat, h⟩ (configImage cfg)
        mockWriteCount := flash.mockWriteCount + 1 })
    else (.invalidArg, flash)

section Slots

variable (flash : HostFlash) (image : Vector UInt8 28)

/-- A slot holds what was last written to it. -/
theorem hostSlot_writeSlot (slot : Fin 2) (count : UInt32) :
    hostSlot ⟨writeSlot flash.mockFlash slot image, count⟩ slot = image := by
  apply Vector.ext
  intro i hi
  simp [hostSlot, writeSlot]

/-- A write to one slot keeps the other. -/
theorem hostSlot_writeSlot_ne {slot other : Fin 2} (h : other ≠ slot) (count : UInt32) :
    hostSlot ⟨writeSlot flash.mockFlash slot image, count⟩ other = hostSlot flash other := by
  apply Vector.ext
  intro i hi
  have hout : ¬ (28 * slot.val ≤ 28 * other.val + i ∧
      28 * other.val + i - 28 * slot.val < 28) := by
    have hne : other.val ≠ slot.val := fun heq => h (Fin.ext heq)
    omega
  simp [hostSlot, writeSlot, hout]

/-- A slot of set bits only holds no valid image. -/
theorem storageValidate_configOfImage_erased
    (h : (image.toList.all fun byte => byte == 0xFF) = true) :
    storageValidate (configOfImage image) = false := by
  have himage : image = Vector.replicate 28 0xFF := by
    apply Vector.ext
    intro i hi
    have hbyte := List.all_eq_true.1 h image[i] (by simp)
    simpa using hbyte
  rw [himage]
  rfl

end Slots

/-! ## Loading -/

section Load

variable (flash : HostFlash) (slot : Fin 2)

/-- A slot is read as its image, unless all its bits are set. -/
theorem hostRead_eq : hostFlash.read flash (UInt32.ofNat slot.val) =
    if ((hostSlot flash slot).toList.all fun byte => byte == 0xFF) = true then
      (.notFound, untouchedBuffer) else (.ok, configOfImage (hostSlot flash slot)) := by
  have hslot : (UInt32.ofNat slot.val).toNat = slot.val := by
    have := slot.isLt
    rw [UInt32.toNat_ofNat']
    omega
  simp only [hostFlash, hslot, slot.isLt, dif_pos]

/-- The test for an erased slot hides no valid image. -/
theorem hostRead_valid_iff :
    (hostFlash.read flash (UInt32.ofNat slot.val)).1 = .ok ∧
        storageValidate (hostFlash.read flash (UInt32.ofNat slot.val)).2 = true ↔
      storageValidate (configOfImage (hostSlot flash slot)) = true := by
  rw [hostRead_eq]
  split
  case isTrue hempty => simp [storageValidate_configOfImage_erased _ hempty]
  case isFalse => exact and_iff_right rfl

/-- A valid slot is read as its image. -/
theorem hostRead_of_valid (h : storageValidate (configOfImage (hostSlot flash slot)) = true) :
    (hostFlash.read flash (UInt32.ofNat slot.val)).2 = configOfImage (hostSlot flash slot) := by
  rw [hostRead_eq, if_neg]
  intro hempty
  rw [storageValidate_configOfImage_erased _ hempty] at h
  cases h

/-- Loading takes the first slot that holds a valid image. -/
theorem storageLoad_hostFlash : storageLoad hostFlash flash =
    if storageValidate (configOfImage (hostSlot flash 0)) then
      (.ok, configOfImage (hostSlot flash 0))
    else if storageValidate (configOfImage (hostSlot flash 1)) then
      (.ok, configOfImage (hostSlot flash 1))
    else (.notReady, storageLoadDefaults) := by
  have h0 : (hostFlash.read flash 0).1 = .ok ∧ storageValidate (hostFlash.read flash 0).2 = true ↔
      storageValidate (configOfImage (hostSlot flash 0)) = true := hostRead_valid_iff flash 0
  have h1 : (hostFlash.read flash 1).1 = .ok ∧ storageValidate (hostFlash.read flash 1).2 = true ↔
      storageValidate (configOfImage (hostSlot flash 1)) = true := hostRead_valid_iff flash 1
  simp only [storageLoad, h0, h1]
  by_cases hv0 : storageValidate (configOfImage (hostSlot flash 0)) = true
  · rw [if_pos hv0, if_pos hv0]
    exact congrArg (Prod.mk Err.ok) (hostRead_of_valid flash 0 hv0)
  · rw [if_neg hv0, if_neg hv0]
    by_cases hv1 : storageValidate (configOfImage (hostSlot flash 1)) = true
    · rw [if_pos hv1, if_pos hv1]
      exact congrArg (Prod.mk Err.ok) (hostRead_of_valid flash 1 hv1)
    · rw [if_neg hv1, if_neg hv1]

end Load

/-! ## No flash -/

/-- `platform_flash_read_config` and `platform_flash_write_config` of the stubs. -/
def stubFlash : FlashDriver Unit where
  read _ _ := (.notFound, { untouchedBuffer with magic := 0 })
  write flash _ _ := (.storage, flash)

end ClimateNode.Platforms
