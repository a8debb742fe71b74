import ClimateNode.Machine.LittleEndian
import ClimateNode.Service.Storage

/-!
# Configuration images in memory

A `device_config_t` and its 28 bytes determine each other: `configImage` and `configOfImage` are
inverse to each other, so what a driver copies byte by byte is what the service reads field by
field.

The checksum field is the complement of the remainder, stored low byte first, so the bits of a valid
image all leave one remainder (`crcBits_configBytes`). An error within 32 consecutive bits moves it
(`storage_crc_detects_bursts`).
-/

set_option autoImplicit false

namespace ClimateNode.Service

open ClimateNode.Machine

/-! ## Fields -/

section Fields

theorem le16_eq_leBytes (x : UInt16) : le16 x = leBytes 2 x.toNat := by
  have hx := x.toNat_lt
  have hlow : x.toUInt8 = UInt8.ofNat x.toNat := by
    rw [← UInt8.toNat_inj, UInt16.toNat_toUInt8, UInt8.toNat_ofNat']
  have hhigh : (x >>> 8).toUInt8 = UInt8.ofNat (x.toNat / 256) := by
    rw [← UInt8.toNat_inj, UInt16.toNat_toUInt8, UInt8.toNat_ofNat', UInt16.toNat_shiftRight]
    show x.toNat >>> 8 % 256 = _
    rw [Nat.shiftRight_eq_div_pow]
  rw [le16, hlow, hhigh]
  rfl

theorem le32_eq_leBytes (x : UInt32) : le32 x = leBytes 4 x.toNat := by
  have hbyte : ∀ n : UInt32, n.toNat < 32 →
      (x >>> n).toUInt8 = UInt8.ofNat (x.toNat / 2 ^ n.toNat) := by
    intro n hn
    rw [← UInt8.toNat_inj, UInt32.toNat_toUInt8, UInt8.toNat_ofNat', UInt32.toNat_shiftRight,
      Nat.mod_eq_of_lt hn, Nat.shiftRight_eq_div_pow]
  have hlow : x.toUInt8 = UInt8.ofNat x.toNat := by
    rw [← UInt8.toNat_inj, UInt32.toNat_toUInt8, UInt8.toNat_ofNat']
  rw [le32, hlow, hbyte 8 (by decide), hbyte 16 (by decide), hbyte 24 (by decide)]
  simp only [leBytes, Nat.div_div_eq_div_mul]
  rfl

@[simp] theorem length_le16 (x : UInt16) : (le16 x).length = 2 := rfl

@[simp] theorem length_le32 (x : UInt32) : (le32 x).length = 4 := rfl

/-- Two bytes are those of the field they are read as. -/
theorem le16_ofNat_leNat {bytes : List UInt8} (h : bytes.length = 2) :
    le16 (UInt16.ofNat (leNat bytes)) = bytes := by
  have hlt : leNat bytes < 2 ^ 16 := by simpa [h] using leNat_lt bytes
  rw [le16_eq_leBytes, UInt16.toNat_ofNat', Nat.mod_eq_of_lt hlt, ← h, leBytes_leNat]

/-- Four bytes are those of the field they are read as. -/
theorem le32_ofNat_leNat {bytes : List UInt8} (h : bytes.length = 4) :
    le32 (UInt32.ofNat (leNat bytes)) = bytes := by
  have hlt : leNat bytes < 2 ^ 32 := by simpa [h] using leNat_lt bytes
  rw [le32_eq_leBytes, UInt32.toNat_ofNat', Nat.mod_eq_of_lt hlt, ← h, leBytes_leNat]

theorem le16_inj {x y : UInt16} (h : le16 x = le16 y) : x = y := by
  rw [le16_eq_leBytes, le16_eq_leBytes] at h
  rw [← UInt16.toNat_inj, ← leNat_leBytes (n := 2) x.toNat_lt, h, leNat_leBytes y.toNat_lt]

theorem le32_inj {x y : UInt32} (h : le32 x = le32 y) : x = y := by
  rw [le32_eq_leBytes, le32_eq_leBytes] at h
  rw [← UInt32.toNat_inj, ← leNat_leBytes (n := 4) x.toNat_lt, h, leNat_leBytes y.toNat_lt]

end Fields

/-! ## Images -/

section Images

@[simp] theorem length_configData (cfg : DeviceConfig) : (configData cfg).length = 24 := by
  simp [configData]

@[simp] theorem length_configBytes (cfg : DeviceConfig) : (configBytes cfg).length = 28 := by
  simp [configBytes]

/-- The 28 bytes of a configuration in memory. -/
def configImage (cfg : DeviceConfig) : Vector UInt8 28 :=
  ⟨(configBytes cfg).toArray, length_configBytes cfg⟩

/-- The bytes of a field of an image. -/
def imageField (image : Vector UInt8 28) (offset len : Nat) : List UInt8 :=
  (image.toList.drop offset).take len

/-- The configuration that 28 bytes are in memory. -/
def configOfImage (image : Vector UInt8 28) : DeviceConfig where
  magic := UInt32.ofNat (leNat (imageField image 0 4))
  version := UInt16.ofNat (leNat (imageField image 4 2))
  size := UInt16.ofNat (leNat (imageField image 6 2))
  dewMarginOnCd := (UInt16.ofNat (leNat (imageField image 8 2))).toInt16
  dewMarginOffCd := (UInt16.ofNat (leNat (imageField image 10 2))).toInt16
  samplePeriodMs := UInt16.ofNat (leNat (imageField image 12 2))
  reserved := Vector.ofFn fun i => image[14 + i.val]
  crc32 := UInt32.ofNat (leNat (imageField image 24 4))

@[simp] theorem toList_configImage (cfg : DeviceConfig) :
    (configImage cfg).toList = configBytes cfg := rfl

theorem length_imageField (image : Vector UInt8 28) {offset len : Nat} (h : offset + len ≤ 28) :
    (imageField image offset len).length = len := by
  rw [imageField, List.length_take, List.length_drop, Vector.length_toList]
  omega

/-- One field after the other. -/
theorem imageField_append (image : Vector UInt8 28) (offset len rest : Nat) :
    imageField image offset len ++ imageField image (offset + len) rest =
      imageField image offset (len + rest) := by
  rw [imageField, imageField, imageField, List.take_add, List.drop_drop]

theorem imageField_all (image : Vector UInt8 28) : imageField image 0 28 = image.toList := by
  rw [imageField, List.drop_zero]
  exact List.take_of_length_le (by rw [Vector.length_toList])

theorem toList_reserved (image : Vector UInt8 28) :
    (configOfImage image).reserved.toList = imageField image 14 10 := by
  apply List.ext_getElem
  · rw [Vector.length_toList, length_imageField image (by omega)]
  · intro i h₁ h₂
    simp [configOfImage, imageField]

/-- An image holds the bytes of the configuration it is read as. -/
theorem configBytes_configOfImage (image : Vector UInt8 28) :
    configBytes (configOfImage image) = image.toList := by
  have h16 : ∀ offset, offset + 2 ≤ 28 →
      le16 (UInt16.ofNat (leNat (imageField image offset 2))) = imageField image offset 2 :=
    fun offset h => le16_ofNat_leNat (length_imageField image h)
  have h32 : ∀ offset, offset + 4 ≤ 28 →
      le32 (UInt32.ofNat (leNat (imageField image offset 4))) = imageField image offset 4 :=
    fun offset h => le32_ofNat_leNat (length_imageField image h)
  rw [configBytes, configData, toList_reserved]
  simp only [configOfImage, UInt16.toUInt16_toInt16]
  rw [h32 0 (by omega), h16 4 (by omega), h16 6 (by omega), h16 8 (by omega), h16 10 (by omega),
    h16 12 (by omega), h32 24 (by omega)]
  rw [imageField_append image 0 4 2, imageField_append image 0 6 2, imageField_append image 0 8 2,
    imageField_append image 0 10 2, imageField_append image 0 12 2, imageField_append image 0 14 10,
    imageField_append image 0 24 4, imageField_all]

theorem configBytes_inj {cfg cfg' : DeviceConfig} (h : configBytes cfg = configBytes cfg') :
    cfg = cfg' := by
  obtain ⟨magic, version, size, on, off, period, reserved, crc⟩ := cfg
  obtain ⟨magic', version', size', on', off', period', reserved', crc'⟩ := cfg'
  obtain ⟨h, hcrc⟩ := List.append_inj h (by rw [length_configData, length_configData])
  obtain ⟨h, hreserved⟩ := List.append_inj h (by simp)
  obtain ⟨h, hperiod⟩ := List.append_inj h (by simp)
  obtain ⟨h, hoff⟩ := List.append_inj h (by simp)
  obtain ⟨h, hon⟩ := List.append_inj h (by simp)
  obtain ⟨h, hsize⟩ := List.append_inj h (by simp)
  obtain ⟨hmagic, hversion⟩ := List.append_inj h (by simp)
  have hon : on = on' := by simpa using congrArg UInt16.toInt16 (le16_inj hon)
  have hoff : off = off' := by simpa using congrArg UInt16.toInt16 (le16_inj hoff)
  rw [DeviceConfig.mk.injEq]
  exact ⟨le32_inj hmagic, le16_inj hversion, le16_inj hsize, hon, hoff, le16_inj hperiod,
    Vector.toList_inj.1 hreserved, le32_inj hcrc⟩

@[simp] theorem configImage_configOfImage (image : Vector UInt8 28) :
    configImage (configOfImage image) = image :=
  Vector.toList_inj.1 (configBytes_configOfImage image)

@[simp] theorem configOfImage_configImage (cfg : DeviceConfig) :
    configOfImage (configImage cfg) = cfg :=
  configBytes_inj (configBytes_configOfImage (configImage cfg))

end Images

/-! ## Corrupted images -/

section Corruption

/-- `cfg` with the bits of `error` flipped in its image. -/
def corruptConfig (cfg : DeviceConfig) (error : Vector UInt8 28) : DeviceConfig :=
  configOfImage (Vector.zipWith (· ^^^ ·) (configImage cfg) error)

theorem configBytes_corruptConfig (cfg : DeviceConfig) (error : Vector UInt8 28) :
    configBytes (corruptConfig cfg error) =
      List.zipWith (· ^^^ ·) (configBytes cfg) error.toList := by
  rw [corruptConfig, configBytes_configOfImage, Vector.toList_zipWith, toList_configImage]

/-- The field is stored low byte first, so its bits are in line order. -/
theorem lineBits_le32 (x : UInt32) : lineBits (le32 x) = lowBits 32 x.toBitVec := by
  rw [le32_eq_leBytes]
  exact lineBits_leBytes_toNat 4 x.toBitVec

/-- The remainder that a valid image leaves: that of the complement's thirty-two set bits. -/
def imageResidue : BitVec 32 := (crcShift 0xEDB88320#32)^[32] (BitVec.allOnes 32)

/-- The bits of a valid image, the checksum field included, leave the same remainder whatever the
configuration. -/
theorem crcBits_configBytes {cfg : DeviceConfig} (h : storageValidate cfg = true) :
    crcBits 0xEDB88320#32 0xFFFFFFFF#32 (lineBits (configBytes cfg)) = imageResidue := by
  have hcrc := ((storageValidate_iff cfg).1 h).2.2
  have hdata : crcBits 0xEDB88320#32 0xFFFFFFFF#32 (lineBits (configData cfg)) =
      ~~~ cfg.crc32.toBitVec := by
    rw [hcrc, ← crcBytes_eq_crcBits (by omega)]
    exact BitVec.not_not.symm
  have hbits : lineBits (configBytes cfg) =
      lineBits (configData cfg) ++ lowBits 32 cfg.crc32.toBitVec := by
    rw [← lineBits_le32]
    exact List.flatMap_append
  have hones : ~~~ cfg.crc32.toBitVec ^^^ cfg.crc32.toBitVec = BitVec.allOnes 32 := by
    rw [BitVec.not_def, BitVec.xor_assoc, BitVec.xor_self, BitVec.xor_zero]
  rw [hbits, crcBits_append, hdata, crcBits_lowBits (by omega), hones]
  · rfl
  · intro i hi
    exact BitVec.getLsbD_of_ge _ i hi

/-- A burst of at most 32 bits, wherever in the image it falls, makes a valid image invalid. -/
theorem storage_crc_detects_bursts (cfg : DeviceConfig) (error : Vector UInt8 28)
    (hvalid : storageValidate cfg = true) (hnz : ∃ byte ∈ error.toList, byte ≠ 0)
    (hburst : ∃ k, ∀ i, (lineBits error.toList)[i]? = some true → k ≤ i ∧ i < k + 32) :
    storageValidate (corruptConfig cfg error) = false := by
  obtain ⟨k, hburst⟩ := hburst
  have hset : true ∈ lineBits error.toList := true_mem_lineBits.2 hnz
  have hlen : (configBytes cfg).length = error.toList.length := by simp
  have herror : crcBits 0xEDB88320#32 0#32 (lineBits error.toList) ≠ 0#32 :=
    crcBits_burst_ne_zero (by omega) (by decide) hburst hset
  have hsum := crcBits_xor (by omega) 0xEDB88320#32 (lineBits (configBytes cfg))
    (lineBits error.toList) 0xFFFFFFFF#32 0#32 (by rw [length_lineBits, length_lineBits, hlen])
  rw [BitVec.xor_zero, crcBits_configBytes hvalid, ← lineBits_zipWith _ _ hlen,
    ← configBytes_corruptConfig] at hsum
  -- two valid images would leave the same remainder
  rw [← Bool.not_eq_true]
  intro hcorrupt
  rw [crcBits_configBytes hcorrupt] at hsum
  refine herror ?_
  calc crcBits 0xEDB88320#32 0#32 (lineBits error.toList)
      = imageResidue ^^^ (imageResidue ^^^ crcBits 0xEDB88320#32 0#32 (lineBits error.toList)) := by
        rw [← BitVec.xor_assoc, BitVec.xor_self, BitVec.zero_xor]
    _ = 0#32 := by rw [← hsum, BitVec.xor_self]

/-- All the bits of the checksum field of the default image. -/
theorem storage_crc_detects_bursts_field :
    storageValidate (corruptConfig storageLoadDefaults
      #v[0, 0, 0, 0, 0, 0, 0, 0, 0, 0, 0, 0, 0, 0, 0, 0, 0, 0, 0, 0, 0, 0, 0, 0,
        255, 255, 255, 255])
      = false :=
  storage_crc_detects_bursts storageLoadDefaults
    #v[0, 0, 0, 0, 0, 0, 0, 0, 0, 0, 0, 0, 0, 0, 0, 0, 0, 0, 0, 0, 0, 0, 0, 0, 255, 255, 255, 255]
    storageValidate_storageLoadDefaults ⟨255, by decide, by decide⟩
    ⟨192, by
      have hall : ∀ i < 192, (lineBits [0, 0, 0, 0, 0, 0, 0, 0, 0, 0, 0, 0, 0, 0, 0, 0, 0, 0, 0, 0,
          0, 0, 0, 0, 255, 255, 255, 255])[i]? = some false := by decide +kernel
      intro i hi
      have hlt := (List.getElem?_eq_some_iff.1 hi).1
      simp at hlt
      refine ⟨?_, by omega⟩
      by_contra hlow
      have hfalse := hall i (by omega)
      exact absurd (hfalse.symm.trans hi) (by decide)⟩

end Corruption

end ClimateNode.Service
