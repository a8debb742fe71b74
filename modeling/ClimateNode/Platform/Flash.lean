import ClimateNode.Service.Storage

/-!
# The flash of the STM32F1 board

`platform/stm32f1/platform_stm32f1.c`: two configuration pages that are read back as images. The
write function of this platform reports success and stores nothing.
-/

set_option autoImplicit false

namespace ClimateNode.Platforms

open ClimateNode.Core ClimateNode.Service

/-- The images at `FLASH_CONFIG_A_ADDR` and `FLASH_CONFIG_B_ADDR`. -/
structure Stm32f1Flash where
  configA : DeviceConfig
  configB : DeviceConfig
  deriving DecidableEq, Repr

/-- The image of an erased page. -/
def erasedConfig : DeviceConfig where
  magic := 0xFFFFFFFF
  version := 0xFFFF
  size := 0xFFFF
  dewMarginOnCd := -1
  dewMarginOffCd := -1
  samplePeriodMs := 0xFFFF
  reserved := Vector.replicate 10 0xFF
  crc32 := 0xFFFFFFFF

/-- `platform_flash_read_config` and `platform_flash_write_config`. -/
def stm32f1Flash : FlashDriver Stm32f1Flash where
  read flash slotIndex :=
    let out := if slotIndex = 0 then flash.configA else flash.configB
    let empty := (configBytes out).all fun byte => byte == 0xFF
    if empty then (.notFound, out) else (.ok, out)
  write flash _ _ := (.ok, flash)

/-- Both pages erased. -/
def stm32f1Erased : Stm32f1Flash := ⟨erasedConfig, erasedConfig⟩

end ClimateNode.Platforms
