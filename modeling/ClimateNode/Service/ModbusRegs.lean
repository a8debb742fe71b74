import ClimateNode.Core.Types
import ClimateNode.Machine.CheckedInt

/-!
# The register map

`service/modbus_regs.c`. `regValue` is the `switch` of `mb_regs_read`; a read of several registers
fails at the first address that has none. Only the three configuration registers can be written.
-/

set_option autoImplicit false

namespace ClimateNode.Service

open ClimateNode.Machine

def mbRegTempFilt : UInt16 := 0x0000
def mbRegRh : UInt16 := 0x0001
def mbRegDewPoint : UInt16 := 0x0002
def mbRelayState : UInt16 := 0x0003
def mbDevStatus : UInt16 := 0x0004
def mbErrCount : UInt16 := 0x0005
def mbUptimeLo : UInt16 := 0x0006
def mbUptimeHi : UInt16 := 0x0007
def mbCfgMarginOn : UInt16 := 0x0100
def mbCfgMarginOff : UInt16 := 0x0101
def mbCfgSampleMs : UInt16 := 0x0102

/-- `modbus_reg_map_t`. -/
structure ModbusRegMap where
  tempFiltCd : Int16
  rhCp : UInt16
  dewPointCd : Int16
  relayOn : Bool
  devStatus : UInt16
  errCount : UInt16
  uptimeMs : UInt32
  cfgMarginOnCd : Int16
  cfgMarginOffCd : Int16
  cfgSampleMs : UInt16
  deriving DecidableEq, Repr

/-- `mb_regs_init`. -/
def mbRegsInit : ModbusRegMap where
  tempFiltCd := 0
  rhCp := 0
  dewPointCd := 0
  relayOn := false
  devStatus := 0
  errCount := 0
  uptimeMs := 0
  cfgMarginOnCd := 500
  cfgMarginOffCd := 700
  cfgSampleMs := 1000

/-- `put_be16`. -/
def putBe16 (val : UInt16) : List UInt8 := [(val >>> 8).toUInt8, (val &&& 0xFF).toUInt8]

/-- Two payload bytes as a register number or value, high byte first. -/
def be16 (hi lo : UInt8) : UInt16 := (hi.toUInt16 <<< 8) ||| lo.toUInt16

/-- Reading a register's two bytes back gives its value. -/
theorem be16_putBe16 (x : UInt16) : be16 (x >>> 8).toUInt8 (x &&& 0xFF).toUInt8 = x :=
  joinBytes_split x

/-- The value of the register `addr`, or `none` where no register is mapped. -/
def regValue (regs : ModbusRegMap) (addr : UInt16) : Option UInt16 :=
  if addr = mbRegTempFilt then some regs.tempFiltCd.toUInt16
  else if addr = mbRegRh then some regs.rhCp
  else if addr = mbRegDewPoint then some regs.dewPointCd.toUInt16
  else if addr = mbRelayState then some (if regs.relayOn then 1 else 0)
  else if addr = mbDevStatus then some regs.devStatus
  else if addr = mbErrCount then some regs.errCount
  else if addr = mbUptimeLo then some (regs.uptimeMs &&& 0xFFFF).toUInt16
  else if addr = mbUptimeHi then some ((regs.uptimeMs >>> 16) &&& 0xFFFF).toUInt16
  else if addr = mbCfgMarginOn then some regs.cfgMarginOnCd.toUInt16
  else if addr = mbCfgMarginOff then some regs.cfgMarginOffCd.toUInt16
  else if addr = mbCfgSampleMs then some regs.cfgSampleMs
  else none

/-- The loop of `mb_regs_read` from the address `addr` on, `n` registers to go. -/
def mbRegsReadFrom (regs : ModbusRegMap) (addr : UInt16) : Nat → Option (List UInt8)
  | 0 => some []
  | n + 1 => do
      let val ← regValue regs addr
      let rest ← mbRegsReadFrom regs (addr + 1) n
      return putBe16 val ++ rest

/-- `mb_regs_read`: the bytes written to `out_data`, or `none` for `false`. -/
def mbRegsRead (regs : ModbusRegMap) (startAddr quantity : UInt16) (outCapacity : Nat) :
    Option (List UInt8) :=
  if quantity = 0 ∨ quantity > 125 then none
  else if outCapacity < quantity.toNat * 2 then none
  else mbRegsReadFrom regs startAddr quantity.toNat

/-- `mb_regs_write_single`: the map after the write, or `none` for `false`. -/
def mbRegsWriteSingle (regs : ModbusRegMap) (regAddr value : UInt16) : Option ModbusRegMap :=
  if regAddr = mbCfgMarginOn then some { regs with cfgMarginOnCd := value.toInt16 }
  else if regAddr = mbCfgMarginOff then some { regs with cfgMarginOffCd := value.toInt16 }
  else if regAddr = mbCfgSampleMs then
    if value = 0 then none else some { regs with cfgSampleMs := value }
  else none

/-! ## The quantity -/

/-- The quantities that are refused. -/
theorem quantity_refused_iff (quantity : UInt16) :
    (quantity = 0 ∨ quantity > 125) ↔ ¬ (1 ≤ quantity.toNat ∧ quantity.toNat ≤ 125) := by
  rw [← UInt16.toNat_inj, gt_iff_lt, UInt16.lt_iff_toNat_lt]
  show quantity.toNat = 0 ∨ 125 < quantity.toNat ↔ _
  omega

theorem quantity_accepted {quantity : UInt16} (h : ¬ (quantity = 0 ∨ quantity > 125)) :
    1 ≤ quantity.toNat ∧ quantity.toNat ≤ 125 :=
  not_not.1 (mt (quantity_refused_iff quantity).2 h)

/-! ## One register more -/

section Range

variable {regs : ModbusRegMap} {addr : UInt16}

/-- The address after `k` more is `k` after the next one. -/
theorem add_ofNat_succ (addr : UInt16) (k : Nat) :
    addr + UInt16.ofNat (k + 1) = addr + 1 + UInt16.ofNat k := by
  rw [UInt16.ofNat_add, UInt16.add_comm (UInt16.ofNat k), UInt16.add_assoc]
  rfl

theorem mbRegsReadFrom_none (h : regValue regs addr = none) (n : Nat) :
    mbRegsReadFrom regs addr (n + 1) = none := by
  rw [mbRegsReadFrom, h]
  rfl

theorem mbRegsReadFrom_some {val : UInt16} (h : regValue regs addr = some val) (n : Nat) :
    mbRegsReadFrom regs addr (n + 1) =
      (mbRegsReadFrom regs (addr + 1) n).map fun rest => putBe16 val ++ rest := by
  rw [mbRegsReadFrom, h]
  cases mbRegsReadFrom regs (addr + 1) n with
  | none => rfl
  | some rest => rfl

end Range

end ClimateNode.Service
