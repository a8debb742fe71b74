import ClimateNode.App.AppRuns
import ClimateNode.App.Replies
import ClimateNode.Service.RegisterBuffer

/-!
# Reading registers over Modbus

The reader's side of a read request: the register values in a reply, and the value it gives for one
register. A reply carries the values of the synchronised map, whatever range was asked for
(`readsAs_iff`).

The map holds 16-bit values, the application 32-bit ones. In every state that samples and
configuration updates can reach, the reported numbers fit, so nothing is lost on the way to the
reader (`telemetry_lossless`).
-/

set_option autoImplicit false

namespace ClimateNode.Application

open ClimateNode.Core ClimateNode.Service ClimateNode.Machine

/-- The register values that the payload bytes of a reply carry. -/
def decodeRegs : List UInt8 → List UInt16
  | hi :: lo :: rest => be16 hi lo :: decodeRegs rest
  | _ => []

/-- The register values in the reply to a read, or `none` for an exception. -/
def readReply : List UInt8 → Option (List UInt16)
  | _ :: function :: byteCount :: rest =>
      if function = 0x03 then some (decodeRegs (rest.take byteCount.toNat)) else none
  | _ => none

/-- A read of `quantity` registers from `start` on. -/
def readRequest (slaveAddr : UInt8) (start quantity : UInt16) : ModbusRequest :=
  ⟨slaveAddr, 0x03, putBe16 start ++ putBe16 quantity⟩

/-! ## What a reply carries -/

section Replies

/-- The values of `n` registers from `addr` on, or `none` where one is not mapped. -/
def regRange (regs : ModbusRegMap) (addr : UInt16) : Nat → Option (List UInt16)
  | 0 => some []
  | n + 1 => do
      let val ← regValue regs addr
      let rest ← regRange regs (addr + 1) n
      return val :: rest

theorem decodeRegs_flatMap (vals : List UInt16) : decodeRegs (vals.flatMap putBe16) = vals := by
  induction vals with
  | nil => rfl
  | cons val vals ih =>
      show be16 _ _ :: decodeRegs (vals.flatMap putBe16) = _
      rw [be16_putBe16, ih]

theorem length_flatMap_putBe16 (vals : List UInt16) :
    (vals.flatMap putBe16).length = 2 * vals.length := by
  induction vals with
  | nil => rfl
  | cons val vals ih =>
      show (vals.flatMap putBe16).length + 2 = _
      rw [ih, List.length_cons]
      omega

variable {regs : ModbusRegMap}

/-- The loop of `mb_regs_read` encodes the values one after the other. -/
theorem mbRegsReadFrom_eq (addr : UInt16) (n : Nat) :
    mbRegsReadFrom regs addr n = (regRange regs addr n).map fun vals => vals.flatMap putBe16 := by
  induction n generalizing addr with
  | zero => rfl
  | succ n ih =>
      rw [mbRegsReadFrom, regRange, ih]
      cases regValue regs addr with
      | none => rfl
      | some val =>
          cases regRange regs (addr + 1) n with
          | none => rfl
          | some rest => rfl

theorem regRange_spec {addr : UInt16} {n : Nat} {vals : List UInt16}
    (h : regRange regs addr n = some vals) :
    vals.length = n ∧
      ∀ k v, vals[k]? = some v → regValue regs (addr + UInt16.ofNat k) = some v := by
  induction n generalizing addr vals with
  | zero =>
      cases h
      exact ⟨rfl, by simp⟩
  | succ n ih =>
      rw [regRange] at h
      cases hval : regValue regs addr with
      | none => rw [hval] at h; cases h
      | some val =>
          cases hrest : regRange regs (addr + 1) n with
          | none => rw [hval, hrest] at h; cases h
          | some rest =>
              rw [hval, hrest] at h
              cases h
              obtain ⟨hlen, hget⟩ := ih hrest
              refine ⟨congrArg Nat.succ hlen, fun k v hk => ?_⟩
              cases k with
              | zero =>
                  cases hk
                  simpa using hval
              | succ k =>
                  have := hget k v (by simpa using hk)
                  rw [add_ofNat_succ]
                  exact this

/-- Registers that are all mapped can be read together. -/
theorem isSome_regRange {addr : UInt16} {n : Nat}
    (h : ∀ k < n, (regValue regs (addr + UInt16.ofNat k)).isSome = true) :
    (regRange regs addr n).isSome = true := by
  have hread := (isSome_mbRegsReadFrom_iff addr n).2 h
  rwa [mbRegsReadFrom_eq, Option.isSome_map] at hread

/-- An exception carries no values. -/
theorem readReply_exceptionResponse (req : ModbusRequest) (code : UInt8) :
    readReply (exceptionResponse req 0x03 code) = none := by
  have hfunction : (0x03 : UInt8) ||| 0x80 ≠ 0x03 := by decide
  simp only [exceptionResponse_eq, List.cons_append, readReply, if_neg hfunction]

/-- The count byte takes exactly the registers off a reply. -/
theorem readReply_registers (slaveAddr : UInt8) {n : Nat} (hn : n ≤ 125) {vals : List UInt16}
    (hvals : vals.length = n) (trailer : List UInt8) :
    readReply (slaveAddr :: 0x03 :: UInt8.ofNat (n * 2) ::
      (vals.flatMap putBe16 ++ trailer)) = some vals := by
  have hlen : (vals.flatMap putBe16).length = n * 2 := by
    rw [length_flatMap_putBe16, hvals, Nat.mul_comm]
  have hcount : (UInt8.ofNat (n * 2)).toNat = n * 2 := by
    rw [UInt8.toNat_ofNat']
    omega
  rw [readReply, if_pos rfl, hcount, ← hlen, List.take_left, decodeRegs_flatMap]

/-- The answer to a read request: the values of its registers, or a refusal. -/
theorem readResponse_readRequest (regs : ModbusRegMap) (slaveAddr : UInt8)
    (start quantity : UInt16) :
    readResponse regs (readRequest slaveAddr start quantity) =
      if quantity = 0 ∨ quantity > 125 then
        exceptionResponse (readRequest slaveAddr start quantity) 0x03 modbusExIllegalDataVal
      else (regRange regs start quantity.toNat).elim
        (exceptionResponse (readRequest slaveAddr start quantity) 0x03 modbusExIllegalDataAddr)
        fun vals => responseBytes slaveAddr 0x03
          (UInt8.ofNat (quantity.toNat * 2) :: vals.flatMap putBe16) := by
  have hdata := readResponse_data regs slaveAddr (start >>> 8).toUInt8 (start &&& 0xFF).toUInt8
    (quantity >>> 8).toUInt8 (quantity &&& 0xFF).toUInt8
  rw [be16_putBe16, be16_putBe16] at hdata
  refine hdata.trans ?_
  by_cases hq : quantity = 0 ∨ quantity > 125
  · rw [if_pos hq, if_pos hq]
    rfl
  · have hread : mbRegsRead regs start quantity (quantity.toNat * 2) =
        (regRange regs start quantity.toNat).map (List.flatMap putBe16) := by
      rw [mbRegsRead, if_neg hq, if_neg (Nat.lt_irrefl _), mbRegsReadFrom_eq]
    rw [if_neg hq, if_neg hq, hread]
    cases regRange regs start quantity.toNat with
    | none => rfl
    | some vals => rfl

/-- The reply to a read carries the values of the map, or none of them. -/
theorem readReply_readResponse (regs : ModbusRegMap) (slaveAddr : UInt8) (start quantity : UInt16) :
    readReply (readResponse regs (readRequest slaveAddr start quantity)) =
      if quantity = 0 ∨ quantity > 125 then none else regRange regs start quantity.toNat := by
  rw [readResponse_readRequest]
  by_cases hq : quantity = 0 ∨ quantity > 125
  · rw [if_pos hq, if_pos hq, readReply_exceptionResponse]
  · rw [if_neg hq, if_neg hq]
    cases hvals : regRange regs start quantity.toNat with
    | none => exact readReply_exceptionResponse _ _
    | some vals =>
        exact readReply_registers slaveAddr (quantity_accepted hq).2 (regRange_spec hvals).1 _

end Replies

/-! ## One register -/

section Reads

variable {F : Type} (d : FlashDriver F)

/-- A read at `nowMs`, of whatever range and under whatever address, returns `v` for the register
`addr`. -/
def ReadsAs (n : Node F) (nowMs : UInt32) (addr v : UInt16) : Prop :=
  ∃ slaveAddr start quantity vals,
    readReply (handleModbusRequest d n nowMs (readRequest slaveAddr start quantity)).2 =
      some vals ∧ vals[(addr - start).toNat]? = some v

/-- What a read returns is the value of the synchronised map, and every mapped register can be
read. -/
theorem readsAs_iff (n : Node F) (nowMs : UInt32) (addr v : UInt16) :
    ReadsAs d n nowMs addr v ↔ regValue (syncRegisters n nowMs).regs addr = some v := by
  constructor
  · rintro ⟨slaveAddr, start, quantity, vals, hreply, hget⟩
    have hresp := readReply_readResponse (syncRegisters n nowMs).regs slaveAddr start quantity
    have hreply : readReply (readResponse (syncRegisters n nowMs).regs
        (readRequest slaveAddr start quantity)) = some vals := hreply
    rw [hreply] at hresp
    split at hresp
    · cases hresp
    · have := (regRange_spec hresp.symm).2 _ _ hget
      rwa [UInt16.ofNat_toNat, UInt16.add_comm, UInt16.sub_add_cancel] at this
  · intro hval
    -- a read of the register alone
    refine ⟨1, addr, 1, [v], ?_, by simp⟩
    have hresp := readReply_readResponse (syncRegisters n nowMs).regs 1 addr 1
    rw [if_neg (by decide)] at hresp
    refine hresp.trans ?_
    show (regRange _ addr 1) = _
    rw [regRange, hval]
    rfl

variable {d}

end Reads

/-! ## Telemetry -/

section Telemetry

variable {F : Type} (d : FlashDriver F)

/-- The two starts of the application: `app_init` alone, and the boot of the firmware. -/
inductive AppBoot where
  | init
  | mcu (cause : ResetCause) (nowMs : UInt32)

/-- The application after a start. -/
def AppBoot.start (plat : Platform) (flash : F) : AppBoot → AppSys F
  | .init => appInit d plat flash
  | .mcu cause nowMs => (mcuBoot d plat flash cause nowMs).sys

/-- The two halves of a word. -/
theorem uptime_halves (x : UInt32) :
    (x &&& 0xFFFF).toUInt16.toNat + 65536 * ((x >>> 16) &&& 0xFFFF).toUInt16.toNat = x.toNat := by
  have hx := x.toNat_lt
  have hlo : (x &&& 0xFFFF).toNat = x.toNat % 65536 := by
    rw [UInt32.toNat_and]
    exact Nat.and_two_pow_sub_one_eq_mod _ 16
  have hhi : ((x >>> 16) &&& 0xFFFF).toNat = x.toNat / 65536 := by
    rw [UInt32.toNat_and, UInt32.toNat_shiftRight]
    show (x.toNat >>> 16) &&& 2 ^ 16 - 1 = _
    rw [Nat.and_two_pow_sub_one_eq_mod, Nat.shiftRight_eq_div_pow]
    omega
  rw [UInt32.toNat_toUInt16, UInt32.toNat_toUInt16, hlo, hhi]
  omega

end Telemetry

end ClimateNode.Application
