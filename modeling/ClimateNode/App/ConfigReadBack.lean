import ClimateNode.App.EffectiveConfig
import ClimateNode.App.RegisterReads

/-!
# Reading back a written configuration

A write request goes through two `switch` statements, one in the register map and one in the
application, and the map is overwritten from the application before the next request is answered.
Both accept the same writes, and the application keeps an accepted value whatever the flash returns,
so an accepted write is what the next read of the configuration registers returns, and a refused one
changes none of them (`config_registers_read_back`).
-/

set_option autoImplicit false

namespace ClimateNode.Application

open ClimateNode.Core ClimateNode.Service ClimateNode.Machine ClimateNode.Platforms

/-- A configuration register. -/
def IsCfgReg (addr : UInt16) : Prop :=
  addr = mbCfgMarginOn ∨ addr = mbCfgMarginOff ∨ addr = mbCfgSampleMs

/-- No write request. -/
def NotWrite : NodeOp → Prop
  | .control _ => True
  | .request _ req => req.function ≠ 0x06

/-- The value of a configuration register. -/
def cfgRegValue (cfg : DeviceConfig) (addr : UInt16) : UInt16 :=
  if addr = mbCfgMarginOn then cfg.dewMarginOnCd.toUInt16
  else if addr = mbCfgMarginOff then cfg.dewMarginOffCd.toUInt16
  else cfg.samplePeriodMs

section Registers

/-- A configuration register holds the value of the application's copy. -/
theorem regValue_cfg {F : Type} (n : Node F) (nowMs : UInt32) {addr : UInt16} (h : IsCfgReg addr) :
    regValue (syncRegisters n nowMs).regs addr = some (cfgRegValue n.sys.app.cfg addr) := by
  rcases h with rfl | rfl | rfl
  · rfl
  · rfl
  · rfl

/-- The written field holds the written value, and the others keep theirs. -/
theorem cfgRegValue_written {cfg cfg' : DeviceConfig} {regAddr value addr : UInt16}
    (h : modbusWrittenConfig cfg regAddr value = some cfg') (haddr : IsCfgReg addr) :
    cfgRegValue (storageFinalize cfg') addr =
      if addr = regAddr then value else cfgRegValue cfg addr := by
  have h₁ : mbCfgMarginOff ≠ mbCfgMarginOn := by decide
  have h₂ : mbCfgSampleMs ≠ mbCfgMarginOn := by decide
  have h₃ : mbCfgSampleMs ≠ mbCfgMarginOff := by decide
  -- one register is written, and each of the three may be the one that is read
  unfold modbusWrittenConfig at h
  split_ifs at h with hreg hreg hreg
  all_goals
    cases h
    subst hreg
    rcases haddr with rfl | rfl | rfl <;>
      simp [cfgRegValue, storageFinalize, h₁, h₂, h₃, h₁.symm, h₂.symm, h₃.symm]

theorem isCfgReg_of_written {cfg cfg' : DeviceConfig} {regAddr value : UInt16}
    (h : modbusWrittenConfig cfg regAddr value = some cfg') : IsCfgReg regAddr := by
  unfold modbusWrittenConfig at h
  split_ifs at h with hreg hreg hreg
  · exact Or.inl hreg
  · exact Or.inr (Or.inl hreg)
  · exact Or.inr (Or.inr hreg)

end Registers

/-! ## Requests -/

section Requests

variable {F : Type} (d : FlashDriver F)

/-- A valid image becomes the application's copy whatever the flash returns. -/
theorem cfg_appUpdateConfig {σ : AppSys F} {newCfg : DeviceConfig}
    (h : storageValidate newCfg = true) : (appUpdateConfig d σ newCfg).2.app.cfg = newCfg := by
  by_cases hwrite : (d.write σ.flash 0 newCfg).1 = .ok
  · rw [appUpdateConfig_of_applies ⟨h, hwrite⟩]
  · simp [appUpdateConfig, h, storageSave_of_valid d σ.flash h, hwrite]

/-- Two bytes are those of the value they are read as. -/
theorem putBe16_be16 (hi lo : UInt8) : putBe16 (be16 hi lo) = [hi, lo] := by
  have hswap : be16 hi lo = receivedCrc lo hi := UInt16.or_comm _ _
  have htail := (receivedCrc_eq_iff (be16 hi lo) lo hi).1 hswap
  simp only [crcTail, List.cons.injEq, and_true] at htail
  rw [putBe16, htail.1, htail.2]

/-- What an accepted write leaves: the answer is the echo, and the application holds the finalised
configuration with the written field. -/
structure WriteAccepted (n n' : Node F) (req : ModbusRequest) (resp : List UInt8)
    (regAddr value : UInt16) (cfg : DeviceConfig) : Prop where
  echo : resp = writeEcho req
  data : req.data = putBe16 regAddr ++ putBe16 value
  written : modbusWrittenConfig n.sys.app.cfg regAddr value = some cfg
  cfg_eq : n'.sys.app.cfg = storageFinalize cfg

/-- What a refused write leaves: the answer is an exception, and the application is as it was. -/
structure WriteRefused (n n' : Node F) (resp : List UInt8) : Prop where
  exception : resp.getD 1 0 = 0x06 ||| 0x80
  sys_eq : n'.sys = n.sys

/-- A write request is accepted or refused. -/
theorem write_answered (n : Node F) (nowMs : UInt32) {req : ModbusRequest}
    (hfun : req.function = 0x06) :
    (∃ regAddr value cfg, WriteAccepted n (handleModbusRequest d n nowMs req).1 req
        (handleModbusRequest d n nowMs req).2 regAddr value cfg) ∨
      WriteRefused n (handleModbusRequest d n nowMs req).1
        (handleModbusRequest d n nowMs req).2 := by
  obtain ⟨slaveAddr, function, data⟩ := req
  obtain rfl : function = 0x06 := hfun
  by_cases hdata : ∃ d0 d1 d2 d3, data = [d0, d1, d2, d3]
  · obtain ⟨d0, d1, d2, d3, rfl⟩ := hdata
    have hanswer := answer_write d n nowMs slaveAddr d0 d1 d2 d3
    have hsys := sys_handleWrite d n nowMs slaveAddr d0 d1 d2 d3
    cases hwritten : modbusWrittenConfig n.sys.app.cfg (be16 d0 d1) (be16 d2 d3) with
    | none =>
        rw [if_pos hwritten] at hanswer
        rw [applyModbusWriteToApp, hwritten] at hsys
        exact Or.inr ⟨by rw [hanswer]; rfl, hsys⟩
    | some cfg =>
        rw [if_neg (by rw [hwritten]; exact Option.some_ne_none cfg)] at hanswer
        rw [applyModbusWriteToApp, hwritten] at hsys
        refine Or.inl ⟨be16 d0 d1, be16 d2 d3, cfg, hanswer, ?_, hwritten, ?_⟩
        · rw [putBe16_be16, putBe16_be16]
          rfl
        · rw [hsys]
          exact cfg_appUpdateConfig d (storageValidate_storageFinalize cfg)
  · -- without four data bytes nothing is looked up
    have hhandle : handleModbusRequest d n nowMs ⟨slaveAddr, 0x06, data⟩ =
        (syncRegisters n nowMs,
          exceptionResponse ⟨slaveAddr, 0x06, data⟩ 0x06 modbusExIllegalDataVal) := by
      show handleWrite d (syncRegisters n nowMs) ⟨slaveAddr, 0x06, data⟩ = _
      unfold handleWrite
      split
      · next d0 d1 d2 d3 h => exact absurd ⟨d0, d1, d2, d3, h⟩ hdata
      · rfl
    rw [hhandle]
    exact Or.inr ⟨rfl, rfl⟩

/-- A call of `app_task` keeps the application's copy. -/
theorem cfg_appTask {lut : DewpointLut} {σ : AppSys F} {nowMs : UInt32} {read : Err × Sample}
    {r : AppTaskStep F} (h : appTask lut σ nowMs read = .ok r) :
    r.sys.app.cfg = σ.app.cfg := by
  unfold appTask at h
  split at h
  · obtain ⟨c, -, h⟩ := checked_bind_eq_ok h
    cases h
    unfold appMirrorRelay
    split
    · rfl
    · rfl
  · cases h
    rfl

/-- An operation that is no write keeps the application's copy. -/
theorem cfg_nodeStep {lut : DewpointLut} {n n' : Node F} {op : NodeOp} (hop : NotWrite op)
    (h : nodeStep lut d n op = .ok n') : n'.sys.app.cfg = n.sys.app.cfg := by
  cases op with
  | control i =>
      obtain ⟨r, hr, h⟩ := checked_bind_eq_ok h
      have hcfg := cfg_appTask hr
      split at h
      · cases h
        exact hcfg
      · cases h
        exact hcfg
  | request nowMs req =>
      cases h
      have hsys := sys_handleModbusRequest d n nowMs req
      rw [requestedConfig, if_neg hop] at hsys
      rw [hsys]

/-- What a read returns for a configuration register. -/
theorem readsAs_cfg_iff (n : Node F) (nowMs : UInt32) {addr v : UInt16} (h : IsCfgReg addr) :
    ReadsAs d n nowMs addr v ↔ v = cfgRegValue n.sys.app.cfg addr := by
  rw [readsAs_iff, regValue_cfg n nowMs h, Option.some_inj, eq_comm]

end Requests

/-! ## The law -/

section ReadBack

variable {F : Type}

/-- A read of `quantity` registers from `start` on covers configuration registers only. -/
def CoversCfg (start quantity : UInt16) : Prop :=
  mbCfgMarginOn.toNat ≤ start.toNat ∧ 1 ≤ quantity.toNat ∧
    start.toNat + quantity.toNat ≤ mbCfgSampleMs.toNat + 1

/-- A read of configuration registers is always answered with values. -/
theorem isSome_readReply_cfg (d : FlashDriver F) (n : Node F) (nowMs : UInt32) (slaveAddr : UInt8)
    {start quantity : UInt16} (h : CoversCfg start quantity) :
    (readReply (handleModbusRequest d n nowMs (readRequest slaveAddr start quantity)).2).isSome =
      true := by
  obtain ⟨hlo, hpos, hhi⟩ := h
  have hon : mbCfgMarginOn.toNat = 256 := rfl
  have hsample : mbCfgSampleMs.toNat = 258 := rfl
  have hread : (readReply (handleModbusRequest d n nowMs
      (readRequest slaveAddr start quantity)).2) = _ :=
    readReply_readResponse (syncRegisters n nowMs).regs slaveAddr start quantity
  have hcount : ¬ (quantity = 0 ∨ quantity > 125) := by
    rw [← UInt16.toNat_inj, gt_iff_lt, UInt16.lt_iff_toNat_lt]
    show ¬ (quantity.toNat = 0 ∨ 125 < quantity.toNat)
    omega
  rw [hread, if_neg hcount]
  refine isSome_regRange fun k hk => ?_
  have hsum : (start + UInt16.ofNat k).toNat = start.toNat + k := by
    rw [UInt16.toNat_add, UInt16.toNat_ofNat']
    omega
  have haddr : IsCfgReg (start + UInt16.ofNat k) := by
    simp only [IsCfgReg, ← UInt16.toNat_inj, hsum, hon, hsample]
    show _ ∨ start.toNat + k = 257 ∨ _
    omega
  rw [regValue_cfg n nowMs haddr]
  rfl

/-- What a read of the node `n'` returns for a configuration register is what a read of `n`
returned, and `value` for `regAddr`. -/
def ReadsBackWritten (d : FlashDriver F) (n n' : Node F) (regAddr value : UInt16) : Prop :=
  ∀ addr, IsCfgReg addr → ∀ beforeMs afterMs v v', ReadsAs d n beforeMs addr v →
    ReadsAs d n' afterMs addr v' → v' = if addr = regAddr then value else v

/-- A write request that is echoed is read back, at its own register and with the previous values at
the others, from every node that operations without a write lead to, whatever the flash returned. A
write request that is answered with an exception changes neither the application's copy nor what is
read. The map and the application accept the same writes, and a read of configuration registers is
always answered. -/
theorem config_registers_read_back (lut : DewpointLut) (d : FlashDriver F) (n : Node F)
    (nowMs : UInt32) {req : ModbusRequest} (hfun : req.function = 0x06) :
    ((handleModbusRequest d n nowMs req).2 = writeEcho req →
      ∃ regAddr value, IsCfgReg regAddr ∧ req.data = putBe16 regAddr ++ putBe16 value ∧
        ∀ ops n', (∀ op ∈ ops, NotWrite op) →
          run (nodeStep lut d) (handleModbusRequest d n nowMs req).1 ops = .ok n' →
            ReadsBackWritten d n n' regAddr value) ∧
    ((handleModbusRequest d n nowMs req).2.getD 1 0 = 0x06 ||| 0x80 →
      (handleModbusRequest d n nowMs req).1.sys.app.cfg = n.sys.app.cfg ∧
        ∀ addr, IsCfgReg addr → ∀ beforeMs afterMs v,
          ReadsAs d (handleModbusRequest d n nowMs req).1 afterMs addr v ↔
            ReadsAs d n beforeMs addr v) ∧
    (∀ regs cfg regAddr value, mbRegsWriteSingle regs regAddr value = none ↔
      modbusWrittenConfig cfg regAddr value = none) ∧
    ∀ (m : Node F) readMs slaveAddr start quantity, CoversCfg start quantity →
      (readReply (handleModbusRequest d m readMs (readRequest slaveAddr start quantity)).2).isSome =
        true := by
  -- the function byte tells the echo from an exception
  have hbyte : (writeEcho req).getD 1 0 ≠ 0x06 ||| 0x80 := by
    show (0x06 : UInt8) ≠ 0x06 ||| 0x80
    decide
  refine ⟨fun hecho => ?_, fun hexception => ?_, mbRegsWriteSingle_eq_none_iff,
    fun m readMs slaveAddr start quantity => isSome_readReply_cfg d m readMs slaveAddr⟩
  · rcases write_answered d n nowMs hfun with ⟨regAddr, value, cfg, hacc⟩ | href
    · refine ⟨regAddr, value, isCfgReg_of_written hacc.written, hacc.data, ?_⟩
      intro ops n' hops hrun addr haddr beforeMs afterMs v v' hv hv'
      have hkept : n'.sys.app.cfg = storageFinalize cfg :=
        run_keeps (P := fun m => m.sys.app.cfg = storageFinalize cfg) (A := NotWrite)
          (fun m op m' hop hm hstep => (cfg_nodeStep d hop hstep).trans hm) hops hacc.cfg_eq hrun
      rw [readsAs_cfg_iff d _ _ haddr] at hv hv'
      rw [hv', hv, hkept, cfgRegValue_written hacc.written haddr]
    · rw [hecho] at href
      exact absurd href.exception hbyte
  · rcases write_answered d n nowMs hfun with ⟨regAddr, value, cfg, hacc⟩ | href
    · rw [hacc.echo] at hexception
      exact absurd hexception hbyte
    · refine ⟨by rw [href.sys_eq], fun addr haddr beforeMs afterMs v => ?_⟩
      rw [readsAs_cfg_iff d _ _ haddr, readsAs_cfg_iff d _ _ haddr, href.sys_eq]

/-- A write of 800 to the switch-on margin is read back, and a write to the humidity is refused. -/
theorem config_registers_read_back_margin :
    ReadsAs stm32f1Flash
        (handleModbusRequest stm32f1Flash bootedNode 0 (writeRequest mbCfgMarginOn 800)).1 7
        mbCfgMarginOn 800 ∧
      (handleModbusRequest stm32f1Flash bootedNode 0 (writeRequest mbRegRh 800)).1.sys.app.cfg =
        bootedNode.sys.app.cfg := by
  constructor
  · have hwrite : (writeRequest mbCfgMarginOn 800).function = 0x06 := rfl
    obtain ⟨regAddr, value, -, hdata, hread⟩ :=
      (config_registers_read_back dewpointLnRhQ10 stm32f1Flash bootedNode 0 hwrite).1
        (by decide +kernel)
    have hregs := congrArg decodeRegs hdata
    simp only [writeRequest, putBe16, List.cons_append, List.nil_append, decodeRegs, be16_putBe16,
      List.cons.injEq, and_true] at hregs
    obtain ⟨rfl, rfl⟩ := hregs
    have haddr : IsCfgReg mbCfgMarginOn := Or.inl rfl
    have hafter := (readsAs_cfg_iff stm32f1Flash (handleModbusRequest stm32f1Flash bootedNode 0
      (writeRequest mbCfgMarginOn 800)).1 7 haddr).2 rfl
    have hbefore := (readsAs_cfg_iff stm32f1Flash bootedNode 0 haddr).2 rfl
    have hquiet : ∀ op ∈ ([] : List NodeOp), NotWrite op := by
      rintro op ⟨⟩
    have heq := hread [] _ hquiet rfl _ haddr 0 7 _ _ hbefore hafter
    rw [heq, if_pos rfl] at hafter
    exact hafter
  · have hwrite : (writeRequest mbRegRh 800).function = 0x06 := rfl
    exact ((config_registers_read_back dewpointLnRhQ10 stm32f1Flash bootedNode 0 hwrite).2.1
      (by decide +kernel)).1

end ReadBack

end ClimateNode.Application
