import ClimateNode.App.MainMcu
import ClimateNode.Machine.Runs

/-!
# The reported and the effective configuration

The register map reports the application's copy of the configuration, the controller uses its own.
After boot the controller uses the built-in defaults, whatever was loaded; after an applied write it
uses the written configuration as `ctrl_init` sanitises it. `ConfigEffective` says from the loaded
image and the writes of a run alone when the two agree, and `reported_iff_effective` that they agree
exactly then.
-/

set_option autoImplicit false

namespace ClimateNode.Application

open ClimateNode.Core ClimateNode.Service ClimateNode.Machine ClimateNode.Platforms

/-- A control task or a Modbus request at a time. -/
inductive NodeOp where
  | control (i : McuInput)
  | request (nowMs : UInt32) (req : ModbusRequest)

section Reported

variable {F : Type}

/-- One operation on the node. -/
def nodeStep (lut : DewpointLut) (d : FlashDriver F) (n : Node F) : NodeOp → Checked (Node F)
  | .control i => controlTask lut i n
  | .request nowMs req => .ok (handleModbusRequest d n nowMs req).1

/-- The three configuration registers in a read of them: two signed values and an unsigned one. -/
def decodeCfgRegs : List UInt8 → Option (Int × Int × Nat)
  | [a, b, c, d, e, f] =>
      some ((be16 a b).toInt16.toInt, (be16 c d).toInt16.toInt, (be16 e f).toNat)
  | _ => none

/-- A Modbus read of the configuration registers at `nowMs` returns the margins and the period that
the controller uses. -/
def ReportsEffective (n : Node F) (nowMs : UInt32) : Prop :=
  (mbRegsRead (syncRegisters n nowMs).regs mbCfgMarginOn 3 6).bind decodeCfgRegs =
    some (n.sys.app.ctrl.cfg.dewMarginOnCd.toInt, n.sys.app.ctrl.cfg.dewMarginOffCd.toInt,
      n.sys.app.ctrl.cfg.samplePeriodMs.toNat)

instance (n : Node F) (nowMs : UInt32) : Decidable (ReportsEffective n nowMs) := by
  unfold ReportsEffective
  infer_instance

/-- What a read of the configuration registers returns. -/
theorem read_cfgRegs (n : Node F) (nowMs : UInt32) :
    (mbRegsRead (syncRegisters n nowMs).regs mbCfgMarginOn 3 6).bind decodeCfgRegs =
      some (n.sys.app.cfg.dewMarginOnCd.toInt, n.sys.app.cfg.dewMarginOffCd.toInt,
        n.sys.app.cfg.samplePeriodMs.toNat) := by
  have hread : mbRegsRead (syncRegisters n nowMs).regs mbCfgMarginOn 3 6 =
      some (putBe16 n.sys.app.cfg.dewMarginOnCd.toUInt16 ++
        (putBe16 n.sys.app.cfg.dewMarginOffCd.toUInt16 ++
          (putBe16 n.sys.app.cfg.samplePeriodMs ++ []))) := rfl
  rw [hread]
  simp only [Option.bind_some, putBe16, List.cons_append, List.nil_append, decodeCfgRegs,
    be16_putBe16, Int16.toInt16_toUInt16]

/-- The three fields of the configuration that the registers hold. -/
def SameFields (a b : DeviceConfig) : Prop :=
  a.dewMarginOnCd = b.dewMarginOnCd ∧ a.dewMarginOffCd = b.dewMarginOffCd ∧
    a.samplePeriodMs = b.samplePeriodMs

/-- Writes to configurations with the same fields leave the same fields. -/
theorem modbusWrittenConfig_sameFields {a b : DeviceConfig} (h : SameFields a b)
    (regAddr value : UInt16) :
    (modbusWrittenConfig a regAddr value = none ∧ modbusWrittenConfig b regAddr value = none) ∨
      ∃ a' b', modbusWrittenConfig a regAddr value = some a' ∧
        modbusWrittenConfig b regAddr value = some b' ∧ SameFields a' b' := by
  obtain ⟨hon, hoff, hperiod⟩ := h
  unfold modbusWrittenConfig
  split_ifs
  · exact Or.inr ⟨_, _, rfl, rfl, rfl, hoff, hperiod⟩
  · exact Or.inr ⟨_, _, rfl, rfl, hon, rfl, hperiod⟩
  · exact Or.inl ⟨rfl, rfl⟩
  · exact Or.inr ⟨_, _, rfl, rfl, hon, hoff, rfl⟩
  · exact Or.inl ⟨rfl, rfl⟩

theorem requestedConfig_sameFields {a b : DeviceConfig} (h : SameFields a b)
    (req : ModbusRequest) :
    (requestedConfig a req = none ∧ requestedConfig b req = none) ∨
      ∃ a' b', requestedConfig a req = some a' ∧ requestedConfig b req = some b' ∧
        SameFields a' b' := by
  unfold requestedConfig
  split
  · split
    · exact modbusWrittenConfig_sameFields h _ _
    · exact Or.inl ⟨rfl, rfl⟩
  · exact Or.inl ⟨rfl, rfl⟩

/-! ## The writes of a run -/

/-- A configuration after some operations, with whether one of them was an accepted write. -/
structure CfgHistory where
  written : Bool
  cfg : DeviceConfig

/-- The accepted writes of one more operation. -/
def CfgHistory.next (h : CfgHistory) : NodeOp → CfgHistory
  | .control _ => h
  | .request _ req =>
      match requestedConfig h.cfg req with
      | none => h
      | some cfg => ⟨true, cfg⟩

/-- The accepted writes of `ops` on the loaded image `loaded`. -/
def cfgHistory (loaded : DeviceConfig) (ops : List NodeOp) : CfgHistory :=
  ops.foldl CfgHistory.next ⟨false, loaded⟩

theorem cfgHistory_snoc (loaded : DeviceConfig) (ops : List NodeOp) (op : NodeOp) :
    cfgHistory loaded (ops ++ [op]) = (cfgHistory loaded ops).next op := by
  simp only [cfgHistory, List.foldl_append, List.foldl_cons, List.foldl_nil]

/-- Before the first accepted write the loaded image has the built-in margins and period; after it
the margins are ordered and the period is not zero. -/
def ConfigEffective (loaded : DeviceConfig) (ops : List NodeOp) : Prop :=
  let h := cfgHistory loaded ops
  if h.written then h.cfg.dewMarginOnCd < h.cfg.dewMarginOffCd ∧ h.cfg.samplePeriodMs ≠ 0
  else h.cfg.dewMarginOnCd = 500 ∧ h.cfg.dewMarginOffCd = 700 ∧ h.cfg.samplePeriodMs = 1000

instance (loaded : DeviceConfig) (ops : List NodeOp) : Decidable (ConfigEffective loaded ops) := by
  unfold ConfigEffective
  infer_instance

/-- The node after the operations `ops` on the loaded image `loaded`. -/
structure CfgInv (loaded : DeviceConfig) (ops : List NodeOp) (n : Node F) : Prop where
  inv : CtrlInv n.sys.app.ctrl
  fields : SameFields n.sys.app.cfg (cfgHistory loaded ops).cfg
  unwritten : (cfgHistory loaded ops).written = false →
    n.sys.app.ctrl.cfg = ctrlEffectiveConfig controllerDefaults
  written : (cfgHistory loaded ops).written = true →
    n.sys.app.ctrl.cfg = ctrlEffectiveConfig (ctrlCfgOf n.sys.app.cfg)

theorem cfgInv_mcuBoot (d : FlashDriver F) (plat : Platform) (flash : F) (cause : ResetCause)
    (bootMs : UInt32) : CfgInv (appLoadedCfg d flash) [] (mcuBoot d plat flash cause bootMs) where
  inv := ctrlInv_initExtended _ _ cause
  fields := ⟨rfl, rfl, rfl⟩
  unwritten := fun _ => cfg_ctrlInitExtended _ _ cause
  written := nofun

/-- The control task changes neither the history nor the configurations. -/
theorem controlTask_cfgInv (lut : DewpointLut) (d : FlashDriver F) {loaded : DeviceConfig}
    {ops : List NodeOp} {n : Node F} (i : McuInput) (h : CfgInv loaded ops n) :
    ∃ n', nodeStep lut d n (.control i) = .ok n' ∧ CfgInv loaded (ops ++ [.control i]) n' := by
  obtain ⟨n', hn', hf⟩ := controlTask_facts lut i h.inv
  have hsame : cfgHistory loaded (ops ++ [.control i]) = cfgHistory loaded ops := by
    rw [cfgHistory_snoc, CfgHistory.next]
  refine ⟨n', hn', hf.inv, ?_, ?_, ?_⟩
  · rw [hsame, hf.cfg]
    exact h.fields
  · rw [hsame, hf.ctrlCfg]
    exact h.unwritten
  · rw [hsame, hf.ctrlCfg, hf.cfg]
    exact h.written

/-- A request asks for no change, or its image is stored and re-initialises the controller. -/
theorem handleModbusRequest_cfgInv {d : FlashDriver F}
    (hwrite : ∀ flash slot cfg, (d.write flash slot cfg).1 = .ok) {loaded : DeviceConfig}
    {ops : List NodeOp} {n : Node F} (nowMs : UInt32) (req : ModbusRequest)
    (h : CfgInv loaded ops n) :
    CfgInv loaded (ops ++ [.request nowMs req]) (handleModbusRequest d n nowMs req).1 := by
  have hsys := sys_handleModbusRequest d n nowMs req
  rcases requestedConfig_sameFields h.fields req with ⟨hnone, hnone'⟩ | ⟨a, b, ha, hb, hab⟩
  · -- the request changes neither the history nor the application
    rw [hnone] at hsys
    have hsame : cfgHistory loaded (ops ++ [.request nowMs req]) = cfgHistory loaded ops := by
      rw [cfgHistory_snoc, CfgHistory.next, hnone']
    refine ⟨?_, ?_, ?_, ?_⟩ <;> rw [hsys]
    · exact h.inv
    · rw [hsame]
      exact h.fields
    · rw [hsame]
      exact h.unwritten
    · rw [hsame]
      exact h.written
  · -- the finalised image is valid, and the flash takes it by assumption
    have happ : AppliesConfig d n.sys.flash (storageFinalize a) :=
      ⟨storageValidate_storageFinalize a, hwrite _ _ _⟩
    rw [ha] at hsys
    simp only [appUpdateConfig_of_applies happ] at hsys
    have hnew : cfgHistory loaded (ops ++ [.request nowMs req]) = ⟨true, b⟩ := by
      rw [cfgHistory_snoc, CfgHistory.next, hb]
    refine ⟨?_, ?_, ?_, ?_⟩ <;> rw [hsys]
    · exact ctrlInv_init _
    · rw [hnew]
      exact hab
    · rw [hnew]
      exact nofun
    · exact fun _ => rfl

/-- One operation keeps the relation to the history. -/
theorem nodeStep_cfgInv (lut : DewpointLut) {d : FlashDriver F}
    (hwrite : ∀ flash slot cfg, (d.write flash slot cfg).1 = .ok) {loaded : DeviceConfig}
    {ops : List NodeOp} {n : Node F} (op : NodeOp) (h : CfgInv loaded ops n) :
    ∃ n', nodeStep lut d n op = .ok n' ∧ CfgInv loaded (ops ++ [op]) n' := by
  cases op with
  | control i => exact controlTask_cfgInv lut d i h
  | request nowMs req => exact ⟨_, rfl, handleModbusRequest_cfgInv hwrite nowMs req h⟩

/-! ## Agreement -/

/-- The sanitised margins and period of a configuration are its own exactly when the margins are
ordered and the period is not zero. -/
theorem effective_eq_iff (cfg : DeviceConfig) :
    (some (cfg.dewMarginOnCd.toInt, cfg.dewMarginOffCd.toInt, cfg.samplePeriodMs.toNat) =
      some ((ctrlEffectiveConfig (ctrlCfgOf cfg)).dewMarginOnCd.toInt,
        (ctrlEffectiveConfig (ctrlCfgOf cfg)).dewMarginOffCd.toInt,
        (ctrlEffectiveConfig (ctrlCfgOf cfg)).samplePeriodMs.toNat)) ↔
      cfg.dewMarginOnCd < cfg.dewMarginOffCd ∧ cfg.samplePeriodMs ≠ 0 := by
  have hmargins := dewMargins_ctrlEffectiveConfig (ctrlCfgOf cfg)
  have hlt : (ctrlCfgOf cfg).dewMarginOnCd < (ctrlCfgOf cfg).dewMarginOffCd ↔
      cfg.dewMarginOnCd < cfg.dewMarginOffCd := by
    rw [Int32.lt_iff_toInt_lt, Int16.lt_iff_toInt_lt, ctrlCfgOf, Int16.toInt_toInt32,
      Int16.toInt_toInt32]
  have hperiod : (ctrlCfgOf cfg).samplePeriodMs = 0 ↔ cfg.samplePeriodMs = 0 := by
    rw [← UInt32.toNat_inj, ← UInt16.toNat_inj, ctrlCfgOf, UInt16.toNat_toUInt32]
    rfl
  rw [samplePeriodMs_ctrlEffectiveConfig]
  simp only [hlt] at hmargins
  simp only [hperiod]
  by_cases hord : cfg.dewMarginOnCd < cfg.dewMarginOffCd
  · rw [if_pos hord] at hmargins
    injection hmargins with hon hoff
    rw [hon, hoff]
    -- a period of zero is replaced by 1000
    by_cases hp : cfg.samplePeriodMs = 0
    · simp [hp]
    · simp [hp, hord, ctrlCfgOf]
  · rw [if_neg hord] at hmargins
    injection hmargins with hon hoff
    rw [hon, hoff]
    refine ⟨fun heq => ?_, fun h => absurd h.1 hord⟩
    -- equal to the default margins, the reported ones would be ordered
    injection heq with heq
    injection heq with hon' hrest
    injection hrest with hoff' _
    refine absurd ?_ hord
    rw [Int16.lt_iff_toInt_lt, hon', hoff']
    decide

theorem default_eq_iff (cfg : DeviceConfig) :
    (some (cfg.dewMarginOnCd.toInt, cfg.dewMarginOffCd.toInt, cfg.samplePeriodMs.toNat) =
      some ((ctrlEffectiveConfig controllerDefaults).dewMarginOnCd.toInt,
        (ctrlEffectiveConfig controllerDefaults).dewMarginOffCd.toInt,
        (ctrlEffectiveConfig controllerDefaults).samplePeriodMs.toNat)) ↔
      cfg.dewMarginOnCd = 500 ∧ cfg.dewMarginOffCd = 700 ∧ cfg.samplePeriodMs = 1000 := by
  rw [← Int16.toInt_inj, ← Int16.toInt_inj (y := 700), ← UInt16.toNat_inj, Option.some_inj,
    Prod.mk.injEq, Prod.mk.injEq]
  rfl

/-- After every run from boot the reported configuration is the effective one exactly when the
loaded image and the accepted writes of the run say so. -/
theorem reported_iff_effective (lut : DewpointLut) (d : FlashDriver F) (plat : Platform)
    (flash : F) (cause : ResetCause) (bootMs nowMs : UInt32) (ops : List NodeOp)
    (hwrite : ∀ flash slot cfg, (d.write flash slot cfg).1 = .ok) :
    ∃ n, run (nodeStep lut d) (mcuBoot d plat flash cause bootMs) ops = .ok n ∧
      (ReportsEffective n nowMs ↔ ConfigEffective (appLoadedCfg d flash) ops) := by
  obtain ⟨n, hn, h⟩ := run_of_history (R := fun ops (n : Node F) =>
      CfgInv (appLoadedCfg d flash) ops n) (A := fun _ => True)
    (cfgInv_mcuBoot d plat flash cause bootMs)
    (fun _ _ op h _ => nodeStep_cfgInv lut hwrite op h) ops fun _ _ => trivial
  refine ⟨n, hn, ?_⟩
  obtain ⟨hon, hoff, hperiod⟩ := h.fields
  rw [ReportsEffective, read_cfgRegs, ConfigEffective]
  cases hw : (cfgHistory (appLoadedCfg d flash) ops).written with
  | false => rw [h.unwritten hw, default_eq_iff, hon, hoff, hperiod, if_neg (by decide)]
  | true => rw [h.written hw, effective_eq_iff, hon, hoff, hperiod, if_pos rfl]

end Reported

/-- The write request of `value` to the register `regAddr`, for the server's address. -/
def writeRequest (regAddr value : UInt16) : ModbusRequest :=
  ⟨1, 0x06, putBe16 regAddr ++ putBe16 value⟩

theorem reported_iff_effective_period :
    ∃ n, run (nodeStep dewpointLnRhQ10 stm32f1Flash)
        (mcuBoot stm32f1Flash ⟨[], 0⟩ stm32f1Erased .powerOn 0)
        [.request 0 (writeRequest mbCfgSampleMs 900)] = .ok n ∧ ReportsEffective n 0 := by
  obtain ⟨n, hn, hiff⟩ := reported_iff_effective dewpointLnRhQ10 stm32f1Flash ⟨[], 0⟩ stm32f1Erased
    .powerOn 0 0 [.request 0 (writeRequest mbCfgSampleMs 900)] fun _ _ _ => rfl
  exact ⟨n, hn, hiff.2 (by decide +kernel)⟩

/-- After a write of 800 to the switch-on margin the registers report margins of 800 and 700, and
the controller uses 500 and 700. -/
theorem reported_not_effective_after_write :
    ¬ ∀ (F : Type) (lut : DewpointLut) (d : FlashDriver F) (plat : Platform) (flash : F)
      (cause : ResetCause) (bootMs nowMs : UInt32) (ops : List NodeOp),
      (∀ flash slot cfg, (d.write flash slot cfg).1 = .ok) →
      ∃ n, run (nodeStep lut d) (mcuBoot d plat flash cause bootMs) ops = .ok n ∧
        ReportsEffective n nowMs := by
  intro h
  obtain ⟨n, hn, hreports⟩ := h Stm32f1Flash dewpointLnRhQ10 stm32f1Flash ⟨[], 0⟩ stm32f1Erased
    .powerOn 0 0 [.request 0 (writeRequest mbCfgMarginOn 800)] fun _ _ _ => rfl
  have hend : (run (nodeStep dewpointLnRhQ10 stm32f1Flash)
      (mcuBoot stm32f1Flash ⟨[], 0⟩ stm32f1Erased .powerOn 0)
      [.request 0 (writeRequest mbCfgMarginOn 800)]).toOption.map
        (fun n => decide (ReportsEffective n 0)) = some false := by
    decide +kernel
  rw [hn] at hend
  injection hend with hfalse
  exact of_decide_eq_false hfalse hreports

end ClimateNode.Application
