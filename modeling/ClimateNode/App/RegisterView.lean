import ClimateNode.App.ConfigReadBack
import ClimateNode.Service.RegisterDevice

/-!
# The node as a register device

`registerDevice` is the device that a node shows to its master: the status values of its report,
its start time and the application's copy of the configuration. Handling a well-shaped request is
serving it: the response is the frame of the device's reply, and the node afterwards shows the
device afterwards, but for the status values, which an applied write sets back
(`handleModbusRequest_serves`).
-/

set_option autoImplicit false

namespace ClimateNode.Application

open ClimateNode.Core ClimateNode.Service ClimateNode.Machine

variable {F : Type}

/-- The status values of a node. -/
def telemetryOf (n : Node F) : Telemetry :=
  let r := appReport n.sys.app
  { tempFilt := r.filteredTempCd.toInt16.toUInt16
    rh := r.humidityCp.toUInt16
    dewPoint := r.dewPointCd.toInt16.toUInt16
    relayState := if r.relayOn then 1 else 0
    devStatus := ctrlStateCode r.state
    errCount := n.diag.faultEvents.toUInt16 }

/-- The configuration registers of an image. -/
def cfgRegisters (cfg : DeviceConfig) : CfgReg → UInt16
  | .marginOn => cfg.dewMarginOnCd.toUInt16
  | .marginOff => cfg.dewMarginOffCd.toUInt16
  | .sampleMs => cfg.samplePeriodMs

/-- The device that a node shows. -/
def registerDevice (n : Node F) : RegisterDevice where
  telemetry := telemetryOf n
  startedMs := n.diag.startedMs
  cfg := cfgRegisters n.sys.app.cfg

/-! ## Reading -/

section Reading

theorem toUInt16_and_low (x : UInt32) : (x &&& 0xFFFF).toUInt16 = x.toUInt16 := by
  have hlow : (x &&& 0xFFFF).toNat = x.toNat % 65536 := by
    rw [UInt32.toNat_and]
    exact Nat.and_two_pow_sub_one_eq_mod _ 16
  apply UInt16.toNat_inj.1
  rw [UInt32.toNat_toUInt16, UInt32.toNat_toUInt16, hlow, Nat.mod_mod]

/-- Below the configuration registers the status values lie in a row. -/
theorem lookup_status (dev : RegisterDevice) (nowMs : UInt32) {addr : UInt16}
    (h : addr.toNat < 256) : dev.lookup nowMs addr = (dev.status nowMs)[addr.toNat]? := by
  have hne : ∀ reg : CfgReg, addr ≠ reg.addr := by
    rintro reg rfl
    cases reg <;> exact absurd h (by decide)
  have hcfg : CfgReg.ofAddr addr = none := by
    rw [Option.eq_none_iff_forall_ne_some]
    exact fun reg hreg => hne reg (CfgReg.ofAddr_eq_some_iff.1 hreg)
  rw [RegisterDevice.lookup, hcfg]

/-- An address without a register. -/
theorem lookup_unmapped (dev : RegisterDevice) (nowMs : UInt32) {addr : UInt16}
    (hcfg : CfgReg.ofAddr addr = none) (hstatus : 8 ≤ addr.toNat) :
    dev.lookup nowMs addr = none := by
  rw [RegisterDevice.lookup, hcfg]
  exact List.getElem?_eq_none hstatus

/-- The synchronised register map holds what the device holds. -/
theorem regValue_syncRegisters (n : Node F) (nowMs : UInt32) (addr : UInt16) :
    regValue (syncRegisters n nowMs).regs addr = (registerDevice n).lookup nowMs addr := by
  by_cases h₀ : addr = mbRegTempFilt
  · rw [h₀, lookup_status _ _ (by decide)]
    rfl
  by_cases h₁ : addr = mbRegRh
  · rw [h₁, lookup_status _ _ (by decide)]
    rfl
  by_cases h₂ : addr = mbRegDewPoint
  · rw [h₂, lookup_status _ _ (by decide)]
    rfl
  by_cases h₃ : addr = mbRelayState
  · rw [h₃, lookup_status _ _ (by decide)]
    rfl
  by_cases h₄ : addr = mbDevStatus
  · rw [h₄, lookup_status _ _ (by decide)]
    rfl
  by_cases h₅ : addr = mbErrCount
  · rw [h₅, lookup_status _ _ (by decide)]
    rfl
  by_cases h₆ : addr = mbUptimeLo
  · rw [h₆, lookup_status _ _ (by decide)]
    exact congrArg some (toUInt16_and_low _)
  by_cases h₇ : addr = mbUptimeHi
  · rw [h₇, lookup_status _ _ (by decide)]
    exact congrArg some (toUInt16_and_low _)
  by_cases h₈ : addr = mbCfgMarginOn
  · rw [h₈]
    rfl
  by_cases h₉ : addr = mbCfgMarginOff
  · rw [h₉]
    rfl
  by_cases h₁₀ : addr = mbCfgSampleMs
  · rw [h₁₀]
    rfl
  -- no configuration register, and behind the eight status registers
  have hcfg : CfgReg.ofAddr addr = none := by
    rw [CfgReg.ofAddr, if_neg h₈, if_neg h₉, if_neg h₁₀]
  have hstatus : 8 ≤ addr.toNat := by
    by_contra hlt
    have hofNat : addr = UInt16.ofNat addr.toNat := UInt16.ofNat_toNat.symm
    obtain h | h | h | h | h | h | h | h : addr.toNat = 0 ∨ addr.toNat = 1 ∨ addr.toNat = 2 ∨
      addr.toNat = 3 ∨ addr.toNat = 4 ∨ addr.toNat = 5 ∨ addr.toNat = 6 ∨ addr.toNat = 7 := by omega
    all_goals rw [h] at hofNat
    · exact h₀ hofNat
    · exact h₁ hofNat
    · exact h₂ hofNat
    · exact h₃ hofNat
    · exact h₄ hofNat
    · exact h₅ hofNat
    · exact h₆ hofNat
    · exact h₇ hofNat
  rw [lookup_unmapped _ _ hcfg hstatus, regValue, if_neg h₀, if_neg h₁, if_neg h₂, if_neg h₃,
    if_neg h₄, if_neg h₅, if_neg h₆, if_neg h₇, if_neg h₈, if_neg h₉, if_neg h₁₀]

/-- The last address has no register. -/
theorem lookup_last (dev : RegisterDevice) (nowMs : UInt32) {addr : UInt16}
    (h : addr.toNat = 65535) : dev.lookup nowMs addr = none := by
  obtain rfl : addr = 65535 := UInt16.toNat_inj.1 h
  rfl

/-- Reading a range from the map is reading the device, also where the addresses of the map start
again at 0. -/
theorem regRange_syncRegisters (n : Node F) (nowMs : UInt32) (addr : UInt16) (k : Nat) :
    regRange (syncRegisters n nowMs).regs addr k =
      (registerDevice n).lookupRange nowMs addr.toNat k := by
  induction k generalizing addr with
  | zero => rfl
  | succ k ih =>
      have hlt := addr.toNat_lt
      have hhead : (if addr.toNat < 65536 then
          (registerDevice n).lookup nowMs (UInt16.ofNat addr.toNat) else none) =
          (registerDevice n).lookup nowMs addr := by
        rw [if_pos hlt, UInt16.ofNat_toNat]
      show _ = (List.range' addr.toNat (k + 1)).mapM _
      rw [regRange, regValue_syncRegisters, ih, List.range'_succ, List.mapM_cons, hhead]
      by_cases hlast : addr.toNat = 65535
      · rw [lookup_last _ _ hlast]
        rfl
      · have hnext : (addr + 1).toNat = addr.toNat + 1 := by
          rw [UInt16.toNat_add]
          exact Nat.mod_eq_of_lt (by show addr.toNat + 1 < 65536; omega)
        rw [hnext]
        rfl

end Reading

/-! ## Serving -/

section Serving

variable (d : FlashDriver F)

theorem length_lookupRange {dev : RegisterDevice} {nowMs : UInt32} {start k : Nat}
    {vals : List UInt16} (h : dev.lookupRange nowMs start k = some vals) : vals.length = k := by
  induction k generalizing start vals with
  | zero =>
      cases h
      rfl
  | succ k ih =>
      rw [RegisterDevice.lookupRange, List.range'_succ, List.mapM_cons] at h
      obtain ⟨val, -, h⟩ := Option.bind_eq_some_iff.1 h
      obtain ⟨rest, hrest, h⟩ := Option.bind_eq_some_iff.1 h
      cases h
      exact congrArg Nat.succ (ih hrest)

/-- A read is answered with the values of the device. -/
theorem readResponse_serves (n : Node F) (nowMs : UInt32) (a d0 d1 d2 d3 : UInt8) :
    readResponse (syncRegisters n nowMs).regs ⟨a, 0x03, [d0, d1, d2, d3]⟩ =
      replyFrame ⟨a, 0x03, [d0, d1, d2, d3]⟩
        ((registerDevice n).serve nowMs (.read (be16 d0 d1) (be16 d2 d3))).2 := by
  have hread : (⟨a, 0x03, [d0, d1, d2, d3]⟩ : ModbusRequest) =
      readRequest a (be16 d0 d1) (be16 d2 d3) := by
    rw [readRequest, putBe16_be16, putBe16_be16]
    rfl
  have hlookup := regRange_syncRegisters n nowMs (be16 d0 d1) (be16 d2 d3).toNat
  show _ = replyFrame _ (if 1 ≤ (be16 d2 d3).toNat ∧ (be16 d2 d3).toNat ≤ 125 then
    ((registerDevice n).lookupRange nowMs (be16 d0 d1).toNat (be16 d2 d3).toNat).elim _ _ else _)
  rw [hread, readResponse_readRequest, ← hlookup]
  by_cases hq : be16 d2 d3 = 0 ∨ be16 d2 d3 > 125
  · rw [if_pos hq, if_neg ((quantity_refused_iff _).1 hq)]
    rfl
  · rw [if_neg hq, if_pos (quantity_accepted hq)]
    cases hvals : regRange (syncRegisters n nowMs).regs (be16 d0 d1) (be16 d2 d3).toNat with
    | none => rfl
    | some vals =>
        rw [hlookup] at hvals
        show responseBytes _ _ _ = responseBytes _ _ _
        rw [length_lookupRange hvals]
        rfl

/-- The device stores what the application takes. -/
theorem store_registerDevice (n : Node F) (regAddr value : UInt16) :
    (registerDevice n).store regAddr value =
      (modbusWrittenConfig n.sys.app.cfg regAddr value).map fun cfg =>
        { registerDevice n with cfg := cfgRegisters (storageFinalize cfg) } := by
  unfold RegisterDevice.store CfgReg.ofAddr modbusWrittenConfig
  split_ifs with hon hoff hsample hzero
  · have hacc : CfgReg.marginOn.Accepts value := by rintro ⟨⟩
    show (if _ then _ else _) = _
    rw [if_pos hacc]
    congr 2
    funext reg
    cases reg with
    | marginOn => rfl
    | marginOff => rfl
    | sampleMs => rfl
  · have hacc : CfgReg.marginOff.Accepts value := by rintro ⟨⟩
    show (if _ then _ else _) = _
    rw [if_pos hacc]
    congr 2
    funext reg
    cases reg with
    | marginOn => rfl
    | marginOff => rfl
    | sampleMs => rfl
  · have hacc : ¬ CfgReg.sampleMs.Accepts value := fun h => h rfl hzero
    show (if _ then _ else _) = _
    rw [if_neg hacc]
    rfl
  · have hacc : CfgReg.sampleMs.Accepts value := fun _ => hzero
    show (if _ then _ else _) = _
    rw [if_pos hacc]
    congr 2
    funext reg
    cases reg with
    | marginOn => rfl
    | marginOff => rfl
    | sampleMs => rfl
  · rfl

theorem diag_handleModbusRequest (n : Node F) (nowMs : UInt32) (req : ModbusRequest) :
    (handleModbusRequest d n nowMs req).1.diag = n.diag := by
  by_cases hread : req.function = 0x03
  · simp only [handleModbusRequest, if_pos hread]
    rfl
  · by_cases hwrite : req.function = 0x06
    · simp only [handleModbusRequest, if_neg hread, if_pos hwrite, handleWrite]
      split
      · split
        · rfl
        · rfl
      · rfl
    · simp only [handleModbusRequest, if_neg hread, if_neg hwrite]
      rfl

/-- A write is answered as the device answers it, and the application keeps what the device
stores. -/
theorem write_serves (n : Node F) (nowMs : UInt32) (a d0 d1 d2 d3 : UInt8) :
    (handleModbusRequest d n nowMs ⟨a, 0x06, [d0, d1, d2, d3]⟩).2 =
        replyFrame ⟨a, 0x06, [d0, d1, d2, d3]⟩
          ((registerDevice n).serve nowMs (.write (be16 d0 d1) (be16 d2 d3))).2 ∧
      cfgRegisters (handleModbusRequest d n nowMs ⟨a, 0x06, [d0, d1, d2, d3]⟩).1.sys.app.cfg =
        ((registerDevice n).serve nowMs (.write (be16 d0 d1) (be16 d2 d3))).1.cfg := by
  have hstore := store_registerDevice n (be16 d0 d1) (be16 d2 d3)
  have hsys := sys_handleWrite d n nowMs a d0 d1 d2 d3
  rw [answer_write, hsys, applyModbusWriteToApp]
  cases hwritten : modbusWrittenConfig n.sys.app.cfg (be16 d0 d1) (be16 d2 d3) with
  | none =>
      rw [hwritten, Option.map_none] at hstore
      simp only [RegisterDevice.serve, hstore]
      exact ⟨rfl, rfl⟩
  | some cfg =>
      rw [hwritten, Option.map_some] at hstore
      rw [if_neg (Option.some_ne_none cfg)]
      simp only [RegisterDevice.serve, hstore,
        cfg_appUpdateConfig d (storageValidate_storageFinalize cfg)]
      exact ⟨rfl, trivial⟩

/-- Handling a well-shaped request is serving it and reporting what the node then shows. -/
theorem handleModbusRequest_serves (n : Node F) (nowMs : UInt32) {req : ModbusRequest}
    (hreq : WellShaped req) :
    answers deviceStep (registerDevice n) [.request nowMs req,
        .report (telemetryOf (handleModbusRequest d n nowMs req).1)] =
      [(handleModbusRequest d n nowMs req).2] ∧
    after deviceStep (registerDevice n) [.request nowMs req,
        .report (telemetryOf (handleModbusRequest d n nowMs req).1)] =
      registerDevice (handleModbusRequest d n nowMs req).1 := by
  obtain ⟨a, function, data⟩ := req
  obtain ⟨hfun, hlen⟩ := hreq
  obtain ⟨d0, d1, d2, d3, rfl⟩ : ∃ d0 d1 d2 d3, data = [d0, d1, d2, d3] := by
    match data, hlen with
    | [d0, d1, d2, d3], _ => exact ⟨d0, d1, d2, d3, rfl⟩
  have hdiag := diag_handleModbusRequest d n nowMs ⟨a, function, [d0, d1, d2, d3]⟩
  rcases hfun with hfun | hfun
  · obtain rfl : function = 0x03 := hfun
    have hanswer := readResponse_serves n nowMs a d0 d1 d2 d3
    constructor
    · exact congrArg (fun resp => [resp]) hanswer.symm
    · rfl
  · obtain rfl : function = 0x06 := hfun
    obtain ⟨hanswer, hcfg⟩ := write_serves d n nowMs a d0 d1 d2 d3
    have hstarted := startedMs_deviceStep (registerDevice n)
      (.request nowMs ⟨a, 0x06, [d0, d1, d2, d3]⟩)
    constructor
    · exact congrArg (fun resp => [resp]) hanswer.symm
    · show RegisterDevice.mk _ _ _ = RegisterDevice.mk _ _ _
      congr 1
      · refine hstarted.trans ?_
        rw [hdiag]
        rfl
      · exact hcfg.symm

end Serving

end ClimateNode.Application
