import ClimateNode.App.Bus
import ClimateNode.App.IdealSampling

/-!
# The ideal node

The firmware for the one who reads its registers: an ideal controller behind a register device. A
sample moves the controller and the counters; a request is answered from what they are at that
moment, as 16-bit words; a stored value restarts the controller with the thresholds that the
registers then hold. Nothing else is left: no filter ring, no 32-bit arithmetic, no frames in
pieces, no tasks and no interrupts. The numbers of the controller fit into their registers, and a
master reads them back (`readStatus_status`).

`NodeRefines` relates the node to the ideal one. Every boot establishes it; a due control task is a
sample (`nodeRefines_controlTask`), and handling a request is serving it
(`nodeRefines_handleModbusRequest`).
-/

set_option autoImplicit false

namespace ClimateNode.Application

open ClimateNode.Core ClimateNode.Service ClimateNode.Machine

/-! ## The ideal node -/

/-- A number as a register holds it. -/
def word (x : Int) : UInt16 := (Int16.ofInt x).toUInt16

/-- The status code of a mode. -/
def modeCode : IdealMode → UInt16
  | .starting => 0
  | .warming => 1
  | .running => 2
  | .faulty => 3
  | .locked => 5

/-- The thresholds that are built in. -/
def builtInConfig : IdealConfig := ⟨500, 700, 3, 3, false⟩

/-- The thresholds that the registers ask for; margins that are not ordered are replaced by the
built-in ones. -/
def registerConfig (regs : CfgReg → UInt16) : IdealConfig :=
  let marginOn := (regs .marginOn).toInt16.toInt
  let marginOff := (regs .marginOff).toInt16.toInt
  if marginOn < marginOff then ⟨marginOn, marginOff, 3, 3, false⟩ else builtInConfig

/-- The controller with the thresholds it runs with, the counters with the mode after the last
sample, the start time, and the configuration registers. -/
structure IdealNode where
  ctrl : IdealController
  active : IdealConfig
  counts : IdealCounts
  lastMode : IdealMode
  startedMs : UInt32
  cfg : CfgReg → UInt16

/-- What happens at the node. -/
inductive IdealNodeEvent where
  | sample (reading : Option Reading)
  | request (nowMs : UInt32) (req : ModbusRequest)
  deriving DecidableEq, Repr

namespace IdealNode

/-- The status values. -/
def telemetry (i : IdealNode) : Telemetry where
  tempFilt := word i.ctrl.temp
  rh := UInt16.ofNat i.ctrl.humidity
  dewPoint := word i.ctrl.dew
  relayState := if i.ctrl.relay then 1 else 0
  devStatus := modeCode i.ctrl.mode
  errCount := UInt16.ofNat i.counts.faultEvents

/-- The registers. -/
def device (i : IdealNode) : RegisterDevice := ⟨i.telemetry, i.startedMs, i.cfg⟩

/-- The node with new values in its configuration registers. -/
def restart (i : IdealNode) (regs : CfgReg → UInt16) : IdealNode :=
  { i with
    ctrl := idealStart (registerConfig regs) .starting
    active := registerConfig regs
    cfg := regs }

/-- The answer to a query: that of the registers. -/
def serve (i : IdealNode) (nowMs : UInt32) (query : RegisterQuery) : IdealNode × RegisterReply :=
  let r := i.device.serve nowMs query
  (if r.2 = .stored then i.restart r.1.cfg else i, r.2)

end IdealNode

/-- A sample, or a request, which is answered with one frame. -/
def idealNodeStep (dewOf : Int → Nat → Int) (i : IdealNode) :
    IdealNodeEvent → IdealNode × List (List UInt8)
  | .sample reading =>
      let u := idealUpdate i.active dewOf i.ctrl reading
      ({ i with
        ctrl := u.1
        counts := i.counts.record i.lastMode u.1.mode u.2
        lastMode := u.1.mode }, [])
  | .request nowMs req =>
      match registerQuery req with
      | some query =>
          let r := i.serve nowMs query
          (r.1, [replyFrame req r.2])
      | none => (i, [])

/-- The mode after a boot. The third reset by the watchdog in a row locks the controller. -/
def bootMode (backup : UInt8) : ResetCause → IdealMode
  | .watchdog => if backup + 1 ≥ 3 then .locked else .warming
  | .powerOn | .software | .external | .unknown => .starting

/-- The node after a boot: it runs with the built-in thresholds, whatever the registers hold. -/
def idealNodeStart (backup : UInt8) (cause : ResetCause) (bootMs : UInt32)
    (regs : CfgReg → UInt16) : IdealNode where
  ctrl := idealStart builtInConfig (bootMode backup cause)
  active := builtInConfig
  counts := ⟨0, 0, 0, 0⟩
  lastMode := .starting
  startedMs := bootMs
  cfg := regs

/-! ## The status registers -/

/-- What the status registers say. -/
structure NodeStatus where
  temp : Int
  humidity : Nat
  dew : Int
  relay : Bool
  mode : IdealMode
  faultEvents : Nat
  uptimeMs : Nat
  deriving DecidableEq, Repr

/-- The mode with a status code. -/
def codeMode (code : UInt16) : Option IdealMode :=
  [.starting, .warming, .running, .faulty, .locked].find? fun mode => modeCode mode = code

/-- How a master reads the eight status registers: temperatures as signed words, the uptime as two
halves. -/
def readStatus : List UInt16 → Option NodeStatus
  | [temp, rh, dew, relay, code, faults, lo, hi] =>
      (codeMode code).map fun mode =>
        ⟨temp.toInt16.toInt, rh.toNat, dew.toInt16.toInt, relay = 1, mode, faults.toNat,
          lo.toNat + 65536 * hi.toNat⟩
  | _ => none

/-- The status of the ideal node. Only the fault counter has more bits than its register. -/
def IdealNode.status (i : IdealNode) (nowMs : UInt32) : NodeStatus :=
  ⟨i.ctrl.temp, i.ctrl.humidity, i.ctrl.dew, i.ctrl.relay, i.ctrl.mode,
    i.counts.faultEvents % 65536, (i.device.uptime nowMs).toNat⟩

theorem codeMode_modeCode (mode : IdealMode) : codeMode (modeCode mode) = some mode := by
  cases mode <;> decide

/-- A number of 16 bits is in its register as it is. -/
theorem toInt_word {x : Int} (hlow : -32768 ≤ x) (hhigh : x < 32768) :
    (word x).toInt16.toInt = x := by
  rw [word, Int16.toInt16_toUInt16]
  exact Int16.toInt_ofInt_of_le hlow hhigh

/-- The registers of numbers in range read back as the status. -/
theorem readStatus_status {i : IdealNode} (htemp : -4000 ≤ i.ctrl.temp ∧ i.ctrl.temp ≤ 8500)
    (hrh : i.ctrl.humidity ≤ 10000) (hdew : -4000 ≤ i.ctrl.dew ∧ i.ctrl.dew ≤ 8500)
    (nowMs : UInt32) : readStatus (i.device.status nowMs) = some (i.status nowMs) := by
  have hhalves := uptime_halves (i.device.uptime nowMs)
  rw [toUInt16_and_low, toUInt16_and_low] at hhalves
  have hrelay : decide ((if i.ctrl.relay then (1 : UInt16) else 0) = 1) = i.ctrl.relay := by
    cases i.ctrl.relay with
    | true => rfl
    | false => rfl
  have hword : (UInt16.ofNat i.ctrl.humidity).toNat = i.ctrl.humidity := by
    rw [UInt16.toNat_ofNat']
    exact Nat.mod_eq_of_lt (by omega)
  show Option.map _ (codeMode (modeCode i.ctrl.mode)) = _
  rw [codeMode_modeCode, Option.map_some]
  show some (NodeStatus.mk (word i.ctrl.temp).toInt16.toInt _ (word i.ctrl.dew).toInt16.toInt _ _ _
    _) = _
  rw [toInt_word (by omega) (by omega), toInt_word (by omega) (by omega), hhalves]
  show some (NodeStatus.mk _ (UInt16.ofNat i.ctrl.humidity).toNat _ (decide _) _
    (UInt16.ofNat i.counts.faultEvents).toNat _) = _
  rw [hword, UInt16.toNat_ofNat']
  exact congrArg some (by rw [IdealNode.status]; congr 1)

/-- The first eight registers of a device are its status. -/
theorem lookupRange_status (dev : RegisterDevice) (nowMs : UInt32) :
    dev.lookupRange nowMs 0 8 = some (dev.status nowMs) := rfl

/-! ## The refinement -/

section Refinement

variable {F : Type}

/-- A node behaves as the ideal one. -/
structure NodeRefines (n : Node F) (i : IdealNode) : Prop where
  ctrl : Refines n.sys.app.ctrl i.ctrl
  active : i.active = idealConfig n.sys.app.ctrl.cfg
  diag : DiagRefines i.startedMs n.diag i.lastMode i.counts
  cfg : i.cfg = cfgRegisters n.sys.app.cfg
  range : ReportInRange n.sys.app.ctrl

theorem modeCode_idealMode {s : CtrlState} (h : s ≠ .mathFault) :
    modeCode (idealMode s) = ctrlStateCode s := by
  cases s with
  | mathFault => exact absurd rfl h
  | _ => rfl

/-- Both show the same registers. -/
theorem NodeRefines.device {n : Node F} {i : IdealNode} (h : NodeRefines n i) :
    i.device = registerDevice n := by
  have htelemetry : i.telemetry = telemetryOf n := by
    rw [IdealNode.telemetry, h.ctrl.temp, h.ctrl.humidity, h.ctrl.dew, h.ctrl.relay, h.ctrl.mode,
      modeCode_idealMode h.ctrl.inv.notMathFault, telemetryOf, h.diag.faultEvents,
      UInt32.toUInt16_ofNat', word, word, Int16.ofInt_int32ToInt, Int16.ofInt_int32ToInt,
      UInt16.ofNat_uInt32ToNat]
    rfl
  rw [IdealNode.device, htelemetry, h.cfg, ← h.diag.started]
  rfl

/-- The margins of an image are those of its registers. -/
theorem idealConfig_ctrlCfgOf (cfg : DeviceConfig) :
    idealConfig (ctrlInit (some (ctrlCfgOf cfg))).cfg = registerConfig (cfgRegisters cfg) := by
  have hmargins := dewMargins_ctrlEffectiveConfig (ctrlCfgOf cfg)
  have hon : (ctrlCfgOf cfg).dewMarginOnCd.toInt = cfg.dewMarginOnCd.toInt :=
    Int16.toInt_toInt32 _
  have hoff : (ctrlCfgOf cfg).dewMarginOffCd.toInt = cfg.dewMarginOffCd.toInt :=
    Int16.toInt_toInt32 _
  show IdealConfig.mk (ctrlEffectiveConfig (ctrlCfgOf cfg)).dewMarginOnCd.toInt
    (ctrlEffectiveConfig (ctrlCfgOf cfg)).dewMarginOffCd.toInt 3 3 false =
      if cfg.dewMarginOnCd.toInt < cfg.dewMarginOffCd.toInt then
        ⟨cfg.dewMarginOnCd.toInt, cfg.dewMarginOffCd.toInt, 3, 3, false⟩ else builtInConfig
  by_cases hlt : (ctrlCfgOf cfg).dewMarginOnCd < (ctrlCfgOf cfg).dewMarginOffCd
  · rw [if_pos hlt, Prod.mk.injEq] at hmargins
    have hlt' := Int32.lt_iff_toInt_lt.1 hlt
    rw [hon, hoff] at hlt'
    rw [hmargins.1, hmargins.2, hon, hoff, if_pos hlt']
  · rw [if_neg hlt, Prod.mk.injEq] at hmargins
    have hge := mt Int32.lt_iff_toInt_lt.2 hlt
    rw [hon, hoff] at hge
    rw [hmargins.1, hmargins.2, if_neg hge]
    rfl

theorem idealMode_ctrlInitExtended (p : Platform) (cfg : Option ControllerConfig)
    (cause : ResetCause) :
    idealMode (ctrlInitExtended p cfg cause).2.state = bootMode p.backupReg cause := by
  cases cause with
  | watchdog =>
      rw [ctrlInitExtended_watchdog]
      show idealMode (if p.backupReg + 1 ≥ 3 then .safe else .warmup) =
        if p.backupReg + 1 ≥ 3 then .locked else .warming
      split
      · rfl
      · rfl
  | powerOn => rfl
  | software => rfl
  | external => rfl
  | unknown => rfl

/-- Every boot. -/
theorem nodeRefines_mcuBoot (d : FlashDriver F) (plat : Platform) (flash : F) (cause : ResetCause)
    (bootMs : UInt32) :
    NodeRefines (mcuBoot d plat flash cause bootMs)
      (idealNodeStart plat.backupReg cause bootMs (cfgRegisters (appLoadedCfg d flash))) := by
  have hplat : (appInit d plat flash).plat.backupReg = plat.backupReg := rfl
  have hcfg : idealConfig (mcuBoot d plat flash cause bootMs).sys.app.ctrl.cfg =
      builtInConfig := by
    show idealConfig (ctrlInitExtended (appInit d plat flash).plat _ cause).2.cfg = _
    rw [cfg_ctrlInitExtended]
    rfl
  have hctrl := refines_start (appInit d plat flash).plat
    (.initExtended plat.backupReg (some controllerDefaults) cause)
  change Refines (mcuBoot d plat flash cause bootMs).sys.app.ctrl (idealStart
    (idealConfig (mcuBoot d plat flash cause bootMs).sys.app.ctrl.cfg)
    (idealMode (ctrlInitExtended (appInit d plat flash).plat _ cause).2.state)) at hctrl
  rw [hcfg, idealMode_ctrlInitExtended, hplat] at hctrl
  exact ⟨hctrl, hcfg.symm, diagRefines_diagInit bootMs, rfl, reportInRange_initExtended _ _ _⟩

/-! ## One step -/

variable {n : Node F} {i : IdealNode}

/-- A due control task is a sample. -/
theorem nodeRefines_controlTask (lut : DewpointLut) (h : NodeRefines n i) {input : McuInput}
    (hdue : appDue n.sys.app input.nowMs = true) :
    ∃ n', controlTask lut input n = .ok n' ∧
      NodeRefines n' (idealNodeStep (idealDew lut) i (.sample (portReading input.read))).1 := by
  obtain ⟨plat, relayPrev, r, htask, hcfg, hrefines, herr, hrange⟩ :=
    appTask_refines lut input.read hdue h.ctrl
  rw [← h.active] at hrefines herr
  have hdiag := h.diag.record input.nowMs r.ctrl.state r.err r.ctrl.relayOn
  rw [← hrefines.mode] at hdiag
  refine ⟨markTicket { n with
    sys := { n.sys with
      plat := plat
      app := { n.sys.app with
        ctrl := r.ctrl
        nextSampleMs := appNextSample n.sys.app input.nowMs
        relayPrev := relayPrev } }
    diag := diagRecord n.diag input.nowMs r.ctrl.state r.err r.ctrl.relayOn true } ticketControl,
    ?_, ⟨hrefines, ?_, ?_, h.cfg, hrange h.range⟩⟩
  · simp only [controlTask, htask, checked_ok_bind, checked_pure, if_true]
    rfl
  · show i.active = idealConfig r.ctrl.cfg
    rw [hcfg, h.active]
  · show DiagRefines i.startedMs _ _ (i.counts.record i.lastMode _ _)
    rw [← herr]
    exact hdiag

/-- A control task that is not due changes nothing. -/
theorem controlTask_notDue (lut : DewpointLut) {input : McuInput}
    (hdue : ¬ appDue n.sys.app input.nowMs = true) : controlTask lut input n = .ok n := by
  rw [controlTask, appTask_notDue lut input.read (Bool.not_eq_true _ ▸ hdue)]
  rfl

/-- A read leaves the node as it is. -/
theorem serve_read (i : IdealNode) (nowMs : UInt32) (start quantity : UInt16) :
    (i.serve nowMs (.read start quantity)).1 = i := by
  refine if_neg ?_
  show ¬ (if _ then Option.elim _ _ _ else _ : RegisterReply) = .stored
  split
  · cases i.device.lookupRange nowMs start.toNat quantity.toNat with
    | none => exact RegisterReply.noConfusion
    | some vals => exact RegisterReply.noConfusion
  · exact RegisterReply.noConfusion

/-- An applied write restarts the controller. -/
theorem nodeRefines_write {d : FlashDriver F} (hwrite : TakesWrites d) (h : NodeRefines n i)
    (nowMs : UInt32) (a d0 d1 d2 d3 : UInt8) :
    NodeRefines (handleModbusRequest d n nowMs ⟨a, 0x06, [d0, d1, d2, d3]⟩).1
      (i.serve nowMs (.write (be16 d0 d1) (be16 d2 d3))).1 := by
  have hstore := store_registerDevice n (be16 d0 d1) (be16 d2 d3)
  have hsys := sys_handleWrite d n nowMs a d0 d1 d2 d3
  have hdiag := diag_handleModbusRequest d n nowMs ⟨a, 0x06, [d0, d1, d2, d3]⟩
  rw [applyModbusWriteToApp] at hsys
  rw [IdealNode.serve, h.device]
  cases hwritten : modbusWrittenConfig n.sys.app.cfg (be16 d0 d1) (be16 d2 d3) with
  | none =>
      rw [hwritten] at hsys hstore
      simp only [RegisterDevice.serve, hstore, Option.map_none, reduceCtorEq, if_false]
      exact ⟨hsys ▸ h.ctrl, hsys ▸ h.active, hdiag ▸ h.diag, hsys ▸ h.cfg,
        hsys ▸ h.range⟩
  | some cfg =>
      rw [hwritten] at hsys hstore
      have happlies : AppliesConfig d n.sys.flash (storageFinalize cfg) :=
        ⟨storageValidate_storageFinalize cfg, hwrite _ _ _⟩
      simp only [appUpdateConfig_of_applies happlies] at hsys
      simp only [RegisterDevice.serve, hstore, Option.map_some, if_true]
      have hactive := idealConfig_ctrlCfgOf (storageFinalize cfg)
      refine ⟨?_, ?_, hdiag ▸ h.diag, ?_, ?_⟩
      · rw [hsys, IdealNode.restart, ← hactive]
        exact refines_ctrlInit (some (ctrlCfgOf (storageFinalize cfg))) (Or.inl rfl) .notReady 0 0
      · rw [hsys, IdealNode.restart, ← hactive]
      · rw [hsys]
        rfl
      · rw [hsys]
        exact reportInRange_init _

/-- Handling a well-shaped request is serving it. -/
theorem nodeRefines_handleModbusRequest {d : FlashDriver F} (hwrite : TakesWrites d)
    (dewOf : Int → Nat → Int) (h : NodeRefines n i) (nowMs : UInt32) {req : ModbusRequest}
    (hreq : WellShaped req) :
    NodeRefines (handleModbusRequest d n nowMs req).1
      (idealNodeStep dewOf i (.request nowMs req)).1 := by
  obtain ⟨query, hquery⟩ := exists_registerQuery hreq
  have hnode : (idealNodeStep dewOf i (.request nowMs req)).1 = (i.serve nowMs query).1 := by
    simp only [idealNodeStep, hquery]
  rw [hnode]
  obtain ⟨a, function, data⟩ := req
  obtain ⟨hfun, hlen⟩ := hreq
  obtain ⟨d0, d1, d2, d3, rfl⟩ : ∃ d0 d1 d2 d3, data = [d0, d1, d2, d3] := by
    match data, hlen with
    | [d0, d1, d2, d3], _ => exact ⟨d0, d1, d2, d3, rfl⟩
  rcases hfun with hfun | hfun
  · obtain rfl : function = 0x03 := hfun
    cases hquery
    rw [serve_read]
    exact ⟨h.ctrl, h.active, h.diag, h.cfg, h.range⟩
  · obtain rfl : function = 0x06 := hfun
    cases hquery
    exact nodeRefines_write hwrite h nowMs a d0 d1 d2 d3

/-- The ideal node answers as the registers of the node do. -/
theorem idealNodeStep_answer (dewOf : Int → Nat → Int) (h : NodeRefines n i) (nowMs : UInt32)
    (req : ModbusRequest) :
    (idealNodeStep dewOf i (.request nowMs req)).2 =
      (deviceStep (registerDevice n) (.request nowMs req)).2 := by
  rw [← h.device]
  simp only [idealNodeStep, deviceStep]
  cases registerQuery req with
  | none => rfl
  | some query => rfl

end Refinement

end ClimateNode.Application
