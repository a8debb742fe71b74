import ClimateNode.App.App
import ClimateNode.App.Scheduler
import ClimateNode.Core.Diagnostics
import ClimateNode.Platform.Flash
import ClimateNode.Service.ModbusRegs
import ClimateNode.Service.ModbusServer
import Mathlib.Tactic.SplitIfs

/-!
# The firmware

`app/main_mcu.c`: the register map kept in step with the application, the handling of a Modbus
request, the three tasks and the main loop. A request handler returns the bytes it hands to the
UART. The time a task reads, what the sensor returns and what the UART delivered before the pass are
inputs. The logger is left out: it writes texts and returns nothing the other code looks at.
-/

set_option autoImplicit false

namespace ClimateNode.Application

open ClimateNode.Core ClimateNode.Service ClimateNode.Machine ClimateNode.Platforms

/-- `mcu_ctx_t`, by value, with the Modbus server of `modbus_task` once that has initialised it. -/
structure Node (F : Type) where
  sys : AppSys F
  diag : Diagnostics
  regs : ModbusRegMap
  srv : Option ModbusServer

/-! ## Modbus requests -/

section Requests

variable {F : Type}

/-- The value of `ctrl_state_t`. -/
def ctrlStateCode : CtrlState → UInt16
  | .init => 0
  | .warmup => 1
  | .run => 2
  | .sensorFault => 3
  | .mathFault => 4
  | .safe => 5

/-- `sync_registers` at the time `nowMs`. -/
def syncRegisters (n : Node F) (nowMs : UInt32) : Node F :=
  let r := appReport n.sys.app
  { n with regs := {
      tempFiltCd := r.filteredTempCd.toInt16
      rhCp := r.humidityCp.toUInt16
      dewPointCd := r.dewPointCd.toInt16
      relayOn := r.relayOn
      devStatus := ctrlStateCode r.state
      errCount := n.diag.faultEvents.toUInt16
      uptimeMs := diagUptimeMs n.diag nowMs
      cfgMarginOnCd := n.sys.app.cfg.dewMarginOnCd
      cfgMarginOffCd := n.sys.app.cfg.dewMarginOffCd
      cfgSampleMs := n.sys.app.cfg.samplePeriodMs } }

/-- The `switch` of `apply_modbus_write_to_app`: the configuration with the written field, or
`none` where the function returns early. -/
def modbusWrittenConfig (cfg : DeviceConfig) (regAddr value : UInt16) : Option DeviceConfig :=
  if regAddr = mbCfgMarginOn then some { cfg with dewMarginOnCd := value.toInt16 }
  else if regAddr = mbCfgMarginOff then some { cfg with dewMarginOffCd := value.toInt16 }
  else if regAddr = mbCfgSampleMs then
    if value = 0 then none else some { cfg with samplePeriodMs := value }
  else none

/-- `apply_modbus_write_to_app`. -/
def applyModbusWriteToApp (d : FlashDriver F) (σ : AppSys F) (regAddr value : UInt16) : AppSys F :=
  match modbusWrittenConfig σ.app.cfg regAddr value with
  | none => σ
  | some tmpCfg => (appUpdateConfig d σ (storageFinalize tmpCfg)).2

/-- `sizeof(resp_buf)`. -/
def respBufSize : Nat := 260

/-- An exception response in `resp_buf`. -/
def exceptionResponse (req : ModbusRequest) (function code : UInt8) : List UInt8 :=
  modbusBuildException req.slaveAddr function code respBufSize

/-- The response to a read of the registers in `regs`. -/
def readResponse (regs : ModbusRegMap) (req : ModbusRequest) : List UInt8 :=
  match req.data with
  | [d0, d1, d2, d3] =>
      let startAddr := be16 d0 d1
      let quantity := be16 d2 d3
      if quantity = 0 ∨ quantity > 125 then exceptionResponse req 0x03 modbusExIllegalDataVal
      else
        let byteCount := quantity.toNat * 2
        if respBufSize < 5 + byteCount then exceptionResponse req 0x03 modbusExSlaveDeviceFail
        else
          match mbRegsRead regs startAddr quantity byteCount with
          | none => exceptionResponse req 0x03 modbusExIllegalDataAddr
          | some payload =>
              let body := [req.slaveAddr, 0x03, UInt8.ofNat byteCount] ++ payload
              body ++ crcTail (modbusCrc16 body)
  | _ => exceptionResponse req 0x03 modbusExIllegalDataVal

/-- The handling of a write request, after the registers have been synchronised. -/
def handleWrite (d : FlashDriver F) (n : Node F) (req : ModbusRequest) : Node F × List UInt8 :=
  match req.data with
  | [d0, d1, d2, d3] =>
      let regAddr := be16 d0 d1
      let value := be16 d2 d3
      -- the echo does not depend on what the application does with the value
      match mbRegsWriteSingle n.regs regAddr value with
      | none => (n, exceptionResponse req 0x06 modbusExIllegalDataAddr)
      | some regs =>
          let body := [req.slaveAddr, 0x06, d0, d1, d2, d3]
          ({ n with regs := regs, sys := applyModbusWriteToApp d n.sys regAddr value },
            body ++ crcTail (modbusCrc16 body))
  | _ => (n, exceptionResponse req 0x06 modbusExIllegalDataVal)

/-- `handle_modbus_request` at the time `nowMs`, with the bytes handed to `uart1_tx_dma_async`. -/
def handleModbusRequest (d : FlashDriver F) (n : Node F) (nowMs : UInt32) (req : ModbusRequest) :
    Node F × List UInt8 :=
  let n := syncRegisters n nowMs
  if req.function = 0x03 then (n, readResponse n.regs req)
  else if req.function = 0x06 then handleWrite d n req
  else (n, exceptionResponse req req.function modbusExIllegalFunc)

end Requests

/-! ## The tasks and the main loop -/

/-- The tasks registered by `main`. -/
inductive McuTask where
  | control
  | logger
  | modbus
  deriving DecidableEq, Repr

/-- What the tasks of one pass read: the time and, should the sensor be read, its result. -/
structure McuInput where
  nowMs : UInt32
  read : Err × Sample

section Tasks

variable {F : Type}

/-- `app_mark_ticket` on the node. -/
def markTicket (n : Node F) (ticketId : UInt32) : Node F :=
  { n with sys := { n.sys with app := appMarkTicket n.sys.app ticketId } }

/-- `control_task`. -/
def controlTask (lut : DewpointLut) (i : McuInput) (n : Node F) : Checked (Node F) := do
  let r ← appTask lut n.sys i.nowMs i.read
  let n := { n with sys := r.sys }
  if r.processed then
    let rep := appReport n.sys.app
    let n := { n with diag := diagRecord n.diag i.nowMs rep.state r.err rep.relayOn true }
    pure (markTicket n ticketControl)
  else pure n

/-- The server of `modbus_task`, initialised on the first call. -/
def modbusTaskServer (n : Node F) : ModbusServer := n.srv.getD (modbusServerInit 1 5)

/-- `modbus_task`. The server is polled without a `recv` function, so the poll changes nothing. -/
def modbusTask (d : FlashDriver F) (i : McuInput) (n : Node F) : Node F :=
  let srv := (modbusServerTask (none : Option (Unit → Option UInt8 × Unit)) ()
    (modbusTaskServer n) i.nowMs).2.1
  let n := { n with srv := some srv }
  -- every branch marks the ticket
  match srv.event with
  | .request =>
      let r := handleModbusRequest d n i.nowMs srv.request
      markTicket { r.1 with srv := some (modbusServerClearEvent srv) } ticketComm
  | .none => markTicket n ticketComm
  | _ => markTicket { n with srv := some (modbusServerClearEvent srv) } ticketComm

/-- The task functions of one pass. -/
def mcuExec (lut : DewpointLut) (d : FlashDriver F) (i : McuInput) :
    McuTask → Node F → Checked (Node F)
  | .control, n => controlTask lut i n
  | .logger, n => .ok n
  | .modbus, n => .ok (modbusTask d i n)

/-- The node that `main` builds before the scheduler, from the reset cause `cause` and at the time
`nowMs`. -/
def mcuBoot (d : FlashDriver F) (plat : Platform) (flash : F) (cause : ResetCause)
    (nowMs : UInt32) : Node F :=
  let σ := appInit d plat flash
  -- the second initialisation replaces the loaded configuration by the built-in one
  let pc := ctrlInitExtended σ.plat (some controllerDefaults) cause
  { sys := { σ with plat := pc.1, app := { σ.app with ctrl := pc.2 } }
    diag := diagInit nowMs
    regs := mbRegsInit
    srv := none }

/-- The scheduler that `main` builds; the control period is read once. -/
def mcuScheduler (n : Node F) : Scheduler McuTask :=
  let s := (schedRegister (schedInit 3) n.sys.app.ctrl.cfg.samplePeriodMs .control).2
  let s := (schedRegister s 10 .logger).2
  (schedRegister s 1 .modbus).2

/-- The main loop between two iterations. -/
structure McuLoop (F : Type) where
  node : Node F
  sched : Scheduler McuTask

/-- One iteration of the main loop, with whether it fed the watchdog. -/
def mcuIterate (lut : DewpointLut) (d : FlashDriver F) (i : McuInput) (m : McuLoop F) :
    Checked (McuLoop F × Bool) := do
  let node := { m.node with sys := { m.node.sys with app := appClearTickets m.node.sys.app } }
  let r ← schedRunOnce (mcuExec lut d i) m.sched i.nowMs node
  pure (⟨r.2.1, r.1⟩, appCanFeedWatchdog r.2.1.sys.app)

/-- The UART events delivered to the server by its interrupts; before the first `modbus_task` call
the callback has no server. -/
def deliverUart (n : Node F) (events : List UartEvent) : Node F :=
  { n with srv := n.srv.map fun s => events.foldl modbusUartEventCallback s }

end Tasks

/-! ## What the tasks do -/

section Facts

variable {F : Type}

/-- What `control_task` does besides the diagnostics: it keeps the two configurations, and when the
application's gate is open it stores the next due time and marks the control ticket. -/
structure ControlFacts (i : McuInput) (n n' : Node F) : Prop where
  inv : CtrlInv n'.sys.app.ctrl
  srv : n'.srv = n.srv
  flash : n'.sys.flash = n.sys.flash
  cfg : n'.sys.app.cfg = n.sys.app.cfg
  ctrlCfg : n'.sys.app.ctrl.cfg = n.sys.app.ctrl.cfg
  required : n'.sys.app.requiredTickets = n.sys.app.requiredTickets
  closed : appDue n.sys.app i.nowMs = false →
    n'.sys.app.nextSampleMs = n.sys.app.nextSampleMs ∧
      n'.sys.app.ticketMask = n.sys.app.ticketMask
  opened : appDue n.sys.app i.nowMs = true →
    n'.sys.app.nextSampleMs = appNextSample n.sys.app i.nowMs ∧
      n'.sys.app.ticketMask = n.sys.app.ticketMask ||| ticketControl

theorem controlTask_facts (lut : DewpointLut) (i : McuInput) {n : Node F}
    (hinv : CtrlInv n.sys.app.ctrl) :
    ∃ n', controlTask lut i n = .ok n' ∧ ControlFacts i n n' := by
  cases hdue : appDue n.sys.app i.nowMs with
  | false =>
      refine ⟨n, ?_, hinv, rfl, rfl, rfl, rfl, rfl, fun _ => ⟨rfl, rfl⟩, fun h => ?_⟩
      · rw [controlTask, appTask_notDue lut i.read hdue]
        rfl
      · rw [hdue] at h
        cases h
  | true =>
      obtain ⟨w, r, -, hx, hinv', heq⟩ := appTask_due lut i.read hdue hinv
      rw [controlTask, heq]
      refine ⟨_, rfl, hinv', rfl, rfl, rfl, (relayCalls_cfg_of_exit hx).2, rfl, fun h => ?_,
        fun _ => ⟨rfl, rfl⟩⟩
      rw [hdue] at h
      cases h

/-- The configuration an accepted write request asks for, before it is finalised. -/
def requestedConfig (cfg : DeviceConfig) (req : ModbusRequest) : Option DeviceConfig :=
  if req.function = 0x06 then
    match req.data with
    | [d0, d1, d2, d3] => modbusWrittenConfig cfg (be16 d0 d1) (be16 d2 d3)
    | _ => none
  else none

/-- The configuration that a well-formed write request asks for. -/
theorem requestedConfig_write (cfg : DeviceConfig) (slaveAddr : UInt8) (regAddr value : UInt16) :
    requestedConfig cfg ⟨slaveAddr, 0x06, putBe16 regAddr ++ putBe16 value⟩ =
      modbusWrittenConfig cfg regAddr value := by
  show modbusWrittenConfig cfg (be16 _ _) (be16 _ _) = _
  rw [be16_putBe16, be16_putBe16]

/-- The register map accepts exactly the writes that `apply_modbus_write_to_app` acts on. -/
theorem mbRegsWriteSingle_eq_none_iff (regs : ModbusRegMap) (cfg : DeviceConfig)
    (regAddr value : UInt16) :
    mbRegsWriteSingle regs regAddr value = none ↔
      modbusWrittenConfig cfg regAddr value = none := by
  unfold mbRegsWriteSingle modbusWrittenConfig
  split_ifs <;> simp

/-- A request reaches the application only through the configuration it asks for. -/
theorem sys_handleModbusRequest (d : FlashDriver F) (n : Node F) (nowMs : UInt32)
    (req : ModbusRequest) :
    (handleModbusRequest d n nowMs req).1.sys =
      match requestedConfig n.sys.app.cfg req with
      | none => n.sys
      | some cfg => (appUpdateConfig d n.sys (storageFinalize cfg)).2 := by
  by_cases hread : req.function = 0x03
  · have hwrite : ¬ req.function = 0x06 := by
      rw [hread]
      decide
    simp only [handleModbusRequest, if_pos hread, requestedConfig, if_neg hwrite]
    rfl
  · by_cases hwrite : req.function = 0x06
    · simp only [handleModbusRequest, if_neg hread, requestedConfig, if_pos hwrite, handleWrite]
      split
      · next d0 d1 d2 d3 hdata =>
          -- the map refuses a write exactly when the application does
          have hiff := mbRegsWriteSingle_eq_none_iff (syncRegisters n nowMs).regs n.sys.app.cfg
            (be16 d0 d1) (be16 d2 d3)
          cases hregs : mbRegsWriteSingle (syncRegisters n nowMs).regs (be16 d0 d1)
              (be16 d2 d3) with
          | none =>
              rw [hiff.1 hregs]
              rfl
          | some regs => rfl
      · rfl
    · simp only [handleModbusRequest, if_neg hread, if_neg hwrite, requestedConfig]
      rfl

/-- The request the next `modbus_task` call handles. -/
def pendingRequest (n : Node F) : Option ModbusRequest :=
  n.srv.bind fun s => if s.event = .request then some s.request else none

/-- The effective sample period that the next `modbus_task` call sets, if it applies a
configuration. -/
def appliedPeriod (d : FlashDriver F) (n : Node F) : Option Nat :=
  (pendingRequest n).bind fun req =>
    (requestedConfig n.sys.app.cfg req).bind fun cfg =>
      if AppliesConfig d n.sys.flash (storageFinalize cfg) then
        some (ctrlEffectiveConfig (ctrlCfgOf cfg)).samplePeriodMs.toNat
      else none

theorem appliedPeriod_congr (d : FlashDriver F) {n n' : Node F} (hsrv : n'.srv = n.srv)
    (hcfg : n'.sys.app.cfg = n.sys.app.cfg) (hflash : n'.sys.flash = n.sys.flash) :
    appliedPeriod d n' = appliedPeriod d n := by
  simp only [appliedPeriod, pendingRequest, hsrv, hcfg, hflash]

/-- What `modbus_task` does to the application: it may re-initialise the controller, with the
applied period, and it marks the communication ticket. The server has no event left. -/
structure ModbusFacts (d : FlashDriver F) (n n' : Node F) : Prop where
  inv : CtrlInv n'.sys.app.ctrl
  quiet : ∀ s, n'.srv = some s → s.event = .none
  period : n'.sys.app.ctrl.cfg.samplePeriodMs.toNat =
    (appliedPeriod d n).getD n.sys.app.ctrl.cfg.samplePeriodMs.toNat
  nextSample : n'.sys.app.nextSampleMs = n.sys.app.nextSampleMs
  required : n'.sys.app.requiredTickets = n.sys.app.requiredTickets
  tickets : n'.sys.app.ticketMask = n.sys.app.ticketMask ||| ticketComm

/-- A handled request, with the ticket marked. -/
theorem modbusFacts_of_request (d : FlashDriver F) {n : Node F} {s : ModbusServer}
    {req : ModbusRequest} (nowMs : UInt32) (hinv : CtrlInv n.sys.app.ctrl)
    (hreq : pendingRequest n = some req) (hquiet : s.event = .none) :
    ModbusFacts d n
      (markTicket { (handleModbusRequest d n nowMs req).1 with srv := some s } ticketComm) := by
  have hquiet' : ∀ s', some s = some s' → s'.event = ModbusEvent.none := by
    rintro s' ⟨⟩
    exact hquiet
  have hsys := sys_handleModbusRequest d n nowMs req
  cases hcfg : requestedConfig n.sys.app.cfg req with
  | none =>
      rw [hcfg] at hsys
      have hperiod : appliedPeriod d n = none := by
        simp only [appliedPeriod, hreq, Option.bind_some, hcfg, Option.bind_none]
      constructor <;> simp only [markTicket, appMarkTicket, hsys, hperiod, Option.getD_none]
      · exact hinv
      · exact hquiet'
  | some cfg =>
      rw [hcfg] at hsys
      by_cases happ : AppliesConfig d n.sys.flash (storageFinalize cfg)
      · -- the controller is the one `ctrl_init` makes of the requested configuration
        simp only [appUpdateConfig_of_applies happ] at hsys
        have hperiod : appliedPeriod d n =
            some (ctrlEffectiveConfig (ctrlCfgOf cfg)).samplePeriodMs.toNat := by
          simp only [appliedPeriod, hreq, Option.bind_some, hcfg, if_pos happ]
        constructor <;> simp only [markTicket, appMarkTicket, hsys, hperiod, Option.getD_some]
        · exact ctrlInv_init _
        · exact hquiet'
        · rfl
      · obtain ⟨flash, cfg', heq⟩ := appUpdateConfig_of_not_applies happ
        simp only [heq] at hsys
        have hperiod : appliedPeriod d n = none := by
          simp only [appliedPeriod, hreq, Option.bind_some, hcfg, if_neg happ]
        constructor <;> simp only [markTicket, appMarkTicket, hsys, hperiod, Option.getD_none]
        · exact hinv
        · exact hquiet'

theorem modbusTask_facts (d : FlashDriver F) (i : McuInput) {n : Node F}
    (hinv : CtrlInv n.sys.app.ctrl) : ModbusFacts d n (modbusTask d i n) := by
  have hnone : ∀ s, s.event ≠ .request → (n.srv = none ∨ n.srv = some s) →
      appliedPeriod d n = none := by
    rintro s hs (h | h) <;> simp [appliedPeriod, pendingRequest, h, hs]
  cases hsrv : n.srv with
  | none =>
      have hinit := hnone (modbusServerInit 1 5) nofun (Or.inl hsrv)
      simp only [modbusTask, modbusServerTask, modbusTaskServer, hsrv, Option.getD_none,
        modbusServerInit]
      exact ⟨hinv, by rintro s ⟨⟩; rfl, by rw [hinit]; rfl, rfl, rfl, rfl⟩
  | some s =>
      simp only [modbusTask, modbusServerTask, modbusTaskServer, hsrv, Option.getD_some]
      -- the poll returns the server as it was
      have hsame : { n with srv := some s } = n := by
        rw [← hsrv]
      rw [hsame]
      cases hev : s.event with
      | request =>
          exact modbusFacts_of_request d i.nowMs hinv
            (by simp only [pendingRequest, hsrv, Option.bind_some, hev, if_true]) rfl
      | none =>
          have hn := hnone s (by rw [hev]; exact nofun) (Or.inr hsrv)
          refine ⟨hinv, ?_, by rw [hn]; rfl, rfl, rfl, rfl⟩
          intro s' hs'
          obtain rfl := Option.some.inj (hsrv.symm.trans hs')
          exact hev
      | _ =>
          have hn := hnone s (by rw [hev]; exact nofun) (Or.inr hsrv)
          exact ⟨hinv, by rintro s' ⟨⟩; rfl, by rw [hn]; rfl, rfl, rfl, rfl⟩

end Facts

end ClimateNode.Application
